import ClusterClient.Fault
import ClusterClient.Policy

namespace ClusterClient

structure Config where
  urls : List String := []
  database : Option String := none
  readBalance : ReadBalance := .none
  clusterMode : ClusterMode := .singleLeader
  requestTimeout : UInt64 := 30000
  refreshInterval : UInt64 := 60000
  topologyUpdates : Bool := true
  cacheEnabled : Bool := true
  cacheMaxAge : UInt64 := 300000
  statuses : StatusPolicy := {}
  apiKey : Option String := none
deriving DecidableEq, Repr, Inhabited

namespace Config

def hasScheme (url : String) : Bool :=
  "http://".toList.isPrefixOf url.toList || "https://".toList.isPrefixOf url.toList

def fault? (c : Config) : Option Fault :=
  if c.urls.isEmpty then some (.config .noUrls)
  else match c.urls.find? (!hasScheme ·) with
  | some url => some (.invalidUrl (.unknownScheme url))
  | none =>
    if c.database.any Text.isBlank then some (.config .blankDatabase)
    else if c.requestTimeout = 0 then some (.config .zeroTimeout)
    else if c.topologyUpdates && c.refreshInterval == 0 then some (.config .zeroInterval)
    else c.statuses.firstReserved?.map (.config <| .reservedStatus ·)

def validate (c : Config) : Except Fault Config :=
  match c.fault? with
  | some fault => .error fault
  | none => .ok c

def ofText (read : String → Option Config) (text : String) : Except Fault Config :=
  match read text with
  | some config => config.validate
  | none => .error (.config .malformedYaml)

end Config

end ClusterClient
