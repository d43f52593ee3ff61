import ClusterClient.Config
import ClusterClient.Json.Shape

namespace ClusterClient

open Json (Doc Value Fields)

def ReadBalance.ofDoc? (doc : Doc) : Option ReadBalance := doc.caseName?.bind ofName?

def ClusterMode.ofDoc? (doc : Doc) : Option ClusterMode := doc.caseName?.bind ofName?

namespace StatusPolicy

def fieldNames : List String := ["retryable_statuses", "refresh_statuses"]

def ofDoc? (doc : Doc) : Option StatusPolicy := do
  let fields ← Fields.ofDoc? fieldNames doc
  let default : StatusPolicy := {}
  return {
    retryable := ←
      fields.optional "retryable_statuses" default.retryable (Doc.list? Doc.uint16?)
    refreshing := ←
      fields.optional "refresh_statuses" default.refreshing (Doc.list? Doc.uint16?) }

def toValue (p : StatusPolicy) : Value :=
  let list (statuses : List UInt16) : Value := .array (statuses.map fun s => .nat s.toNat)
  .object [("retryable_statuses", list p.retryable), ("refresh_statuses", list p.refreshing)]

end StatusPolicy

namespace Config

def fieldNames : List String :=
  ["urls", "database", "read_balance", "cluster_mode", "request_timeout_ms",
    "topology_refresh_interval_ms", "topology_updates", "cache_enabled", "cache_max_age_ms",
    "failover", "api_key"]

def ofDoc? (doc : Doc) : Option Config := do
  let fields ← Fields.ofDoc? fieldNames doc
  let default : Config := {}
  return {
    urls := ← fields.optional "urls" default.urls (Doc.list? Doc.text?)
    database := ← fields.optional "database" default.database (Doc.option? Doc.text?)
    readBalance := ← fields.optional "read_balance" default.readBalance ReadBalance.ofDoc?
    clusterMode := ← fields.optional "cluster_mode" default.clusterMode ClusterMode.ofDoc?
    requestTimeout := ←
      fields.optional "request_timeout_ms" default.requestTimeout Doc.uint64?
    refreshInterval := ←
      fields.optional "topology_refresh_interval_ms" default.refreshInterval Doc.uint64?
    topologyUpdates := ← fields.optional "topology_updates" default.topologyUpdates Doc.bool?
    cacheEnabled := ← fields.optional "cache_enabled" default.cacheEnabled Doc.bool?
    cacheMaxAge := ← fields.optional "cache_max_age_ms" default.cacheMaxAge Doc.uint64?
    statuses := ← fields.optional "failover" default.statuses StatusPolicy.ofDoc?
    apiKey := ← fields.optional "api_key" default.apiKey (Doc.option? Doc.text?) }

def toValue (c : Config) : Value := .object ([
  ("urls", .array (c.urls.map .string)),
  ("database", .optional c.database),
  ("read_balance", .string c.readBalance.name),
  ("cluster_mode", .string c.clusterMode.name),
  ("request_timeout_ms", .nat c.requestTimeout.toNat),
  ("topology_refresh_interval_ms", .nat c.refreshInterval.toNat),
  ("topology_updates", .bool c.topologyUpdates),
  ("cache_enabled", .bool c.cacheEnabled),
  ("cache_max_age_ms", .nat c.cacheMaxAge.toNat),
  ("failover", c.statuses.toValue)] ++ (c.apiKey.toList.map fun key => ("api_key", .string key)))

def ofJson (text : String) : Except Fault Config :=
  match (Doc.ofText? text).bind ofDoc? with
  | some config => config.validate
  | none => .error (.serialization none)

end Config

end ClusterClient
