import ClusterClient.Text.Blank

namespace ClusterClient

inductive ReadBalance
  | none
  | fastestNode
  | roundRobin
deriving DecidableEq, Repr, Inhabited

namespace ReadBalance

def name : ReadBalance → String
  | none => "none"
  | fastestNode => "fastest_node"
  | roundRobin => "round_robin"

def all : List ReadBalance := [none, fastestNode, roundRobin]

def ofName? (name : String) : Option ReadBalance := all.find? (·.name == name)

theorem ofName?_name (b : ReadBalance) : ofName? b.name = some b := by
  cases b <;> decide

def nameOfText (text : String) : String :=
  String.ofList ((Text.asciiLower text).toList.map fun c => if c = '-' then '_' else c)

def ofText? (text : String) : Option ReadBalance :=
  let name := nameOfText text
  if name = "fastest" then some fastestNode else ofName? name

def unknown (text : String) : String := "unknown read balance policy: " ++ nameOfText text

end ReadBalance

inductive ClusterMode
  | singleLeader
  | multiNode
deriving DecidableEq, Repr, Inhabited

namespace ClusterMode

def name : ClusterMode → String
  | singleLeader => "single_leader"
  | multiNode => "multi_node"

def all : List ClusterMode := [singleLeader, multiNode]

def ofName? (name : String) : Option ClusterMode := all.find? (·.name == name)

theorem ofName?_name (m : ClusterMode) : ofName? m.name = some m := by
  cases m <;> decide

end ClusterMode

structure StatusPolicy where
  retryable : List UInt16 := [502, 503, 504]
  /-- These also ask for a new topology: the node no longer serves the database. -/
  refreshing : List UInt16 := [410]
deriving DecidableEq, Repr, Inhabited

namespace StatusPolicy

def isReserved (status : UInt16) : Bool :=
  (200 ≤ status && status < 300) || status == 304 || status == 404 || status == 409

def firstReserved? (p : StatusPolicy) : Option UInt16 :=
  (p.retryable ++ p.refreshing).find? isReserved

end StatusPolicy

end ClusterClient
