import ClusterClient.Fault
import ClusterClient.Latency
import ClusterClient.Policy
import ClusterClient.Topology

namespace ClusterClient

structure NodeStat where
  averageLatency : Option Nat := none
  successes : Nat := 0
  failures : Nat := 0
  isFailing : Bool := false
deriving DecidableEq, Repr, Inhabited

namespace NodeStat

def succeed (s : NodeStat) (latency : Nat) : NodeStat :=
  { s with
    averageLatency := some (Latency.average s.averageLatency latency)
    successes := s.successes + 1
    isFailing := false }

def fail (s : NodeStat) : NodeStat :=
  { s with failures := s.failures + 1, isFailing := true }

end NodeStat

abbrev NodeStats := List (String × NodeStat)

namespace NodeStats

def find? (stats : NodeStats) (url : String) : Option NodeStat :=
  (List.find? (·.1 = url) stats).map (·.2)

def get (stats : NodeStats) (url : String) : NodeStat := (stats.find? url).getD {}

def update (stats : NodeStats) (url : String) (f : NodeStat → NodeStat) : NodeStats :=
  if (stats.find? url).isSome then
    stats.map fun e => if e.1 = url then (url, f e.2) else e
  else stats ++ [(url, f {})]

def recordSuccess (stats : NodeStats) (url : String) (latency : Nat) : NodeStats :=
  stats.update url (·.succeed latency)

def recordFailure (stats : NodeStats) (url : String) : NodeStats :=
  stats.update url NodeStat.fail

def failures (stats : NodeStats) : List (String × Nat) :=
  (stats.filter fun e => 0 < e.2.failures).map fun e => (e.1, e.2.failures)

end NodeStats

structure Selector where
  readBalance : ReadBalance
  clusterMode : ClusterMode
  stats : NodeStats := []
deriving DecidableEq, Repr, Inhabited

namespace Selector

def least : List (Nat × Nat) → Option (Nat × Nat)
  | [] => none
  | entry :: rest =>
    match least rest with
    | none => some entry
    | some best => if best.2 < entry.2 then some best else some entry

def healthy (s : Selector) (t : Topology) : List (Node × Nat) :=
  t.nodes.zipIdx.filter fun e => !(s.stats.get e.1.url).isFailing

def measured (s : Selector) (t : Topology) : List (Nat × Nat) :=
  (s.healthy t).filterMap fun e =>
    (s.stats.get e.1.url).averageLatency.map fun latency => (e.2, latency)

def fastest (s : Selector) (t : Topology) : Nat :=
  match least (s.measured t) with
  | some best => best.1
  | none =>
    match s.healthy t with
    | e :: _ => e.2
    | [] => 0

def firstForRead (s : Selector) (t : Topology) (seed : UInt64) : Nat :=
  match s.readBalance with
  | .none => 0
  | .roundRobin => seed.toNat % t.size
  | .fastestNode => s.fastest t

def firstForWrite (s : Selector) (t : Topology) : Nat :=
  match s.clusterMode with
  | .singleLeader => t.leaderIndex?.getD 0
  | .multiNode => 0

/-- The indices of the nodes in the order in which one call tries them. The seed matters for
rotating reads only. -/
def select (s : Selector) (t : Topology) (isRead : Bool) (seed : UInt64) :
    Except Fault (List Nat) :=
  if t.size = 0 then .error .emptyTopology
  else
    let first := if isRead then s.firstForRead t seed else s.firstForWrite t
    .ok (first :: (List.range t.size).filter (· ≠ first))

end Selector

end ClusterClient
