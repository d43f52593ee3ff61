import ClusterClient.Cache
import ClusterClient.Config
import ClusterClient.Notify
import ClusterClient.RequestId
import ClusterClient.Selection
import ClusterClient.Topology.Wire

namespace ClusterClient

inductive Source
  | database (name : String)
  | cluster
deriving DecidableEq, Repr, Inhabited

namespace Source

def ofDatabase : Option String → Source
  | some name => database name
  | none => cluster

def database? : Source → Option String
  | database name => some name
  | cluster => none

def descriptor : Source → Descriptor
  | database name => .databaseTopology name
  | cluster => .clusterTopology

def parse? (source : Source) (body : Bytes) : Option Topology :=
  match source with
  | database _ => (DatabaseReport.ofBytes? body).map DatabaseReport.topology
  | cluster => (ClusterReport.ofBytes? body).map ClusterReport.topology

end Source

structure Settings where
  source : Source
  seeds : List String
  apiKey : Option String := none
  timeout : Nat
  statuses : StatusPolicy := {}
  topologyUpdates : Bool := false
  refreshInterval : Nat := 0
  cacheEnabled : Bool := false
deriving DecidableEq, Repr, Inhabited

/-- A refresh under way: the snapshot it began with, the node that is being asked, the nodes to
ask after it, and those that have failed. -/
structure Refresh where
  snapshot : Topology
  asked : Node
  remaining : List Node
  failures : List NodeFailure := []
deriving Repr, Inhabited

structure Loop where
  id : Nat
  interval : Nat
  evicts : Bool
  nextTick : Nat
  refresh : Option Refresh := none
deriving Repr, Inhabited

structure Watch where
  inFlight : Nat := 0
  lastFault : Option Fault := none
  lastRefresh : Option Nat := none
  requests : Nat := 0
  notify : Notify := {}
  active : Option Nat := none
  started : Nat := 0
  loops : List Loop := []
deriving Repr, Inhabited

structure Client where
  settings : Settings
  topology : Topology
  cache : Cache
  selector : Selector
  ids : IdSource := .sequential 0
  watch : Watch := {}
  rotation : UInt64 := 0
  isBootstrapped : Bool := false
deriving Inhabited

namespace Client

def new (config : Config) (ids : IdSource) : Except Fault Client := do
  let config ← config.validate
  return {
    settings := {
      source := .ofDatabase config.database
      seeds := config.urls
      apiKey := config.apiKey
      timeout := config.requestTimeout.toNat
      statuses := config.statuses
      topologyUpdates := config.topologyUpdates
      refreshInterval := config.refreshInterval.toNat
      cacheEnabled := config.cacheEnabled }
    topology := .seed config.urls config.database
    cache := { maxAge := config.cacheMaxAge.toNat }
    selector := ⟨config.readBalance, config.clusterMode, []⟩
    ids }

def database? (c : Client) : Option String := c.settings.source.database?

def databaseFor (c : Client) (d : Descriptor) : Option String :=
  match d.scope with
  | .database => c.database?
  | .server => none

def modifyWatch (c : Client) (f : Watch → Watch) : Client := { c with watch := f c.watch }

def modifyNotify (c : Client) (f : Notify → Notify) : Client :=
  c.modifyWatch fun w => { w with notify := f w.notify }

def modifyStats (c : Client) (f : NodeStats → NodeStats) : Client :=
  { c with selector := { c.selector with stats := f c.selector.stats } }

def offer (c : Client) (t : Topology) : Client × Bool :=
  let (held, installed) := c.topology.offer t
  ({ c with topology := held }, installed)

def requestRefresh (c : Client) : Client :=
  c.modifyWatch fun w => { w with requests := w.requests + 1, notify := w.notify.notify }

def isRunning (c : Client) : Bool := c.watch.active.isSome

/-- Starts a loop, unless one is in force. A loop without an interval never does anything. -/
def startLoop (c : Client) (now interval : Nat) (evicts : Bool) : Client :=
  c.modifyWatch fun w =>
    if w.active.isSome then w
    else
      let id := w.started
      let loop : Loop := { id, interval, evicts, nextTick := now + interval }
      { w with
        active := some id
        started := id + 1
        loops := if interval = 0 then w.loops else w.loops ++ [loop] }

def close (c : Client) : Client := c.modifyWatch fun w => { w with active := none }

end Client

end ClusterClient
