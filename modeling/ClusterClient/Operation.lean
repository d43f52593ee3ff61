import ClusterClient.Loop

namespace ClusterClient

namespace Cache

inductive Operation
  | put (key : Key) (validator : String) (payload : Bytes)
  | get (key : Key)
  | remove (key : Key)
  | invalidate (database : Option String) (stem : String)
  | evict
  | clear
deriving DecidableEq, Repr, Inhabited

inductive Answer
  | nothing
  | found (entry : Option (Entry × Nat))
  | removed (there : Bool)
  | count (n : Nat)
deriving DecidableEq, Repr, Inhabited

def perform (c : Cache) (now : Nat) : Operation → Cache × Answer
  | .put key validator payload => (c.put now key validator payload, .nothing)
  | .get key =>
    let (c, entry) := c.get now key
    (c, .found (entry.map fun e => (e, now - e.storedAt)))
  | .remove key =>
    let (c, there) := c.remove key
    (c, .removed there)
  | .invalidate database stem =>
    let (c, n) := c.invalidate database stem
    (c, .count n)
  | .evict =>
    let (c, n) := c.evictExpired now
    (c, .count n)
  | .clear => (c.clear, .nothing)

end Cache

namespace Selector

inductive Operation
  | succeed (url : String) (latency : Nat)
  | fail (url : String)
  | stat (url : String)
  | failures
  | reset
  | select (isRead : Bool) (seed : UInt64)
deriving DecidableEq, Repr, Inhabited

inductive Answer
  | nothing
  | stat (s : NodeStat)
  | failures (counts : List (String × Nat))
  | order (candidates : Except Fault (List Nat))
deriving Repr, Inhabited

def perform (s : Selector) (t : Topology) : Operation → Selector × Answer
  | .succeed url latency =>
    let stats := s.stats.recordSuccess url latency
    ({ s with stats }, .stat (stats.get url))
  | .fail url =>
    let stats := s.stats.recordFailure url
    ({ s with stats }, .stat (stats.get url))
  | .stat url => (s, .stat (s.stats.get url))
  | .failures => (s, .failures s.stats.failures)
  | .reset => ({ s with stats := [] }, .nothing)
  | .select isRead seed => (s, .order (s.select t isRead seed))

end Selector

structure Status where
  etag : Int64
  nodes : Nat
  leader : Option String
  cached : Nat
  hits : Nat
  misses : Nat
  isRefreshing : Bool
  isRunning : Bool
  requests : Nat
  lastFault : Option Fault
  sinceRefresh : Option Nat
  failures : List (String × Nat)
deriving Repr, Inhabited

namespace Client

def isRefreshing (c : Client) : Bool := 0 < c.watch.inFlight

def status (c : Client) (now : Nat) : Status where
  etag := c.topology.etag
  nodes := c.topology.size
  leader := c.topology.leader
  cached := c.cache.size
  hits := c.cache.hits
  misses := c.cache.misses
  isRefreshing := c.isRefreshing
  isRunning := c.isRunning
  requests := c.watch.requests
  lastFault := c.watch.lastFault
  sinceRefresh := c.watch.lastRefresh.map (now - ·)
  failures := c.selector.stats.failures

def summary (c : Client) : String :=
  "RequestExecutor \x7b database: " ++ Text.Quoted.optional c.database? ++ ", topology_etag: " ++
    toString c.topology.etag.toInt ++ ", cached_entries: " ++ toString c.cache.size ++ ", .. \x7d"

def watchSummary (c : Client) : String :=
  let source := match c.settings.source with
    | .database name => "Database(" ++ Text.Quoted.quote name ++ ")"
    | .cluster => "Cluster"
  let state := if c.isRefreshing then "Refreshing" else "Idle"
  "TopologyWatcher \x7b source: " ++ source ++ ", state: " ++ state ++ ", refresh_requests: " ++
    toString c.watch.requests ++ ", .. \x7d"

inductive Operation
  | cache (op : Cache.Operation)
  | selector (op : Selector.Operation)
  | offer (t : Topology)
  | topology
  | requestRefresh
  | start (interval : Nat) (evicts : Bool)
  | close
  | status
  | summary
deriving DecidableEq, Repr, Inhabited

inductive Answer
  | nothing
  | cache (a : Cache.Answer)
  | selector (a : Selector.Answer)
  | installed (yes : Bool)
  | topology (t : Topology)
  | status (s : Status)
  | summary (client watch : String)
deriving Repr, Inhabited

def perform (c : Client) (now : Nat) : Operation → Client × Answer
  | .cache op =>
    let (cache, a) := c.cache.perform now op
    ({ c with cache }, .cache a)
  | .selector op =>
    let (selector, a) := c.selector.perform c.topology op
    ({ c with selector }, .selector a)
  | .offer t =>
    let (c, installed) := c.offer t
    (c, .installed installed)
  | .topology => (c, .topology c.topology)
  | .requestRefresh => (c.requestRefresh, .nothing)
  | .start interval evicts => (c.startLoop now interval evicts, .nothing)
  | .close => (c.close, .nothing)
  | .status => (c, .status (c.status now))
  | .summary => (c, .summary c.summary c.watchSummary)

end Client

end ClusterClient
