import ClusterClient.Node
import ClusterClient.Roster

namespace ClusterClient

structure Topology where
  nodes : List Node
  etag : Int64
  leader : Option String := none
deriving DecidableEq, Repr, Inhabited

namespace Topology

def seedEtag : Int64 := -1

def seed (urls : List String) (database : Option String) : Topology :=
  ⟨urls.map (Node.seed · database), seedEtag, none⟩

def isSeed (t : Topology) : Bool := t.etag == seedEtag

def size (t : Topology) : Nat := t.nodes.length

def leaderIndex? (t : Topology) : Option Nat := do
  let leader ← t.leader
  t.nodes.findIdx? (·.tag = leader)

def nodeByTag? (t : Topology) (tag : String) : Option Node := t.nodes.find? (·.tag = tag)

def supersedes (t held : Topology) : Bool := held.etag < t.etag

def offer (held offered : Topology) : Topology × Bool :=
  if offered.supersedes held then (offered, true) else (held, false)

end Topology

structure DatabaseReport where
  nodes : List Node
  etag : Int64
deriving DecidableEq, Repr, Inhabited

def DatabaseReport.topology (r : DatabaseReport) : Topology := ⟨r.nodes, r.etag, none⟩

structure Membership where
  members : Roster
  promotables : Roster
  watchers : Roster
deriving DecidableEq, Repr, Inhabited

def Membership.groups (m : Membership) : List (Role × Roster) :=
  [(.member, m.members), (.promotable, m.promotables), (.watcher, m.watchers)]

structure ClusterReport where
  leader : Option String
  etag : Int64
  membership : Membership
deriving DecidableEq, Repr, Inhabited

def ClusterReport.topology (r : ClusterReport) : Topology :=
  let nodes := r.membership.groups.flatMap fun (role, roster) =>
    roster.entries.map fun (tag, url) => ({ url, tag, role } : Node)
  ⟨nodes, r.etag, r.leader⟩

end ClusterClient
