import ClusterClient.Proofs.FirstChoice

namespace ClusterClient

namespace Roster

def url? (r : Roster) (tag : String) : Option String := Rising.find? tag r.entries

def size (r : Roster) : Nat := r.entries.length

end Roster

def Membership.roster (m : Membership) : Role → Roster
  | .member => m.members
  | .promotable => m.promotables
  | .watcher => m.watchers

def Role.rank : Role → Nat
  | member => 0
  | promotable => 1
  | watcher => 2

namespace Node

def Precedes (n n' : Node) : Prop :=
  n.role.rank < n'.role.rank ∨ n.role = n'.role ∧ n.tag < n'.tag

def entry (n : Node) : String × String × Role := (n.tag, n.url, n.role)

theorem Precedes.entry_ne {n n' : Node} (precedes : n.Precedes n') : n.entry ≠ n'.entry := by
  intro same
  simp only [entry, Prod.mk.injEq] at same
  rcases precedes with less | ⟨-, less⟩
  · rw [same.2.2] at less
    exact Nat.lt_irrefl _ less
  · rw [same.1] at less
    exact String.lt_irrefl _ less

end Node

namespace ClusterReport

variable (r : ClusterReport)

theorem nodes_topology : r.topology.nodes = [Role.member, .promotable, .watcher].flatMap fun role =>
    (r.membership.roster role).entries.map fun e => ⟨e.2, e.1, none, role⟩ := rfl

theorem mem_nodes {node : Node} : node ∈ r.topology.nodes ↔
    node.database = none ∧ (r.membership.roster node.role).url? node.tag = some node.url := by
  rw [nodes_topology, List.mem_flatMap, Roster.url?,
    Rising.find?_eq_some_iff (r.membership.roster node.role).rising]
  constructor
  · rintro ⟨role, -, member⟩
    obtain ⟨e, inside, rfl⟩ := List.mem_map.1 member
    exact ⟨rfl, inside⟩
  · rintro ⟨unnamed, inside⟩
    have listed : node.role ∈ [Role.member, .promotable, .watcher] := by
      cases node.role <;> simp
    refine ⟨node.role, listed, List.mem_map.2 ⟨_, inside, ?_⟩⟩
    rw [← unnamed]

theorem pairwise_nodes : r.topology.nodes.Pairwise Node.Precedes := by
  rw [nodes_topology, List.pairwise_flatMap]
  constructor
  · intro role _
    apply List.pairwise_map.2
    apply (r.membership.roster role).rising.imp
    intro e e' less
    exact .inr ⟨rfl, less⟩
  · have ranks : [Role.member, .promotable, .watcher].Pairwise (·.rank < ·.rank) := by decide
    apply ranks.imp
    intro role role' less node member node' member'
    obtain ⟨e, -, rfl⟩ := List.mem_map.1 member
    obtain ⟨e', -, rfl⟩ := List.mem_map.1 member'
    exact .inl less

theorem mem_entries {tag url : String} {role : Role} :
    (tag, url, role) ∈ r.topology.nodes.map Node.entry ↔
      (r.membership.roster role).url? tag = some url := by
  constructor
  · intro member
    obtain ⟨node, inside, same⟩ := List.mem_map.1 member
    cases same
    exact ((mem_nodes r).1 inside).2
  · intro known
    exact List.mem_map.2 ⟨⟨url, tag, none, role⟩, (mem_nodes r).2 ⟨rfl, known⟩, rfl⟩

theorem count_entries {tag url : String} {role : Role} :
    (r.topology.nodes.map Node.entry).count (tag, url, role) = 1 ↔
      (r.membership.roster role).url? tag = some url := by
  have distinct : (r.topology.nodes.map Node.entry).Nodup :=
    List.pairwise_map.2 ((pairwise_nodes r).imp Node.Precedes.entry_ne)
  rw [← mem_entries, distinct.count]
  split
  · rename_i member
    exact iff_of_true rfl member
  · rename_i absent
    exact iff_of_false Nat.zero_ne_one absent

theorem exists_isTagged {tag : String} : (∃ i, r.topology.IsTagged tag i) ↔
    ∃ role url, (r.membership.roster role).url? tag = some url := by
  constructor
  · rintro ⟨i, node, there, rfl⟩
    exact ⟨node.role, node.url, ((mem_nodes r).1 (List.mem_of_getElem? there)).2⟩
  · rintro ⟨role, url, known⟩
    have member : ⟨url, tag, none, role⟩ ∈ r.topology.nodes := (mem_nodes r).2 ⟨rfl, known⟩
    obtain ⟨i, there⟩ := List.getElem?_of_mem member
    exact ⟨i, _, there, rfl⟩

theorem leaderIndex?_eq_none_iff : r.topology.leaderIndex? = none ↔
    ∀ tag, r.leader = some tag → ∀ role, (r.membership.roster role).url? tag = none := by
  constructor
  · intro absent tag named role
    by_contra known
    obtain ⟨url, known⟩ := Option.ne_none_iff_exists'.1 known
    obtain ⟨i, tagged⟩ := (exists_isTagged r).2 ⟨role, url, known⟩
    exact Topology.leaderIndex?_eq_none absent named i tagged
  · intro unknown
    cases found : r.topology.leaderIndex? with
    | none => rfl
    | some i =>
        obtain ⟨tag, named, ⟨tagged, -⟩⟩ := Topology.isLeast_leaderIndex? found
        obtain ⟨role, url, known⟩ := (exists_isTagged r).1 ⟨i, tagged⟩
        rw [unknown tag named role] at known
        cases known

theorem member_of_leaderIndex? {i : Nat} (found : r.topology.leaderIndex? = some i)
    {tag url : String} (named : r.leader = some tag)
    (known : r.membership.members.url? tag = some url) :
    r.topology.nodes[i]? = some ⟨url, tag, none, .member⟩ := by
  -- If the leader is a member then it is found as such, whatever other roles its tag has.
  obtain ⟨leader, named', ⟨node, there, same⟩, least⟩ := Topology.isLeast_leaderIndex? found
  obtain rfl : tag = leader := Option.some.inj (named.symm.trans named')
  have member : ⟨url, tag, none, .member⟩ ∈ r.topology.nodes := (mem_nodes r).2 ⟨rfl, known⟩
  obtain ⟨j, elsewhere⟩ := List.getElem?_of_mem member
  rcases Nat.eq_or_lt_of_le (least ⟨_, elsewhere, rfl⟩) with rfl | less
  · exact elsewhere
  · obtain ⟨inside, eq⟩ := List.getElem?_eq_some_iff.1 there
    obtain ⟨inside', eq'⟩ := List.getElem?_eq_some_iff.1 elsewhere
    have precedes := List.pairwise_iff_getElem.1 (pairwise_nodes r) i j inside inside' less
    rw [eq, eq'] at precedes
    rcases precedes with lower | ⟨-, lower⟩
    · exact absurd lower (Nat.not_lt_zero _)
    · rw [same] at lower
      exact absurd lower (String.lt_irrefl _)

theorem size_topology : r.topology.size =
    r.membership.members.size + r.membership.promotables.size + r.membership.watchers.size := by
  rw [Topology.size, nodes_topology]
  simp [Roster.size, Membership.roster, Nat.add_assoc]

end ClusterReport

theorem Selector.select_leader {s : Selector} {t : Topology} {i : Nat}
    (single : s.clusterMode = .singleLeader) (found : t.leaderIndex? = some i) (seed : UInt64) :
    ∃ rest, s.select t false seed = .ok (i :: rest) := by
  have nonempty : t.size ≠ 0 := Nat.ne_of_gt (Nat.zero_lt_of_lt (Topology.leaderIndex?_lt found))
  have first : s.firstForWrite t = i := by
    rw [firstForWrite, single, found]
    rfl
  rw [select, if_neg nonempty]
  exact ⟨_, by rw [if_neg Bool.false_ne_true, first]⟩

/-- What a snapshot keeps of a report of the cluster. -/
structure Topology.Keeps (t : Topology) (r : ClusterReport) : Prop where
  inOrder : t.nodes.Pairwise Node.Precedes
  each : ∀ tag url role, (t.nodes.map Node.entry).count (tag, url, role) = 1 ↔
    (r.membership.roster role).url? tag = some url
  size : t.size =
    r.membership.members.size + r.membership.promotables.size + r.membership.watchers.size
  etag : t.etag = r.etag
  leader : t.leader = r.leader
  unled : t.leaderIndex? = none ↔
    ∀ tag, r.leader = some tag → ∀ role, (r.membership.roster role).url? tag = none
  led : ∀ i, t.leaderIndex? = some i → ∃ tag node, r.leader = some tag ∧
    t.nodes[i]? = some node ∧ node.tag = tag ∧
    (∀ url, r.membership.members.url? tag = some url → node = ⟨url, tag, none, .member⟩) ∧
    ∀ s : Selector, s.clusterMode = .singleLeader → ∀ seed, ∃ rest,
      s.select t false seed = .ok (i :: rest)

theorem reports_convert_without_loss (r : ClusterReport) : r.topology.Keeps r := by
  constructor
  case inOrder => exact r.pairwise_nodes
  case each => exact fun tag url role => r.count_entries
  case size => exact r.size_topology
  case etag => rfl
  case leader => rfl
  case unled => exact r.leaderIndex?_eq_none_iff
  case led =>
    intro i found
    obtain ⟨tag, named, ⟨node, there, tagged⟩, -⟩ := Topology.isLeast_leaderIndex? found
    refine ⟨tag, node, named, there, tagged, ?_, ?_⟩
    · intro url known
      have member := r.member_of_leaderIndex? found named known
      exact Option.some.inj (there.symm.trans member)
    · intro s single seed
      exact Selector.select_leader single found seed

example :
    let r : ClusterReport := ⟨some "B", 9, {
      members := .ofList [("B", "http://b"), ("A", "http://a")]
      promotables := .ofList [("C", "http://c"), ("B", "http://other")]
      watchers := .empty }⟩
    r.topology.nodes.map (·.tag) = ["A", "B", "B", "C"] ∧ r.topology.leaderIndex? = some 1 := by
  decide +kernel

end ClusterClient
