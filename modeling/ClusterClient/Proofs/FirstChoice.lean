import ClusterClient.Proofs.Candidates
import Mathlib.Order.Bounds.Basic

namespace ClusterClient

def Topology.IsTagged (t : Topology) (tag : String) (i : Nat) : Prop :=
  ∃ node, t.nodes[i]? = some node ∧ node.tag = tag

theorem Topology.isLeast_leaderIndex? {t : Topology} {i : Nat} (found : t.leaderIndex? = some i) :
    ∃ leader, t.leader = some leader ∧ IsLeast {j | t.IsTagged leader j} i := by
  obtain ⟨leader, named, located⟩ := Option.bind_eq_some_iff.1 found
  obtain ⟨bound, tagged, earlier⟩ := List.findIdx?_eq_some_iff_getElem.1 located
  refine ⟨leader, named, ⟨_, List.getElem?_eq_getElem bound, by simpa using tagged⟩, ?_⟩
  rintro j ⟨node, there, same⟩
  apply Nat.le_of_not_lt
  intro less
  obtain ⟨inside, eq⟩ := List.getElem?_eq_some_iff.1 there
  have other := earlier j less
  rw [eq] at other
  exact other (by simpa using same)

theorem Topology.leaderIndex?_eq_none {t : Topology} (absent : t.leaderIndex? = none)
    {leader : String} (named : t.leader = some leader) (i : Nat) : ¬t.IsTagged leader i := by
  rintro ⟨node, there, same⟩
  have unknown : t.nodes.findIdx? (·.tag = leader) = none := by
    simpa [leaderIndex?, named] using absent
  have other := List.findIdx?_eq_none_iff.1 unknown node (List.mem_of_getElem? there)
  simp [same] at other

namespace Selector

def IsHealthy (s : Selector) (t : Topology) (i : Nat) : Prop :=
  ∃ node, t.nodes[i]? = some node ∧ (s.stats.get node.url).isFailing = false

def Measures (s : Selector) (t : Topology) (i latency : Nat) : Prop :=
  ∃ node, t.nodes[i]? = some node ∧ (s.stats.get node.url).isFailing = false ∧
    (s.stats.get node.url).averageLatency = some latency

def IsQuickest (s : Selector) (t : Topology) (i : Nat) : Prop :=
  ∃ latency, s.Measures t i latency ∧ ∀ j other, s.Measures t j other → latency ≤ other

variable {s : Selector} {t : Topology}

theorem Measures.isHealthy {i latency : Nat} (measures : s.Measures t i latency) :
    s.IsHealthy t i := by
  obtain ⟨node, there, sound, -⟩ := measures
  exact ⟨node, there, sound⟩

theorem mem_healthy {e : Node × Nat} :
    e ∈ s.healthy t ↔ t.nodes[e.2]? = some e.1 ∧ (s.stats.get e.1.url).isFailing = false := by
  simp [healthy, List.mem_zipIdx_iff_getElem?]

theorem mem_measured {e : Nat × Nat} : e ∈ s.measured t ↔ s.Measures t e.1 e.2 := by
  obtain ⟨i, latency⟩ := e
  simp only [measured, List.mem_filterMap, mem_healthy, Option.map_eq_some_iff, Prod.mk.injEq]
  constructor
  · rintro ⟨⟨node, j⟩, ⟨there, sound⟩, _, measured, rfl, rfl⟩
    exact ⟨node, there, sound, measured⟩
  · rintro ⟨node, there, sound, measured⟩
    exact ⟨(node, i), ⟨there, sound⟩, latency, measured, rfl, rfl⟩

theorem pairwise_healthy (s : Selector) (t : Topology) :
    (s.healthy t).Pairwise (·.2 < ·.2) := by
  apply List.Pairwise.filter
  apply List.pairwise_map.1
  rw [List.zipIdx_map_snd]
  exact List.pairwise_lt_range'

theorem pairwise_measured (s : Selector) (t : Topology) :
    (s.measured t).Pairwise (·.1 < ·.1) := by
  refine (pairwise_healthy s t).filterMap _ fun e e' less => ?_
  intro b first b' second
  obtain ⟨_, -, rfl⟩ := Option.map_eq_some_iff.1 first
  obtain ⟨_, -, rfl⟩ := Option.map_eq_some_iff.1 second
  exact less

theorem least_eq_none {entries : List (Nat × Nat)} (none : least entries = none) :
    entries = [] := by
  cases entries with
  | nil => rfl
  | cons entry rest =>
      rw [least] at none
      split at none
      · cases none
      · split at none <;> cases none

theorem least_splits {entries : List (Nat × Nat)} {best : Nat × Nat}
    (chosen : least entries = some best) : ∃ before after,
      entries = before ++ best :: after ∧ (∀ e ∈ before, best.2 < e.2) ∧
        ∀ e ∈ after, best.2 ≤ e.2 := by
  induction entries generalizing best with
  | nil => cases chosen
  | cons entry rest ih =>
      rw [least] at chosen
      cases later : least rest with
      | none =>
          rw [later] at chosen
          cases chosen
          rw [least_eq_none later]
          exact ⟨[], [], rfl, by simp, by simp⟩
      | some other =>
          obtain ⟨before, after, rfl, above, bound⟩ := ih later
          rw [later] at chosen
          dsimp only at chosen
          split at chosen
          · rename_i less
            cases chosen
            exact ⟨entry :: before, after, rfl, List.forall_mem_cons.2 ⟨less, above⟩, bound⟩
          · rename_i notLess
            cases chosen
            have least : entry.2 ≤ other.2 := Nat.le_of_not_lt notLess
            refine ⟨[], _, rfl, by simp, fun e member => ?_⟩
            rcases List.mem_append.1 member with earlier | later
            · exact Nat.le_trans least (Nat.le_of_lt (above e earlier))
            · rcases List.mem_cons.1 later with rfl | later
              · exact least
              · exact Nat.le_trans least (bound e later)

theorem isLeast_least {best : Nat × Nat} (chosen : least (s.measured t) = some best) :
    IsLeast {i | s.IsQuickest t i} best.1 := by
  obtain ⟨before, after, split, above, bound⟩ := least_splits chosen
  have inOrder := pairwise_measured s t
  have every {i latency : Nat} (measures : s.Measures t i latency) :
      (i, latency) ∈ before ∨ (i, latency) = best ∨ (i, latency) ∈ after := by
    rw [← mem_measured (e := (i, latency)), split] at measures
    simpa using measures
  have own : s.Measures t best.1 best.2 :=
    mem_measured.1 (split ▸ List.mem_append_right before List.mem_cons_self)
  constructor
  · refine ⟨best.2, own, fun j other measures => ?_⟩
    rcases every measures with earlier | same | later
    · exact Nat.le_of_lt (above _ earlier)
    · exact Nat.le_of_eq (congrArg Prod.snd same).symm
    · exact bound _ later
  · rintro i ⟨latency, measures, lowest⟩
    rcases every measures with earlier | same | later
    · -- An earlier entry has a higher latency, so its node is none of the quickest.
      have high : best.2 < latency := above _ earlier
      exact absurd (lowest _ _ own) (Nat.not_le_of_lt high)
    · exact Nat.le_of_eq (congrArg Prod.fst same).symm
    · rw [split] at inOrder
      have first := (List.pairwise_cons.1 (List.pairwise_append.1 inOrder).2.1).1
      exact Nat.le_of_lt (first _ later)

theorem isLeast_healthy {e : Node × Nat} {rest : List (Node × Nat)}
    (first : s.healthy t = e :: rest) : IsLeast {i | s.IsHealthy t i} e.2 := by
  have inOrder := pairwise_healthy s t
  rw [first] at inOrder
  constructor
  · exact ⟨e.1, mem_healthy.1 (first ▸ List.mem_cons_self)⟩
  · rintro i ⟨node, sound⟩
    have member : (node, i) ∈ s.healthy t := mem_healthy.2 sound
    rw [first] at member
    rcases List.mem_cons.1 member with same | later
    · exact Nat.le_of_eq (congrArg Prod.snd same).symm
    · exact Nat.le_of_lt ((List.pairwise_cons.1 inOrder).1 _ later)

/-- The node with which a call begins, by what it is for and by what the selector is set to. -/
inductive FirstChoice (s : Selector) (t : Topology) (seed : UInt64) : Bool → Nat → Prop
  | leader {tag : String} {i : Nat} (single : s.clusterMode = .singleLeader)
      (named : t.leader = some tag) (least : IsLeast {j | t.IsTagged tag j} i) :
      FirstChoice s t seed false i
  | leaderless (unled : s.clusterMode = .singleLeader → ∀ tag, t.leader = some tag →
        ∀ i, ¬t.IsTagged tag i) :
      FirstChoice s t seed false 0
  | unbalanced (balance : s.readBalance = .none) : FirstChoice s t seed true 0
  | rotating (balance : s.readBalance = .roundRobin) :
      FirstChoice s t seed true (seed.toNat % t.size)
  | quickest {i : Nat} (balance : s.readBalance = .fastestNode)
      (least : IsLeast {j | s.IsQuickest t j} i) : FirstChoice s t seed true i
  | unmeasured {i : Nat} (balance : s.readBalance = .fastestNode)
      (unknown : ∀ j latency, ¬s.Measures t j latency)
      (least : IsLeast {j | s.IsHealthy t j} i) : FirstChoice s t seed true i
  | failing (balance : s.readBalance = .fastestNode) (fail : ∀ j, ¬s.IsHealthy t j) :
      FirstChoice s t seed true 0

theorem firstChoice_write (s : Selector) (t : Topology) (seed : UInt64) :
    s.FirstChoice t seed false (s.firstForWrite t) := by
  unfold firstForWrite
  cases mode : s.clusterMode with
  | multiNode =>
      apply FirstChoice.leaderless
      intro single
      rw [mode] at single
      cases single
  | singleLeader =>
      cases found : t.leaderIndex? with
      | some i =>
          obtain ⟨leader, named, least⟩ := Topology.isLeast_leaderIndex? found
          exact .leader mode named least
      | none =>
          apply FirstChoice.leaderless
          intro _ leader named
          exact Topology.leaderIndex?_eq_none found named

theorem firstChoice_fastest (balance : s.readBalance = .fastestNode) (seed : UInt64) :
    s.FirstChoice t seed true (s.fastest t) := by
  unfold fastest
  split
  · rename_i best chosen
    exact .quickest balance (isLeast_least chosen)
  · rename_i none
    have unknown (j latency : Nat) : ¬s.Measures t j latency := by
      rw [← mem_measured (e := (j, latency)), least_eq_none none]
      exact List.not_mem_nil
    split
    · rename_i e rest first
      exact .unmeasured balance unknown (isLeast_healthy first)
    · rename_i empty
      apply FirstChoice.failing balance
      rintro j ⟨node, sound⟩
      have member : (node, j) ∈ s.healthy t := mem_healthy.2 sound
      rw [empty] at member
      cases member

theorem firstChoice_read (s : Selector) (t : Topology) (seed : UInt64) :
    s.FirstChoice t seed true (s.firstForRead t seed) := by
  unfold firstForRead
  split
  · rename_i balance
    exact .unbalanced balance
  · rename_i balance
    exact .rotating balance
  · rename_i balance
    exact firstChoice_fastest balance seed

theorem FirstChoice.isHealthy {seed : UInt64} {first : Nat}
    (choice : s.FirstChoice t seed true first) (balance : s.readBalance = .fastestNode) {i : Nat}
    (healthy : s.IsHealthy t i) : s.IsHealthy t first := by
  cases choice with
  | unbalanced other =>
      rw [balance] at other
      cases other
  | rotating other =>
      rw [balance] at other
      cases other
  | quickest _ least =>
      obtain ⟨latency, measures, -⟩ := least.1
      exact measures.isHealthy
  | unmeasured _ _ least => exact least.1
  | failing _ fail => exact absurd healthy (fail i)

theorem select_orders_nodes (s : Selector) (t : Topology) (isRead : Bool) (seed : UInt64) :
    (s.select t isRead seed = .error .emptyTopology ↔ t.size = 0) ∧
      (t.size = 0 ∨ ∃ first rest, s.select t isRead seed = .ok (first :: rest) ∧
        (first :: rest).Perm (List.range t.size) ∧ rest.Pairwise (· < ·) ∧
        s.FirstChoice t seed isRead first ∧
        (isRead = true → s.readBalance = .fastestNode →
          ∀ i, s.IsHealthy t i → s.IsHealthy t first)) := by
  by_cases empty : t.size = 0
  · exact ⟨iff_of_true (select_eq_error empty) empty, .inl empty⟩
  · obtain ⟨order, selected, perm⟩ := select_perm (s := s) empty isRead seed
    have chosen := selected
    rw [select, if_neg empty] at chosen
    cases chosen
    have choice : s.FirstChoice t seed isRead
        (if isRead then s.firstForRead t seed else s.firstForWrite t) := by
      cases isRead with
      | true => exact firstChoice_read s t seed
      | false => exact firstChoice_write s t seed
    constructor
    · rw [selected]
      apply iff_of_false
      · intro refused
        cases refused
      · exact empty
    · refine .inr ⟨_, _, selected, perm, List.pairwise_lt_range.filter _, choice, ?_⟩
      rintro rfl balance i healthy
      exact choice.isHealthy balance healthy

end Selector

end ClusterClient
