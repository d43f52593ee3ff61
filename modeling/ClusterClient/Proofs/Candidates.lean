import ClusterClient.Selection

namespace ClusterClient

theorem Topology.leaderIndex?_lt {t : Topology} {i : Nat} (h : t.leaderIndex? = some i) :
    i < t.size := by
  obtain ⟨leader, -, found⟩ := Option.bind_eq_some_iff.1 h
  obtain ⟨bound, -⟩ := List.findIdx?_eq_some_iff_getElem.1 found
  exact bound

namespace Selector

theorem least_mem {entries : List (Nat × Nat)} {best : Nat × Nat} (h : least entries = some best) :
    best ∈ entries := by
  induction entries generalizing best with
  | nil => simp [least] at h
  | cons entry rest ih =>
      cases tail : least rest with
      | none => simp_all [least]
      | some other =>
          simp only [least, tail] at h
          split at h
          · cases h
            exact List.mem_cons_of_mem _ (ih tail)
          · cases h
            exact List.mem_cons_self

theorem healthy_lt {s : Selector} {t : Topology} {e : Node × Nat} (h : e ∈ s.healthy t) :
    e.2 < t.size :=
  List.snd_lt_of_mem_zipIdx (List.mem_filter.1 h).1

theorem measured_lt {s : Selector} {t : Topology} {e : Nat × Nat} (h : e ∈ s.measured t) :
    e.1 < t.size := by
  obtain ⟨node, healthy, eq⟩ := List.mem_filterMap.1 h
  obtain ⟨latency, -, rfl⟩ := Option.map_eq_some_iff.1 eq
  exact healthy_lt healthy

theorem select_eq_error {s : Selector} {t : Topology} (empty : t.size = 0) {isRead : Bool}
    {seed : UInt64} : s.select t isRead seed = .error .emptyTopology := by
  rw [select, if_pos empty]

variable {s : Selector} {t : Topology} (nonempty : t.size ≠ 0)

include nonempty

theorem fastest_lt : s.fastest t < t.size := by
  unfold fastest
  split
  · rename_i best eq
    exact measured_lt (least_mem eq)
  · split
    · rename_i e rest eq
      exact healthy_lt (eq ▸ List.mem_cons_self)
    · exact Nat.pos_of_ne_zero nonempty

theorem firstForRead_lt (seed : UInt64) : s.firstForRead t seed < t.size := by
  unfold firstForRead
  split
  · exact Nat.pos_of_ne_zero nonempty
  · exact Nat.mod_lt _ (Nat.pos_of_ne_zero nonempty)
  · exact fastest_lt nonempty

theorem firstForWrite_lt : s.firstForWrite t < t.size := by
  have pos : 0 < t.size := Nat.pos_of_ne_zero nonempty
  unfold firstForWrite
  split
  · cases leader : t.leaderIndex? with
    | none => exact pos
    | some i => exact Topology.leaderIndex?_lt leader
  · exact pos

theorem select_perm (isRead : Bool) (seed : UInt64) :
    ∃ order, s.select t isRead seed = .ok order ∧ order.Perm (List.range t.size) := by
  have first_lt : (if isRead then s.firstForRead t seed else s.firstForWrite t) < t.size := by
    split
    · exact firstForRead_lt nonempty seed
    · exact firstForWrite_lt nonempty
  refine ⟨_, by rw [select, if_neg nonempty], ?_⟩
  refine List.cons_perm_iff_perm_erase.2 ⟨List.mem_range.2 first_lt, ?_⟩
  rw [List.Nodup.erase_eq_filter List.nodup_range]
  exact .of_eq (List.filter_congr fun _ _ => by rw [Bool.eq_iff_iff]; simp)

end Selector

end ClusterClient
