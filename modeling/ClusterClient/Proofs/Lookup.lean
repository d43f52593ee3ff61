import ClusterClient.Cache

namespace ClusterClient.Cache

theorem get_eq_filter (c : Cache) (now : Nat) (key : Key) :
    (c.get now key).2 = (c.find? key).filter (·.isFresh c.maxAge now) := by
  unfold get
  cases c.find? key with
  | none => rfl
  | some entry =>
      by_cases fresh : entry.isFresh c.maxAge now
      · simp [Option.filter, fresh]
      · simp [Option.filter, fresh]

@[simp] theorem maxAge_keep (c : Cache) (p : Key × Entry → Bool) :
    (c.keep p).maxAge = c.maxAge := rfl

@[simp] theorem maxAge_erase (c : Cache) (key : Key) : (c.erase key).maxAge = c.maxAge := rfl

@[simp] theorem maxAge_insert (c : Cache) (key : Key) (entry : Entry) :
    (c.insert key entry).maxAge = c.maxAge := rfl

@[simp] theorem maxAge_sweep (c : Cache) (now : Nat) : (c.sweep now).maxAge = c.maxAge := rfl

def Distinct (c : Cache) : Prop := (c.entries.map (·.1)).Nodup

theorem Distinct.keep {c : Cache} (distinct : c.Distinct) (p : Key × Entry → Bool) :
    (c.keep p).Distinct :=
  distinct.sublist (List.filter_sublist.map _)

theorem Distinct.insert {c : Cache} (distinct : c.Distinct) (key : Key) (entry : Entry) :
    (c.insert key entry).Distinct := by
  have kept := distinct.keep (·.1 ≠ key)
  unfold Distinct at kept ⊢
  rw [Cache.insert, List.map_append, List.nodup_append]
  refine ⟨kept, by simp, ?_⟩
  intro other member added addedMember
  simp only [erase, Cache.keep, List.mem_map, List.mem_filter, decide_eq_true_eq] at member
  obtain ⟨e, ⟨-, differs⟩, rfl⟩ := member
  rw [List.map_singleton, List.mem_singleton] at addedMember
  rw [addedMember]
  exact differs

theorem Distinct.put {c : Cache} (distinct : c.Distinct) (now : Nat) (key : Key)
    (validator : String) (payload : Bytes) : (c.put now key validator payload).Distinct := by
  unfold Cache.put
  apply Distinct.insert
  split
  · exact distinct
  · exact distinct.keep _

theorem Distinct.get {c : Cache} (distinct : c.Distinct) (now : Nat) (key : Key) :
    (c.get now key).1.Distinct := by
  unfold Cache.get
  split
  · exact distinct
  · split
    · exact distinct
    · exact distinct.keep _

theorem find?_keep {c : Cache} (distinct : c.Distinct) (p : Key × Entry → Bool) (key : Key) :
    (c.keep p).find? key = (c.find? key).filter fun entry => p (key, entry) := by
  unfold Distinct at distinct
  simp only [find?, keep]
  generalize c.entries = entries at distinct
  induction entries with
  | nil => rfl
  | cons e rest ih =>
      rw [List.map_cons, List.nodup_cons] at distinct
      have later := ih distinct.2
      by_cases same : e.1 = key
      · subst same
        by_cases kept : p e
        · simp [kept, Option.filter]
        · have absent : rest.find? (·.1 = e.1) = none := by
            rw [List.find?_eq_none]
            intro other member eq
            apply distinct.1
            rw [← of_decide_eq_true eq]
            exact List.mem_map_of_mem member
          rw [List.filter_cons_of_neg kept, later, absent, List.find?_cons_of_pos (by simp)]
          simp [Option.filter, kept]
      · by_cases kept : p e
        · simpa [kept, same] using later
        · simpa [kept, same] using later

theorem find?_erase {c : Cache} (distinct : c.Distinct) (removed key : Key) :
    (c.erase removed).find? key = if removed = key then none else c.find? key := by
  rw [erase, find?_keep distinct]
  by_cases same : removed = key
  · cases c.find? key <;> simp [same, Option.filter]
  · have other : key ≠ removed := fun eq => same eq.symm
    cases c.find? key <;> simp [same, other, Option.filter]

theorem find?_insert {c : Cache} (distinct : c.Distinct) (put key : Key) (entry : Entry) :
    (c.insert put entry).find? key = if put = key then some entry else c.find? key := by
  have erased := find?_erase distinct put key
  unfold find? at erased ⊢
  rw [Cache.insert, List.find?_append, Option.map_or, erased]
  by_cases same : put = key
  · simp [same]
  · simp [same]

theorem mem_sweep {c : Cache} {now : Nat} {e : Key × Entry} :
    e ∈ (c.sweep now).entries ↔ e ∈ c.entries ∧ now - e.2.storedAt < c.maxAge := by
  simp [sweep, keep, Entry.isFresh]

theorem mem_erase {c : Cache} {key : Key} {e : Key × Entry} :
    e ∈ (c.erase key).entries ↔ e ∈ c.entries ∧ e.1 ≠ key := by
  simp [erase, keep]

theorem mem_insert {c : Cache} {key : Key} {entry : Entry} {e : Key × Entry} :
    e ∈ (c.insert key entry).entries ↔ (e ∈ c.entries ∧ e.1 ≠ key) ∨ e = (key, entry) := by
  simp [insert, ← mem_erase]

theorem mem_put_self {c : Cache} {now : Nat} {key : Key} {validator : String}
    {payload : Bytes} {e : Entry} :
    (key, e) ∈ (c.put now key validator payload).entries ↔ e = ⟨validator, payload, now⟩ := by
  simp [put, mem_insert]

end ClusterClient.Cache
