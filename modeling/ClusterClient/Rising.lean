namespace ClusterClient.Rising

def Keys (entries : List (String × α)) : Prop := entries.Pairwise (·.1 < ·.1)

def insert (key : String) (value : α) : List (String × α) → List (String × α)
  | [] => [(key, value)]
  | (k, v) :: rest =>
    if key < k then (key, value) :: (k, v) :: rest
    else if key = k then (key, value) :: rest
    else (k, v) :: insert key value rest

def ofList (entries : List (String × α)) : List (String × α) :=
  entries.foldl (fun done entry => insert entry.1 entry.2 done) []

theorem mem_insert {key : String} {value : α} {entries : List (String × α)} {e : String × α}
    (h : e ∈ insert key value entries) : e = (key, value) ∨ e ∈ entries := by
  induction entries with
  | nil => simpa [insert] using h
  | cons head rest ih =>
    obtain ⟨k, v⟩ := head
    simp only [insert] at h
    split at h
    · simpa using h
    · split at h
      · rcases List.mem_cons.1 h with h | h
        · exact .inl h
        · exact .inr (List.mem_cons_of_mem _ h)
      · rcases List.mem_cons.1 h with h | h
        · exact .inr (h ▸ List.mem_cons_self)
        · exact (ih h).imp_right (List.mem_cons_of_mem _)

theorem keys_insert {entries : List (String × α)} (h : Keys entries) (key : String) (value : α) :
    Keys (insert key value entries) := by
  induction entries with
  | nil => simp [insert, Keys]
  | cons head rest ih =>
    obtain ⟨k, v⟩ := head
    have ⟨least, tail⟩ := List.pairwise_cons.1 h
    simp only [insert]
    split
    · rename_i lt
      refine List.pairwise_cons.2 ⟨fun e he => ?_, h⟩
      rcases List.mem_cons.1 he with rfl | he
      · exact lt
      · exact String.lt_trans lt (least e he)
    · split
      · rename_i eq
        exact List.pairwise_cons.2 ⟨fun e he => eq ▸ least e he, tail⟩
      · rename_i nlt ne
        refine List.pairwise_cons.2 ⟨fun e he => ?_, ih tail⟩
        rcases mem_insert he with rfl | he
        · exact Std.lt_of_le_of_ne (Std.not_lt.1 nlt) (Ne.symm ne)
        · exact least e he

theorem keys_ofList (entries : List (String × α)) : Keys (ofList entries) := by
  suffices h : ∀ done : List (String × α), Keys done →
      Keys (entries.foldl (fun done entry => insert entry.1 entry.2 done) done) from
    h [] List.Pairwise.nil
  induction entries with
  | nil => exact fun _ h => h
  | cons head rest ih => exact fun done h => ih _ (keys_insert h _ _)

theorem insert_of_lt {entries : List (String × α)} {key : String} (value : α)
    (h : ∀ e ∈ entries, e.1 < key) : insert key value entries = entries ++ [(key, value)] := by
  induction entries with
  | nil => rfl
  | cons head rest ih =>
    obtain ⟨k, v⟩ := head
    have lt : k < key := h _ List.mem_cons_self
    have nlt : ¬ key < k := fun gt => String.lt_irrefl _ (String.lt_trans lt gt)
    have ne : ¬ key = k := fun eq => String.lt_irrefl _ (eq ▸ lt)
    simp only [insert, if_neg nlt, if_neg ne, List.cons_append, List.cons.injEq, true_and]
    exact ih fun e he => h e (List.mem_cons_of_mem _ he)

theorem ofList_eq_self {entries : List (String × α)} (h : Keys entries) :
    ofList entries = entries := by
  suffices all : ∀ done : List (String × α), Keys (done ++ entries) →
      entries.foldl (fun done entry => insert entry.1 entry.2 done) done = done ++ entries by
    exact all [] h
  clear h
  induction entries with
  | nil => simp
  | cons head rest ih =>
    intro done rising
    have below : ∀ e ∈ done, e.1 < head.1 := fun e he =>
      (List.pairwise_append.1 rising).2.2 e he head List.mem_cons_self
    rw [List.foldl_cons, insert_of_lt _ below, ih _ (by simpa using rising)]
    simp

def find? (key : String) (entries : List (String × α)) : Option α :=
  (entries.find? (·.1 = key)).map (·.2)

theorem find?_eq_some_iff {entries : List (String × α)} (rising : Keys entries) {key : String}
    {value : α} : find? key entries = some value ↔ (key, value) ∈ entries := by
  induction entries with
  | nil => simp [find?]
  | cons head rest ih =>
    obtain ⟨k, v⟩ := head
    have ⟨least, tail⟩ := List.pairwise_cons.1 rising
    by_cases same : k = key
    · subst same
      have others : (k, value) ∉ rest := fun member =>
        String.lt_irrefl k (least (k, value) member)
      simp [find?, others, eq_comm]
    · simpa [find?, same, Ne.symm same] using ih tail

end ClusterClient.Rising
