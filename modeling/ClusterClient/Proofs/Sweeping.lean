import ClusterClient.Proofs.Retention

namespace ClusterClient.Cache

def sweepDue (c : Cache) (now : Nat) : Bool := c.maxAge ≤ now - c.lastSweep

theorem put_eq (c : Cache) (now : Nat) (key : Key) (validator : String) (payload : Bytes) :
    c.put now key validator payload =
      (if c.sweepDue now then c.sweep now else c).insert key ⟨validator, payload, now⟩ := by
  unfold put sweepDue
  by_cases soon : now - c.lastSweep < c.maxAge
  · simp [soon, Nat.not_le_of_lt soon]
  · simp [soon, Nat.le_of_not_lt soon]

theorem mem_put_other {c : Cache} {now : Nat} {key : Key} {validator : String} {payload : Bytes}
    {e : Key × Entry} (other : e.1 ≠ key) :
    e ∈ (c.put now key validator payload).entries ↔
      e ∈ c.entries ∧ (c.sweepDue now = true → now - e.2.storedAt < c.maxAge) := by
  have new : e ≠ (key, ⟨validator, payload, now⟩) := fun same => other (congrArg Prod.fst same)
  rw [put_eq, mem_insert, and_iff_left other, or_iff_left new]
  cases c.sweepDue now with
  | true => simp [mem_sweep]
  | false => simp

def Operation.sweeps (c : Cache) (now : Nat) : Operation → Bool
  | put .. => c.sweepDue now
  | evict => true
  | _ => false

def sweepTimes (c : Cache) : History → List Nat
  | [] => []
  | step :: rest =>
      (if step.2.sweeps c step.1 then [step.1] else []) ++
        (c.perform step.1 step.2).1.sweepTimes rest

theorem lastSweep_perform (c : Cache) (now : Nat) (op : Operation) :
    (c.perform now op).1.lastSweep = if op.sweeps c now then now else c.lastSweep := by
  cases op with
  | put key validator payload =>
      rw [perform, put_eq, Operation.sweeps]
      by_cases due : c.sweepDue now = true
      · rw [if_pos due, if_pos due]
        rfl
      · rw [if_neg due, if_neg due]
        rfl
  | get key =>
      simp only [perform, Cache.get]
      split
      · rfl
      · split <;> rfl
  | remove key => rfl
  | invalidate database stem => rfl
  | evict => rfl
  | clear => rfl

theorem lastSweep_replay_mem (c : Cache) (history : History) :
    (c.replay history).lastSweep ∈ c.lastSweep :: c.sweepTimes history := by
  induction history generalizing c with
  | nil => exact List.mem_cons_self
  | cons step rest ih =>
      have later := ih (c.perform step.1 step.2).1
      rw [lastSweep_perform] at later
      rw [sweepTimes]
      cases swept : step.2.sweeps c step.1 with
      | true =>
          simp only [swept, if_true] at later
          exact List.mem_cons_of_mem _ later
      | false =>
          simp only [swept, Bool.false_eq_true, if_false] at later
          exact later

theorem le_lastSweep_replay {c : Cache} {history : History}
    (ordered : (c.lastSweep :: history.map (·.1)).Pairwise (· ≤ ·)) :
    ∀ time ∈ c.lastSweep :: c.sweepTimes history, time ≤ (c.replay history).lastSweep := by
  induction history generalizing c with
  | nil => simp [sweepTimes, replay]
  | cons step rest ih =>
      obtain ⟨first, rest_ordered⟩ := List.pairwise_cons.1 ordered
      have le : c.lastSweep ≤ step.1 := first step.1 List.mem_cons_self
      have last := lastSweep_perform c step.1 step.2
      rw [sweepTimes]
      cases swept : step.2.sweeps c step.1 with
      | true =>
          simp only [swept, if_true] at last
          have later := ih (c := (c.perform step.1 step.2).1) (by rw [last]; exact rest_ordered)
          rw [last] at later
          refine List.forall_mem_cons.2 ⟨?_, later⟩
          exact Nat.le_trans le (later step.1 List.mem_cons_self)
      | false =>
          simp only [swept, Bool.false_eq_true, if_false] at last
          have beyond := (List.pairwise_cons.1 rest_ordered).2
          have ahead : ∀ time ∈ rest.map (·.1), c.lastSweep ≤ time :=
            fun time member => first time (List.mem_cons_of_mem _ member)
          have later := ih (c := (c.perform step.1 step.2).1)
            (by rw [last]; exact List.pairwise_cons.2 ⟨ahead, beyond⟩)
          rw [last] at later
          exact later

/-- Up to a time a cache has been swept often enough: what is stored in it was put there after the
last sweep, or had not expired by then. -/
structure Tended (c : Cache) (now : Nat) : Prop where
  swept : c.lastSweep ≤ now
  stored : ∀ e ∈ c.entries, e.2.storedAt ≤ now
  fresh : ∀ e ∈ c.entries, c.lastSweep ≤ e.2.storedAt ∨ c.lastSweep - e.2.storedAt < c.maxAge

theorem mem_perform_of_sweeps {c : Cache} {now : Nat} {op : Operation} {e : Key × Entry}
    (sweeps : op.sweeps c now = true) (stored : e ∈ (c.perform now op).1.entries) :
    e.2.storedAt = now ∨ now - e.2.storedAt < c.maxAge := by
  cases op with
  | put key validator payload =>
      have due : c.sweepDue now = true := sweeps
      have kept : e ∈ (c.put now key validator payload).entries := stored
      rw [put_eq, due, mem_insert] at kept
      rcases kept with ⟨kept, -⟩ | rfl
      · exact .inr (mem_sweep.1 kept).2
      · exact .inl rfl
  | evict => exact .inr (mem_sweep.1 stored).2
  | get key => cases sweeps
  | remove key => cases sweeps
  | invalidate database stem => cases sweeps
  | clear => cases sweeps

theorem Tended.perform {c : Cache} {before now : Nat} (tended : c.Tended before)
    (le : before ≤ now) (op : Operation) : (c.perform now op).1.Tended now := by
  have last := lastSweep_perform c now op
  constructor
  case swept =>
    rw [last]
    split
    · exact Nat.le_refl now
    · exact Nat.le_trans tended.swept le
  case stored =>
    intro e member
    rcases mem_perform member with put | ⟨there, -⟩
    · exact Nat.le_of_eq (congrArg Prod.fst put).symm
    · exact Nat.le_trans (tended.stored e there) le
  case fresh =>
    intro e member
    rw [last, maxAge_perform]
    cases sweeps : op.sweeps c now with
    | true =>
        rcases mem_perform_of_sweeps sweeps member with new | young
        · exact .inl (Nat.le_of_eq new.symm)
        · exact .inr young
    | false =>
        rcases mem_perform member with put | ⟨there, -⟩
        · have new : now = e.2.storedAt := congrArg Prod.fst put
          exact .inl (new ▸ Nat.le_trans tended.swept le)
        · exact tended.fresh e there

theorem Tended.replay {c : Cache} {now t : Nat} {history : History} (tended : c.Tended now)
    (ordered : (now :: (history.map (·.1) ++ [t])).Pairwise (· ≤ ·)) :
    (c.replay history).Tended t := by
  induction history generalizing c now with
  | nil =>
      have le : now ≤ t := (List.pairwise_cons.1 ordered).1 t (by simp)
      exact ⟨Nat.le_trans tended.swept le,
        fun e member => Nat.le_trans (tended.stored e member) le, tended.fresh⟩
  | cons step rest ih =>
      obtain ⟨first, later⟩ := List.pairwise_cons.1 ordered
      have le : now ≤ step.1 := first step.1 (by simp)
      exact ih (tended.perform le step.2) later

theorem tended_created (maxAge time : Nat) : (created maxAge time).Tended time :=
  ⟨Nat.le_refl time, nofun, nofun⟩

/-- What is in a cache right after a put that follows a history. -/
structure BoundsStaleness (maxAge time : Nat) (history : History) (t : Nat) (key : Key)
    (validator : String) (payload : Bytes) : Prop where
  own : ∀ e, (key, e) ∈ (((created maxAge time).replay history).put t key validator
    payload).entries ↔ e = ⟨validator, payload, t⟩
  aged : ∀ e ∈ (((created maxAge time).replay history).put t key validator payload).entries,
    e.1 ≠ key → e.2.storedAt ≤ t ∧ t - e.2.storedAt < 2 * maxAge
  swept : ((created maxAge time).replay history).sweepDue t = true →
    ∀ e ∈ (((created maxAge time).replay history).put t key validator payload).entries,
    e.1 ≠ key → t - e.2.storedAt < maxAge
  kept : ((created maxAge time).replay history).sweepDue t = false → ∀ e, e.1 ≠ key →
    (e ∈ (((created maxAge time).replay history).put t key validator payload).entries ↔
      e ∈ ((created maxAge time).replay history).entries)
  seldom : ((created maxAge time).replay history).sweepDue t = true ↔
    ∀ s ∈ time :: (created maxAge time).sweepTimes history, s + maxAge ≤ t

theorem puts_bound_staleness (maxAge time : Nat) (history : History) (t : Nat)
    (ordered : (time :: (history.map (·.1) ++ [t])).Pairwise (· ≤ ·)) (key : Key)
    (validator : String) (payload : Bytes) :
    BoundsStaleness maxAge time history t key validator payload := by
  have tended := (tended_created maxAge time).replay ordered
  have limit : ((created maxAge time).replay history).maxAge = maxAge := maxAge_replay _ history
  have early : (time :: history.map (·.1)).Pairwise (· ≤ ·) :=
    ordered.sublist ((List.sublist_append_left _ _).cons_cons time)
  have last := lastSweep_replay_mem (created maxAge time) history
  have latest := le_lastSweep_replay (c := created maxAge time) early
  constructor
  case own => exact fun e => mem_put_self
  case aged =>
    intro e member other
    obtain ⟨there, young⟩ := (mem_put_other other).1 member
    have stored := tended.stored e there
    have fresh := tended.fresh e there
    have swept := tended.swept
    refine ⟨stored, ?_⟩
    rw [sweepDue, decide_eq_true_eq, limit] at young
    rw [limit] at fresh
    omega
  case swept =>
    intro due e member other
    rw [← limit]
    exact ((mem_put_other other).1 member).2 due
  case kept =>
    intro idle e other
    rw [mem_put_other other, idle]
    simp
  case seldom =>
    have swept := tended.swept
    rw [sweepDue, decide_eq_true_eq, limit]
    constructor
    · intro due s member
      have le := latest s member
      omega
    · intro spaced
      have since := spaced _ last
      omega

def piling (key other : Key) : History :=
  [(90, .put key "A:1" [1]), (100, .put other "A:2" [2]), (150, .evict)]

theorem piling_boundsStaleness :
    let key (route : String) : Key := ⟨some "shop", .get, route⟩
    let history := piling (key "/docs") (key "/users")
    (0 :: (history.map Prod.fst ++ [195])).Pairwise (· ≤ ·) ∧
      BoundsStaleness 100 0 history 195 (key "/queries") "A:3" [3] ∧
      ∃ e ∈ (((created 100 0).replay history).put 195 (key "/queries") "A:3" [3]).entries,
        e.1 = key "/docs" ∧ 100 ≤ 195 - e.2.storedAt := by
  intro key history
  have ordered : (0 :: (history.map Prod.fst ++ [195])).Pairwise (· ≤ ·) := by decide
  refine ⟨ordered, puts_bound_staleness 100 0 history 195 ordered _ _ _,
    (key "/docs", ⟨"A:1", [1], 90⟩), ?_, rfl, by decide⟩
  decide +kernel

end ClusterClient.Cache
