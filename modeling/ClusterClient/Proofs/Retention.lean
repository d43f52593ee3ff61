import ClusterClient.Operation
import ClusterClient.Proofs.Lookup

/-!
# A cache refines a store that keeps everything

Dropping an expired entry is never noticed, wherever it happens: such an entry is not found anyway,
now or later.
-/

namespace ClusterClient.Cache

/-! ## The store that keeps everything -/

abbrev History := List (Nat × Operation)

theorem Key.isUnder_iff {key : Key} {database : Option String} {stem : String} :
    key.isUnder database stem = true ↔
      key.database = database ∧ stem.toList <+: key.route.toList := by
  simp [Key.isUnder]

namespace Operation

def Ends (key : Key) : Operation → Prop
  | put stored _ _ => stored = key
  | remove removed => removed = key
  | invalidate database stem => key.database = database ∧ stem.toList <+: key.route.toList
  | clear => True
  | get _ | evict => False

def hold (key : Key) (held : Option Entry) (now : Nat) : Operation → Option Entry
  | put stored validator payload =>
      if stored = key then some ⟨validator, payload, now⟩ else held
  | remove removed => if removed = key then none else held
  | invalidate database stem => if key.isUnder database stem then none else held
  | clear => none
  | get _ | evict => held

def isGet : Operation → Bool
  | get _ => true
  | _ => false

def isChange : Operation → Bool
  | get _ | evict => false
  | _ => true

theorem hold_eq_some_iff {key : Key} {held : Option Entry} {now : Nat} {op : Operation}
    {e : Entry} :
    op.hold key held now = some e ↔
      (now, op) = (e.storedAt, put key e.validator e.payload) ∨ held = some e ∧ ¬op.Ends key := by
  cases op with
  | put stored validator payload =>
      by_cases same : stored = key
      · obtain ⟨v, p, t⟩ := e
        simp only [hold, same, if_true, Ends, Option.some.injEq, Entry.mk.injEq, Prod.mk.injEq,
          put.injEq, true_and, not_true_eq_false, and_false, or_false]
        exact ⟨fun ⟨v, p, t⟩ => ⟨t, v, p⟩, fun ⟨t, v, p⟩ => ⟨v, p, t⟩⟩
      · simp [hold, Ends, same]
  | get looked => simp [hold, Ends]
  | remove removed =>
      by_cases same : removed = key
      · simp [hold, Ends, same]
      · simp [hold, Ends, same]
  | invalidate database stem =>
      rw [hold, Ends, ← Key.isUnder_iff]
      by_cases hit : key.isUnder database stem = true
      · simp [hit]
      · simp [hit]
  | evict => simp [hold, Ends]
  | clear => simp [hold, Ends]

end Operation

/-- What is stored under a key after a history, if nothing is ever dropped for its age. -/
def latest (key : Key) (history : History) (held : Option Entry) : Option Entry :=
  history.foldl (fun held step => step.2.hold key held step.1) held

def Remains (key : Key) (e : Entry) (history : History) : Prop :=
  ∃ before after, history = before ++ (e.storedAt, .put key e.validator e.payload) :: after ∧
    ∀ step ∈ after, ¬step.2.Ends key

theorem remains_cons_iff {key : Key} {e : Entry} {step : Nat × Operation} {rest : History} :
    Remains key e (step :: rest) ↔ Remains key e rest ∨
      step = (e.storedAt, .put key e.validator e.payload) ∧ ∀ later ∈ rest, ¬later.2.Ends key := by
  constructor
  · rintro ⟨before, after, split, kept⟩
    cases before with
    | nil =>
        cases split
        exact .inr ⟨rfl, kept⟩
    | cons first before =>
        cases split
        exact .inl ⟨before, after, rfl, kept⟩
  · rintro (⟨before, after, rfl, kept⟩ | ⟨rfl, kept⟩)
    · exact ⟨step :: before, after, rfl, kept⟩
    · exact ⟨[], rest, rfl, kept⟩

theorem latest_eq_some_iff {key : Key} {history : History} {held : Option Entry} {e : Entry} :
    latest key history held = some e ↔
      Remains key e history ∨ held = some e ∧ ∀ step ∈ history, ¬step.2.Ends key := by
  induction history generalizing held with
  | nil => simp [latest, Remains]
  | cons step rest ih =>
      have next : latest key (step :: rest) held =
          latest key rest (step.2.hold key held step.1) := rfl
      rw [next, ih, Operation.hold_eq_some_iff, remains_cons_iff, List.forall_mem_cons,
        or_and_right, and_assoc, or_assoc]

theorem latest_filter_isChange (key : Key) (history : History) (held : Option Entry) :
    latest key (history.filter (·.2.isChange)) held = latest key history held := by
  induction history generalizing held with
  | nil => rfl
  | cons step rest ih =>
      cases change : step.2.isChange with
      | true =>
          simp only [List.filter_cons, change, if_true]
          exact ih _
      | false =>
          have same : step.2.hold key held step.1 = held := by
            cases op : step.2 <;> simp_all [Operation.isChange, Operation.hold]
          simp only [List.filter_cons, change, Bool.false_eq_true, if_false]
          rw [ih, latest, latest, List.foldl_cons, same]

/-! ## The cache beside it -/

def replay (c : Cache) (history : History) : Cache :=
  history.foldl (fun c step => (c.perform step.1 step.2).1) c

def answers (c : Cache) : History → List Answer
  | [] => []
  | step :: rest =>
      (c.perform step.1 step.2).2 :: (c.perform step.1 step.2).1.answers rest

def Answer.isHit : Answer → Bool
  | found (some _) => true
  | _ => false

theorem isFresh_of_le {e : Entry} {maxAge now later : Nat} (le : now ≤ later)
    (fresh : e.isFresh maxAge later = true) : e.isFresh maxAge now = true := by
  simp only [Entry.isFresh, decide_eq_true_eq] at fresh ⊢
  omega

theorem maxAge_perform (c : Cache) (now : Nat) (op : Operation) :
    (c.perform now op).1.maxAge = c.maxAge := by
  cases op with
  | put key validator payload =>
      simp only [perform, Cache.put]
      split <;> rfl
  | get key =>
      simp only [perform, Cache.get]
      split
      · rfl
      · split <;> rfl
  | remove key => rfl
  | invalidate database stem => rfl
  | evict => rfl
  | clear => rfl

theorem mem_perform {c : Cache} {now : Nat} {op : Operation} {e : Key × Entry}
    (stored : e ∈ (c.perform now op).1.entries) :
    (now, op) = (e.2.storedAt, .put e.1 e.2.validator e.2.payload) ∨
      e ∈ c.entries ∧ ¬op.Ends e.1 := by
  cases op with
  | put key validator payload =>
      have swept : e ∈ (if now - c.lastSweep < c.maxAge then c else c.sweep now).entries →
          e ∈ c.entries := by
        split
        · exact id
        · exact fun kept => (mem_sweep.1 kept).1
      rcases mem_insert.1 stored with ⟨member, other⟩ | rfl
      · exact .inr ⟨swept member, fun same => other same.symm⟩
      · exact .inl rfl
  | get key =>
      refine .inr ⟨?_, id⟩
      simp only [perform, Cache.get] at stored
      split at stored
      · exact stored
      · split at stored
        · exact stored
        · exact (mem_erase.1 stored).1
  | remove key =>
      obtain ⟨member, other⟩ := mem_erase.1 stored
      exact .inr ⟨member, fun same => other same.symm⟩
  | invalidate database stem =>
      obtain ⟨member, clear⟩ := List.mem_filter.1 stored
      refine .inr ⟨member, fun ended => ?_⟩
      have hit : e.1.isUnder database stem = true := Key.isUnder_iff.2 ended
      rw [hit] at clear
      cases clear
  | evict => exact .inr ⟨(mem_sweep.1 stored).1, id⟩
  | clear => cases stored

theorem Distinct.perform {c : Cache} (distinct : c.Distinct) (now : Nat) (op : Operation) :
    (c.perform now op).1.Distinct := by
  cases op with
  | put key validator payload => exact distinct.put now key validator payload
  | get key => exact distinct.get now key
  | remove key => exact distinct.keep _
  | invalidate database stem => exact distinct.keep _
  | evict => exact distinct.keep _
  | clear => exact List.nodup_nil

theorem Distinct.replay {c : Cache} (distinct : c.Distinct) (history : History) :
    (c.replay history).Distinct := by
  induction history generalizing c with
  | nil => exact distinct
  | cons step rest ih => exact ih (distinct.perform step.1 step.2)

/-- From a time on, the entries of a cache that are fresh are those of a store. -/
structure Refines (c : Cache) (store : Key → Option Entry) (now : Nat) : Prop where
  distinct : c.Distinct
  agrees : ∀ key later, now ≤ later → (c.find? key).filter (·.isFresh c.maxAge later) =
    (store key).filter (·.isFresh c.maxAge later)

theorem refines_self {c : Cache} (distinct : c.Distinct) (now : Nat) : c.Refines c.find? now :=
  ⟨distinct, fun _ _ _ => rfl⟩

namespace Refines

variable {c : Cache} {store : Key → Option Entry} {now : Nat}

theorem get_eq (refines : c.Refines store now) {later : Nat} (le : now ≤ later) (key : Key) :
    (c.get later key).2 = (store key).filter (·.isFresh c.maxAge later) := by
  rw [get_eq_filter, refines.agrees key later le]

theorem later (refines : c.Refines store now) {later : Nat} (le : now ≤ later) :
    c.Refines store later where
  distinct := refines.distinct
  agrees key time timeLe := refines.agrees key time (Nat.le_trans le timeLe)

theorem restrict (refines : c.Refines store now) (p : Key → Bool) :
    (c.keep fun e => p e.1).Refines (fun key => if p key then store key else none) now where
  distinct := refines.distinct.keep _
  agrees key later le := by
    have agrees := refines.agrees key later le
    rw [maxAge_keep, find?_keep refines.distinct]
    cases kept : p key with
    | true => simpa [kept] using agrees
    | false => simp [kept]

theorem insert (refines : c.Refines store now) (key : Key) (entry : Entry) :
    (c.insert key entry).Refines (fun other => if key = other then some entry else store other)
      now where
  distinct := refines.distinct.insert key entry
  agrees other later le := by
    rw [maxAge_insert, find?_insert refines.distinct]
    by_cases same : key = other
    · simp only [same, if_true]
    · simp only [same, if_false]
      exact refines.agrees other later le

theorem sweep (refines : c.Refines store now) : (c.sweep now).Refines store now where
  distinct := refines.distinct.keep _
  agrees key later le := by
  -- An entry that a sweep drops would never have been found again.
    have kept : (c.sweep now).find? key = (c.find? key).filter (·.isFresh c.maxAge now) :=
      find?_keep refines.distinct _ key
    rw [maxAge_sweep, ← refines.agrees key later le, kept]
    cases c.find? key with
    | none => rfl
    | some e =>
        by_cases before : e.isFresh c.maxAge now = true
        · simp [Option.filter, before]
        · have expired : ¬e.isFresh c.maxAge later = true :=
            fun fresh => before (isFresh_of_le le fresh)
          simp [Option.filter, before, expired]

theorem erase_expired (refines : c.Refines store now) {key : Key} {e : Entry}
    (found : c.find? key = some e) (expired : ¬e.isFresh c.maxAge now = true) :
    (c.erase key).Refines store now where
  distinct := refines.distinct.keep _
  agrees other later le := by
  -- Nor would one that a look-up drops.
    have agrees := refines.agrees other later le
    rw [maxAge_erase, find?_erase refines.distinct]
    by_cases same : key = other
    · have gone : ¬e.isFresh c.maxAge later = true :=
        fun fresh => expired (isFresh_of_le le fresh)
      rw [← same] at agrees ⊢
      rw [found] at agrees
      rw [← agrees]
      simp [Option.filter, gone]
    · simp only [same, if_false]
      exact agrees

theorem get (refines : c.Refines store now) (key : Key) :
    (c.get now key).1.Refines store now := by
  unfold Cache.get
  cases found : c.find? key with
  | none => exact ⟨refines.distinct, refines.agrees⟩
  | some e =>
      by_cases fresh : e.isFresh c.maxAge now = true
      · simp only [fresh, if_true]
        exact ⟨refines.distinct, refines.agrees⟩
      · have erased := refines.erase_expired found fresh
        simp only [fresh]
        exact ⟨erased.distinct, erased.agrees⟩

theorem put (refines : c.Refines store now) (key : Key) (validator : String) (payload : Bytes) :
    (c.put now key validator payload).Refines
      (fun other => if key = other then some ⟨validator, payload, now⟩ else store other) now := by
  unfold Cache.put
  apply insert
  split
  · exact refines
  · exact refines.sweep

theorem perform {before : Nat} (refines : c.Refines store before) (le : before ≤ now)
    (op : Operation) :
    (c.perform now op).1.Refines (fun key => op.hold key (store key) now) now := by
  have present := refines.later le
  cases op with
  | put key validator payload => exact present.put key validator payload
  | get key => exact present.get key
  | remove key =>
      have kept := present.restrict fun other => other ≠ key
      have same : (fun other => if decide (other ≠ key) then store other else none) =
          fun other => (Operation.remove key).hold other (store other) now := by
        funext other
        by_cases same : key = other
        · simp [Operation.hold, same]
        · have differs : other ≠ key := fun eq => same eq.symm
          simp [Operation.hold, same, differs]
      rw [same] at kept
      exact kept
  | invalidate database stem =>
      have kept := present.restrict fun other => !other.isUnder database stem
      have same : (fun other => if !other.isUnder database stem then store other else none) =
          fun other => (Operation.invalidate database stem).hold other (store other) now := by
        funext other
        cases hit : other.isUnder database stem <;> simp [Operation.hold, hit]
      rw [same] at kept
      exact kept
  | evict => exact present.sweep
  | clear => exact ⟨List.nodup_nil, fun _ _ _ => rfl⟩

end Refines

theorem Refines.replay {c : Cache} {store : Key → Option Entry} {now t : Nat}
    {history : History} (refines : c.Refines store now)
    (ordered : (now :: (history.map (·.1) ++ [t])).Pairwise (· ≤ ·)) :
    (c.replay history).Refines (fun key => latest key history (store key)) t := by
  induction history generalizing c store now with
  | nil =>
      have le : now ≤ t := (List.pairwise_cons.1 ordered).1 t (by simp)
      exact refines.later le
  | cons step rest ih =>
      obtain ⟨first, later⟩ := List.pairwise_cons.1 ordered
      have le : now ≤ step.1 := first step.1 (by simp)
      exact ih (refines.perform le step.2) later

theorem maxAge_replay (c : Cache) (history : History) : (c.replay history).maxAge = c.maxAge := by
  induction history generalizing c with
  | nil => rfl
  | cons step rest ih => exact (ih _).trans (maxAge_perform c step.1 step.2)

/-! ## The counters -/

theorem hits_perform (c : Cache) (now : Nat) (op : Operation) :
    (c.perform now op).1.hits =
      c.hits + if (c.perform now op).2.isHit = true then 1 else 0 := by
  cases op with
  | get key =>
      simp only [perform, Cache.get]
      cases c.find? key with
      | none => rfl
      | some e =>
          by_cases fresh : e.isFresh c.maxAge now = true
          · simp [fresh, Answer.isHit]
          · simp [fresh, Answer.isHit, erase, keep]
  | put key validator payload =>
      simp only [perform, Cache.put]
      split <;> rfl
  | remove key => rfl
  | invalidate database stem => rfl
  | evict => rfl
  | clear => rfl

theorem lookups_perform (c : Cache) (now : Nat) (op : Operation) :
    (c.perform now op).1.hits + (c.perform now op).1.misses =
      c.hits + c.misses + if op.isGet = true then 1 else 0 := by
  cases op with
  | get key =>
      simp only [perform, Cache.get]
      cases c.find? key with
      | none => rfl
      | some e =>
          by_cases fresh : e.isFresh c.maxAge now = true
          · simp only [fresh, if_true, Operation.isGet]
            omega
          · simp only [fresh, Bool.false_eq_true, if_false, if_true, Operation.isGet, erase, keep]
            omega
  | put key validator payload =>
      simp only [perform, Cache.put]
      split <;> rfl
  | remove key => rfl
  | invalidate database stem => rfl
  | evict => rfl
  | clear => rfl

theorem hits_replay (c : Cache) (history : History) :
    (c.replay history).hits = c.hits + (c.answers history).countP Answer.isHit := by
  induction history generalizing c with
  | nil => rfl
  | cons step rest ih =>
      have next : c.replay (step :: rest) = (c.perform step.1 step.2).1.replay rest := rfl
      rw [next, ih, hits_perform, answers, List.countP_cons]
      omega

theorem lookups_replay (c : Cache) (history : History) :
    (c.replay history).hits + (c.replay history).misses =
      c.hits + c.misses + history.countP (·.2.isGet) := by
  induction history generalizing c with
  | nil => rfl
  | cons step rest ih =>
      have next : c.replay (step :: rest) = (c.perform step.1 step.2).1.replay rest := rfl
      rw [next, ih, lookups_perform, List.countP_cons]
      omega

/-! ## The refinement -/

def created (maxAge time : Nat) : Cache := { maxAge, lastSweep := time }

theorem refines_created (maxAge time : Nat) : (created maxAge time).Refines (fun _ => none) 0 where
  distinct := List.nodup_nil
  agrees _ _ _ := rfl

theorem get_replay {maxAge time t : Nat} {history : History}
    (ordered : (history.map (·.1) ++ [t]).Pairwise (· ≤ ·)) (key : Key) :
    (((created maxAge time).replay history).get t key).2 =
      (latest key history none).filter (·.isFresh maxAge t) := by
  have fromStart : (0 :: (history.map (·.1) ++ [t])).Pairwise (· ≤ ·) :=
    List.pairwise_cons.2 ⟨fun later _ => Nat.zero_le later, ordered⟩
  have refines := (refines_created maxAge time).replay fromStart
  rw [refines.get_eq (Nat.le_refl t), maxAge_replay]
  rfl

/-- What a cache answers and counts in a history, told by what is put, removed, invalidated and
cleared in it. -/
structure KeepsEverything (maxAge time : Nat) (history : History) (t : Nat) : Prop where
  refines : ∀ key, (((created maxAge time).replay history).get t key).2 =
    (latest key history none).filter (·.isFresh maxAge t)
  gets : ∀ key validator payload,
    (((created maxAge time).replay history).get t key).2.map (fun e => (e.validator, e.payload)) =
      some (validator, payload) ↔
    ∃ storedAt before after, history = before ++ (storedAt, .put key validator payload) :: after ∧
      t - storedAt < maxAge ∧ ∀ step ∈ after, ¬step.2.Ends key
  upkeep : ∀ (time' : Nat) (history' : History),
    (history'.map (·.1) ++ [t]).Pairwise (· ≤ ·) →
    history'.filter (·.2.isChange) = history.filter (·.2.isChange) →
    ∀ key, (((created maxAge time').replay history').get t key).2 =
      (((created maxAge time).replay history).get t key).2
  hits : ((created maxAge time).replay history).hits =
    ((created maxAge time).answers history).countP Answer.isHit
  lookups : ((created maxAge time).replay history).hits +
    ((created maxAge time).replay history).misses = history.countP (·.2.isGet)

theorem histories_keep_everything (maxAge time : Nat) (history : History) (t : Nat)
    (ordered : (history.map (·.1) ++ [t]).Pairwise (· ≤ ·)) :
    KeepsEverything maxAge time history t := by
  constructor
  case refines => exact get_replay ordered
  case gets =>
    intro key validator payload
    rw [get_replay ordered]
    simp only [Option.map_eq_some_iff, Option.filter_eq_some_iff, latest_eq_some_iff, reduceCtorEq,
      false_and, or_false]
    constructor
    · rintro ⟨e, ⟨⟨before, after, split, kept⟩, fresh⟩, eq⟩
      cases eq
      exact ⟨e.storedAt, before, after, split, of_decide_eq_true fresh, kept⟩
    · rintro ⟨storedAt, before, after, split, young, kept⟩
      exact ⟨⟨validator, payload, storedAt⟩, ⟨⟨before, after, split, kept⟩,
        decide_eq_true young⟩, rfl⟩
  case upkeep =>
    intro time' history' ordered' same key
    rw [get_replay ordered, get_replay ordered', ← latest_filter_isChange key history, ← same,
      latest_filter_isChange]
  case hits =>
    rw [hits_replay]
    exact Nat.zero_add _
  case lookups =>
    rw [lookups_replay]
    exact Nat.zero_add _

def renewal (key : Key) : History :=
  [(0, .put key "A:1" [1]), (40, .get key), (120, .evict), (130, .put key "A:2" [2]),
    (140, .invalidate none "/docs")]

theorem renewal_keepsEverything :
    let key : Key := ⟨some "shop", .get, "/docs?id=1"⟩
    ((renewal key).map Prod.fst ++ [150]).Pairwise (· ≤ ·) ∧
      KeepsEverything 100 0 (renewal key) 150 := by
  intro key
  have ordered : ((renewal key).map Prod.fst ++ [150]).Pairwise (· ≤ ·) := by decide
  exact ⟨ordered, histories_keep_everything 100 0 (renewal key) 150 ordered⟩

end ClusterClient.Cache
