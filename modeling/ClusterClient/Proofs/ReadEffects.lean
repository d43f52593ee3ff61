import ClusterClient.Proofs.Provenance
import ClusterClient.Proofs.Reads

namespace ClusterClient

namespace Cache

variable {c : Cache} {store : Key → Option Entry} {now later : Nat}

theorem mem_get_other {key : Key} {e : Key × Entry} (other : e.1 ≠ key) :
    e ∈ (c.get now key).1.entries ↔ e ∈ c.entries := by
  unfold Cache.get
  split
  · rfl
  · split
    · rfl
    · rw [mem_erase, and_iff_left other]

def Operation.Sets (key : Key) : Operation → Prop
  | put stored _ _ => stored = key
  | remove removed => removed = key
  | _ => False

theorem Operation.Sets.hold_other {key other : Key} {op : Operation} (sets : op.Sets key)
    (differs : other ≠ key) (held : Option Entry) (now : Nat) : op.hold other held now = held := by
  cases op with
  | put stored validator payload => exact if_neg fun same => differs (same.symm.trans sets)
  | remove removed => exact if_neg fun same => differs (same.symm.trans sets)
  | _ => exact sets.elim

theorem lookups_after_of_sets {key : Key} {uses : List Operation}
    (sets : ∀ op ∈ uses, op.Sets key) (c : Cache) (now : Nat) :
    (c.after now uses).hits + (c.after now uses).misses = c.hits + c.misses := by
  have none : (uses.map (now, ·)).countP (·.2.isGet) = 0 := by
    rw [List.countP_map, List.countP_eq_zero]
    intro op member isGet
    have set := sets op member
    cases op with
    | get looked => exact set
    | _ => cases isGet
  rw [after, lookups_replay, none, Nat.add_zero]

theorem Refines.get_after (refines : c.Refines store now) {key other : Key}
    (differs : other ≠ key) {uses : List Operation} (sets : ∀ op ∈ uses, op.Sets key)
    (le : now ≤ later) : ((c.after now uses).get later other).2 = (c.get later other).2 := by
  induction uses generalizing c store with
  | nil => rfl
  | cons op rest ih =>
      obtain ⟨first, sets⟩ := List.forall_mem_cons.1 sets
      have next := refines.perform (Nat.le_refl now) op
      have found := next.get_eq le other
      rw [first.hold_other differs, maxAge_perform, ← refines.get_eq le] at found
      exact (ih next sets).trans found

end Cache

theorem Descriptor.readUse_sets (d : Descriptor) (key : Cache.Key) (r : Http.Response) :
    ∀ op ∈ d.readUse (some key) r, op.Sets key := by
  unfold readUse
  split
  · cases r.etag? <;> exact List.forall_mem_singleton.2 rfl
  · split
    · exact List.forall_mem_singleton.2 rfl
    · exact nofun

/-- What a cached read has done to a cache by the time that it ends. -/
structure Revises (before after : Cache) (key : Cache.Key) (decision : Option Http.Response)
    (t : Nat) : Prop where
  stores : ∀ r validator, decision = some r → r.isSuccess = true → r.etag? = some validator →
    ∀ e, (key, e) ∈ after.entries ↔ e = ⟨validator, r.body, t⟩
  forgets : ∀ r, decision = some r → r.isSuccess = true → r.etag? = none →
    ∀ e, (key, e) ∉ after.entries
  keeps : (∀ r, decision = some r → r.isSuccess = false ∧ r.status ≠ 404) →
    ∀ later, t ≤ later → (after.get later key).2 = (before.get later key).2
  others : ∀ other, other ≠ key →
    ∀ later, t ≤ later → (after.get later other).2 = (before.get later other).2
  counts : after.hits + after.misses = before.hits + before.misses + 1

theorem revises {before : Cache} (distinct : before.Distinct) {lookup t : Nat}
    (reached : lookup ≤ t) (d : Descriptor) (key : Cache.Key)
    (decision : Option Http.Response) :
    Revises before ((before.after lookup [.get key]).after t
      (decision.elim [] (d.readUse (some key)))) key decision t := by
  let looked := before.after lookup [.get key]
  have refines : looked.Refines before.find? t :=
    ((Cache.refines_self distinct lookup).get key).later reached
  have age : looked.maxAge = before.maxAge := Cache.maxAge_replay before _
  have looks : looked.hits + looked.misses = before.hits + before.misses + 1 :=
    Cache.lookups_replay before _
  have sets : ∀ op ∈ decision.elim [] (d.readUse (some key)), op.Sets key := by
    cases decision with
    | none => exact nofun
    | some r => exact d.readUse_sets key r
  constructor
  case stores =>
    intro r validator decided success etag e
    simp only [decided, Option.elim_some, Descriptor.readUse, success, etag, if_true]
    exact Cache.mem_put_self
  case forgets =>
    intro r decided success etag e member
    simp only [decided, Option.elim_some, Descriptor.readUse, success, etag, if_true] at member
    exact (Cache.mem_erase.1 member).2 rfl
  case keeps =>
    intro refused later le
    have unused : decision.elim [] (d.readUse (some key)) = [] := by
      cases decision with
      | none => rfl
      | some r =>
          obtain ⟨failure, other⟩ := refused r rfl
          simp [Descriptor.readUse, failure, other]
    rw [unused]
    have found := refines.get_eq le key
    rw [age, ← Cache.get_eq_filter] at found
    exact found
  case others =>
    intro other differs later le
    have found := refines.get_eq le other
    rw [age, ← Cache.get_eq_filter] at found
    rw [refines.get_after differs sets le]
    exact found
  case counts => rw [Cache.lookups_after_of_sets sets, looks]

theorem Client.cacheKey_read {d : Descriptor} (isRead : d.isRead = true) (c : Client) :
    c.cacheKey d = if c.settings.cacheEnabled = true ∧ d.method = .get ∧ d.noCache = false then
      some ⟨c.databaseFor d, .get, d.route⟩ else none := by
  unfold cacheKey Descriptor.isCacheable
  by_cases get : d.method = .get
  · simp [isRead, get]
  · simp [get]

theorem Client.isRead_of_cacheKey {c : Client} {d : Descriptor} {key : Cache.Key}
    (keyed : c.cacheKey d = some key) : d.isRead = true := by
  cases isRead : d.isRead with
  | true => rfl
  | false => simp [cacheKey, Descriptor.isCacheable, isRead] at keyed

theorem Workload.Fresh.distinct {w : Workload} (fresh : w.Fresh) (events : Run) :
    (w.run events).client.cache.Distinct := by
  rw [cache_run]
  refine Cache.Distinct.replay ?_ _
  rw [Cache.Distinct, fresh.entries]
  exact List.nodup_nil

structure ReadsRevise (w : Workload) (now : Nat) (d : Descriptor) (course : List Stage)
    (turns : List Turn) : Prop where
  ends : ∀ r, decidingResponse? w.client.settings.statuses d course turns = some r →
    ∃ reached ∈ timed now course turns, reached.1.progress.outcome?.isSome = true
  cached : w.client.settings.cacheEnabled = true ∧ d.method = .get ∧ d.noCache = false →
    ¬(d.scope = .database ∧ w.client.database? = none) →
    ∀ reached ∈ timed now course turns, reached.1.progress.outcome?.isSome = true →
      Revises w.client.cache reached.1.beside.client.cache
        ⟨w.client.databaseFor d, .get, d.route⟩
        (decidingResponse? w.client.settings.statuses d course turns) reached.2
  uncached : ¬(w.client.settings.cacheEnabled = true ∧ d.method = .get ∧ d.noCache = false) →
    ∀ s ∈ course, s.beside.client.cache = w.client.cache ∧
      ∀ request waiting, s.progress = .asking request waiting →
        request.headers.find? Http.Field.ifNoneMatch = none
  rejected : d.scope = .database ∧ w.client.database? = none →
    ∀ s ∈ course, s.beside.client.cache = w.client.cache

theorem reads_revise_cache {w₀ : Workload} (fresh : w₀.Fresh) (events : Workload.Run) (now : Nat)
    (d : Descriptor) (seed : UInt64) (turns : List Turn) (isRead : d.isRead = true)
    (ordered : (now :: turns.map (·.now)).Pairwise (· ≤ ·))
    (quiet : Quiet ((w₀.run events).course now d seed turns) turns) :
    ReadsRevise (w₀.run events) now d ((w₀.run events).course now d seed turns) turns := by
  have distinct := fresh.distinct events
  generalize w₀.run events = w at distinct quiet ⊢
  obtain ⟨rest, course, reading⟩ := w.course_reads now seed turns isRead
  have rejected (rejected : d.scope = .database ∧ w.client.database? = none) :
      ∀ s ∈ w.course now d seed turns, s.beside.client.cache = w.client.cache := by
    obtain ⟨fault, only⟩ := w.course_rejected now seed turns rejected
    rw [only]
    exact List.forall_mem_singleton.2 rfl
  have stands (inScope : ¬(d.scope = .database ∧ w.client.database? = none)) :=
    w.course_stands now seed turns isRead inScope ordered quiet
  constructor
  case ends =>
    rw [course]
    exact fun r decision => reading.ends decision now
  case cached =>
    intro cached inScope reached member ended
    obtain ⟨lookup, -, le, uses⟩ := (stands inScope reached member).ended ended
    have keyed := w.client.cacheKey_read isRead
    rw [if_pos cached] at keyed
    rw [uses, Client.lookups, keyed]
    exact revises distinct le d _ _
  case uncached =>
    intro uncached s member
    have keyed := w.client.cacheKey_read isRead
    rw [if_neg uncached] at keyed
    constructor
    · by_cases outOfScope : d.scope = .database ∧ w.client.database? = none
      · exact rejected outOfScope s member
      · obtain ⟨t, reached⟩ := w.exists_mem_timed now seed turns isRead member
        exact (stands outOfScope (s, t) reached).untouched keyed
    · intro request waiting asking
      have runs := w.course_runsOn now seed turns s member
      rw [asking] at runs
      exact runs.unconditional keyed
  case rejected => exact rejected

def stocked : Workload.Run := [
  (0, .perform (.cache (.put ⟨some "shop", .get, "/queries"⟩ "A:1" [49]))),
  (60, .call (.new .get "/docs") (some 7)),
  (61, .reply 0 (.ok ⟨200, [(Http.Field.etag, "A:2")], [50]⟩)),
  (62, .perform (.cache (.put ⟨some "shop", .get, "/users"⟩ "A:3" [51])))]

def renewed : List Turn :=
  [{ now := 121, reply := .error .timeout },
   { now := 122, reply := .ok ⟨200, [(Http.Field.etag, "A:4")], [52]⟩ }]

theorem stocked_readsRevise :
    let d := Descriptor.new .get "/docs"
    let w := Workload.trio.run stocked
    let course := w.course 120 d 7 renewed
    Workload.trio.Fresh ∧ d.isRead = true ∧
      (120 :: renewed.map (·.now)).Pairwise (· ≤ ·) ∧ Quiet course renewed ∧
      ReadsRevise w 120 d course renewed ∧
      decidingResponse? w.client.settings.statuses d course renewed =
        some ⟨200, [(Http.Field.etag, "A:4")], [52]⟩ := by
  intro d w course
  have fresh : Workload.trio.Fresh := ⟨rfl, rfl⟩
  have ordered : (120 :: renewed.map (·.now)).Pairwise (· ≤ ·) := by decide
  have quiet : Quiet course renewed := by
    unfold Quiet
    decide +kernel
  exact ⟨fresh, rfl, ordered, quiet,
    reads_revise_cache fresh stocked 120 d 7 renewed rfl ordered quiet, by decide +kernel⟩

/-- What a read that is answered with 404 does to the cache of a client: its entry goes, unless the
read requires it to exist. -/
structure DropsUnlessRequired (w : Workload) (now : Nat) (d : Descriptor) (key : Cache.Key)
    (course : List Stage) (turns : List Turn) : Prop where
  ends : ∃ s ∈ course, s.progress.outcome?.isSome = true
  drops : d.requireExistence = false → ∀ s ∈ course, s.progress.outcome?.isSome = true →
    ∀ e, (key, e) ∉ s.beside.client.cache.entries
  keeps : d.requireExistence = true → Quiet course turns →
    ∀ s ∈ course, s.progress.outcome?.isSome = true →
    ∃ lookup, now ≤ lookup ∧ s.beside.client.cache = (w.client.cache.get lookup key).1
  others : Quiet course turns → ∀ s ∈ course, s.progress.outcome?.isSome = true →
    ∀ e, e.1 ≠ key → (e ∈ s.beside.client.cache.entries ↔ e ∈ w.client.cache.entries)

theorem Descriptor.readUse_absent (d : Descriptor) (key : Cache.Key) {r : Http.Response}
    (absent : r.status = 404) :
    d.readUse (some key) r = if d.requireExistence then [] else [.remove key] := by
  have failure : r.isSuccess = false := by simp [Http.Response.isSuccess, absent]
  cases required : d.requireExistence <;> simp [readUse, failure, absent, required]

theorem absent_reads_drop_unless_required (w : Workload) (now : Nat) (d : Descriptor)
    (seed : UInt64) (turns : List Turn) {key : Cache.Key}
    (keyed : w.client.cacheKey d = some key)
    (ordered : (now :: turns.map (·.now)).Pairwise (· ≤ ·)) {r : Http.Response}
    (decision : decidingResponse? w.client.settings.statuses d (w.course now d seed turns) turns =
      some r) (absent : r.status = 404) :
    DropsUnlessRequired w now d key (w.course now d seed turns) turns := by
  have isRead := Client.isRead_of_cacheKey keyed
  obtain ⟨rest, course, reading⟩ := w.course_reads now seed turns isRead
  have inScope : ¬(d.scope = .database ∧ w.client.database? = none) := by
    intro rejected
    obtain ⟨fault, only⟩ := w.course_rejected now seed turns rejected
    rw [only, decidingResponse?_stopped (.inr rfl)] at decision
    cases decision
  have ended_at (quiet : Quiet (w.course now d seed turns) turns) {s : Stage}
      (member : s ∈ w.course now d seed turns) (ended : s.progress.outcome?.isSome = true) :
      ∃ lookup t, now ≤ lookup ∧ s.beside.client.cache =
        (w.client.cache.get lookup key).1.after t
          (if d.requireExistence then [] else [.remove key]) := by
    obtain ⟨t, reached⟩ := w.exists_mem_timed now seed turns isRead member
    have stands := w.course_stands now seed turns isRead inScope ordered quiet (s, t) reached
    obtain ⟨lookup, began, -, uses⟩ := stands.ended ended
    rw [decision, Option.elim_some, Client.lookups, keyed, d.readUse_absent key absent] at uses
    exact ⟨lookup, t, began, uses⟩
  constructor
  case ends =>
    rw [course] at decision ⊢
    obtain ⟨reached, member, ended⟩ := reading.ends decision now
    exact ⟨reached.1, (List.of_mem_zip member).1, ended⟩
  case drops =>
    intro optional s member ended e there
    rw [course] at decision member
    obtain ⟨cache, t, uses⟩ := reading.settles decision s member ended
    rw [keyed, d.readUse_absent key absent, optional] at uses
    rw [uses] at there
    exact (Cache.mem_erase.1 there).2 rfl
  case keeps =>
    intro required quiet s member ended
    obtain ⟨lookup, t, began, uses⟩ := ended_at quiet member ended
    rw [required] at uses
    exact ⟨lookup, began, uses⟩
  case others =>
    intro quiet s member ended e other
    obtain ⟨lookup, t, -, uses⟩ := ended_at quiet member ended
    have looked : e ∈ (w.client.cache.get lookup key).1.entries ↔ e ∈ w.client.cache.entries :=
      Cache.mem_get_other other
    rw [uses, ← looked]
    cases d.requireExistence with
    | true => rfl
    | false => exact Cache.mem_erase.trans (and_iff_left other)

def vanished : List Turn :=
  [{ now := 121, reply := .error .timeout }, { now := 122, reply := .ok ⟨404, [], []⟩ }]

theorem vanished_dropsUnlessRequired :
    let d := Descriptor.new .get "/docs"
    let w := Workload.trio.run stocked
    let key : Cache.Key := ⟨some "shop", .get, "/docs"⟩
    let course := w.course 120 d 7 vanished
    w.client.cacheKey d = some key ∧
      (120 :: vanished.map (·.now)).Pairwise (· ≤ ·) ∧
      decidingResponse? w.client.settings.statuses d course vanished = some ⟨404, [], []⟩ ∧
      (∃ e, (key, e) ∈ w.client.cache.entries) ∧
      DropsUnlessRequired w 120 d key course vanished := by
  intro d w key course
  have keyed : w.client.cacheKey d = some key := by decide +kernel
  have ordered : (120 :: vanished.map (·.now)).Pairwise (· ≤ ·) := by decide
  have decision : decidingResponse? w.client.settings.statuses d course vanished =
      some ⟨404, [], []⟩ := by decide +kernel
  exact ⟨keyed, ordered, decision, ⟨⟨"A:2", [50], 61⟩, by decide +kernel⟩,
    absent_reads_drop_unless_required w 120 d 7 vanished keyed ordered decision rfl⟩

theorem required_read_keeps_absent :
    let d := (Descriptor.new .get "/docs").requiring
    let w := Workload.trio.run stocked
    let key : Cache.Key := ⟨some "shop", .get, "/docs"⟩
    let course := w.course 120 d 7 vanished
    w.client.cacheKey d = some key ∧ Quiet course vanished ∧
      decidingResponse? w.client.settings.statuses d course vanished = some ⟨404, [], []⟩ ∧
      ∃ last ∈ course, last.progress.outcome?.isSome = true ∧
        (key, ⟨"A:2", [50], 61⟩) ∈ last.beside.client.cache.entries := by
  intro d w key course
  have quiet : Quiet course vanished := by
    unfold Quiet
    decide +kernel
  exact ⟨by decide +kernel, quiet, by decide +kernel, by decide +kernel⟩

end ClusterClient
