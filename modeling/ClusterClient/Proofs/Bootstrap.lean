import ClusterClient.Proofs.FirstUse
import ClusterClient.Proofs.RefreshSearch

/-!
# One bootstrap

Of all calls on a client only the first that is accepted fetches a snapshot, if none is held yet,
and starts the loop. Whatever becomes of the fetch, that call then sets out like every other one.
-/

namespace ClusterClient

/-! ## New clients -/

namespace Client

structure IsNew (c : Client) : Prop where
  watch : c.watch = {}
  unused : c.isBootstrapped = false
  seeds : c.settings.seeds ≠ []

theorem isNew_of_new {config : Config} {ids : IdSource} {c : Client}
    (built : Client.new config ids = .ok c) : c.IsNew := by
  simp only [new, Config.validate] at built
  cases fault : config.fault? with
  | some fault' =>
      rw [fault] at built
      cases built
  | none =>
      rw [fault] at built
      cases built
      refine ⟨rfl, rfl, fun empty => ?_⟩
      have none : config.urls = [] := empty
      simp [Config.fault?, none] at fault

theorem refreshTargets_ne_nil {c : Client} (known : c.settings.seeds ≠ []) (snapshot : Topology) :
    c.refreshTargets snapshot ≠ [] := by
  obtain ⟨url, member⟩ := List.exists_mem_of_ne_nil _ known
  have seed : Node.seed url c.database? ∈ (Topology.seed c.settings.seeds c.database?).nodes :=
    List.mem_map_of_mem member
  obtain ⟨node, there, -⟩ := exists_mem_withSeeds snapshot.nodes seed
  exact List.ne_nil_of_mem there

theorem held_of_placeless {c : Client} (known : c.settings.seeds ≠ [])
    (placeless : c.topology.isSeed = true → c.refreshTargets c.topology = []) :
    c.topology.isSeed = false := by
  cases seeded : c.topology.isSeed with
  | true => exact absurd (placeless seeded) (refreshTargets_ne_nil known _)
  | false => rfl

structure Idle (c : Client) : Prop where
  started : c.watch.started = 0
  active : c.watch.active = none
  loops : c.watch.loops = []

theorem IsNew.idle {c : Client} (new : c.IsNew) : c.Idle := by
  constructor <;> rw [new.watch]

theorem Idle.rests {c c' : Client} (idle : c.Idle) (rests : c.Rests c') : c'.Idle where
  started := rests.started.trans idle.started
  active := rests.active_none idle.active
  loops := by
    have ids := rests.loops
    rw [idle.loops] at ids
    exact List.map_eq_nil_iff.1 (List.subset_nil.1 ids)

end Client

namespace Workload

/-! ## The first call -/

def RefusesAll (w : Workload) (events : Run) : Prop :=
  ∀ event ∈ events, ∀ d seed, event.2 = .call d seed → w.client.Rejects d

structure IsFirst (w : Workload) (before : Run) (d : Descriptor) : Prop where
  updates : w.client.settings.topologyUpdates = true
  accepted : ¬w.client.Rejects d
  first : w.RefusesAll before

/-- Whether the first call that is accepted has begun the fetch `r` as task `i`. -/
def Began (w : Workload) (before : Run) (i : Nat) (r : Refresh) : Prop :=
  ∃ earlier now d seed later, before = earlier ++ (now, .call d seed) :: later ∧
    w.IsFirst earlier d ∧ (w.run earlier).client.topology.isSeed = true ∧
    i = (w.run earlier).tasks.length ∧ r.snapshot = (w.run earlier).client.topology ∧
    r.places = (w.run earlier).client.refreshTargets (w.run earlier).client.topology

def Unqueued (w : Workload) : Prop :=
  ∀ (i : Nat) (d : Descriptor) (seed : UInt64), w.tasks[i]? ≠ some (.queued d seed)

def Stands (w : Workload) (before : Run) : Phase → Prop
  | .unused => (w.client.settings.topologyUpdates = true → w.RefusesAll before) ∧
      (w.run before).client.Idle ∧ (w.run before).Unqueued
  | .fetching i r => w.Began before i r ∧ (w.run before).client.Idle
  | .used => w.client.settings.topologyUpdates = true ∧ ¬w.RefusesAll before ∧
      (w.run before).client.watch.started = 1

variable {w : Workload} {before : Run} {now : Nat} {event : Event} {p p' : Phase}

theorem Stands.idle (stands : w.Stands before p) (unused : p ≠ .used) :
    (w.run before).client.Idle := by
  cases p with
  | unused => exact stands.2.1
  | fetching i r => exact stands.2
  | used => exact absurd rfl unused

theorem Stands.started_le (stands : w.Stands before p) :
    (w.run before).client.watch.started ≤ 1 := by
  cases p with
  | unused => exact Nat.le_trans (Nat.le_of_eq stands.2.1.started) (Nat.zero_le 1)
  | fetching i r => exact Nat.le_trans (Nat.le_of_eq stands.2.started) (Nat.zero_le 1)
  | used => exact Nat.le_of_eq stands.2.2

theorem refusesAll_append {first second : Run} :
    w.RefusesAll (first ++ second) ↔ w.RefusesAll first ∧ w.RefusesAll second := by
  simp only [RefusesAll, List.mem_append, or_imp, forall_and]

theorem Began.updates {i : Nat} {r : Refresh} (began : w.Began before i r) :
    w.client.settings.topologyUpdates = true := by
  obtain ⟨_, _, _, _, _, -, first, -⟩ := began
  exact first.updates

theorem Began.not_refusesAll {i : Nat} {r : Refresh} (began : w.Began before i r) :
    ¬w.RefusesAll before := by
  obtain ⟨earlier, now, d, seed, later, rfl, first, -⟩ := began
  exact fun refused => first.accepted
    (refused _ (List.mem_append_right _ List.mem_cons_self) d seed rfl)

theorem Began.later {i : Nat} {r : Refresh} (began : w.Began before i r) (events : Run) :
    w.Began (before ++ events) i r := by
  obtain ⟨earlier, now, d, seed, later, rfl, rest⟩ := began
  exact ⟨earlier, now, d, seed, later ++ events, by simp, rest⟩

theorem Began.goesOn {i : Nat} {r r' : Refresh} {fault : Fault} (began : w.Began before i r)
    (goesOn : r.GoesOn fault r') : w.Began before i r' := by
  obtain ⟨earlier, now, d, seed, later, split, first, held, task, snapshot, places⟩ := began
  exact ⟨earlier, now, d, seed, later, split, first, held, task, goesOn.snapshot.trans snapshot,
    goesOn.places.trans places⟩

theorem rejects_run (w : Workload) (before : Run) (d : Descriptor) :
    (w.run before).client.Rejects d ↔ w.client.Rejects d :=
  Client.rejects_congr (settings_run w before) d

theorem opens_iff (stands : w.Stands before .unused) (isIn : (w.run before).IsIn .unused)
    (d : Descriptor) : (w.run before).client.Opens d ↔ w.IsFirst before d := by
  have settings := settings_run w before
  constructor
  · rintro ⟨accepted, updates, -⟩
    rw [settings] at updates
    exact ⟨updates, by rwa [rejects_run] at accepted, stands.1 updates⟩
  · rintro ⟨updates, accepted, -⟩
    exact ⟨by rwa [rejects_run], by rwa [settings], isIn.1⟩

theorem IsFirst.eq_unused {d : Descriptor} (first : w.IsFirst before d)
    (stands : w.Stands before p) : p = .unused := by
  cases p with
  | unused => rfl
  | fetching i r => exact absurd first.first stands.1.not_refusesAll
  | used => exact absurd first.first stands.2.1

theorem Stands.call_of_starts (stands : w.Stands before .unused) {i : Nat} {d : Descriptor}
    (starts : (w.run before).Starts event i d) :
    ∃ seed, event = .call d seed ∧ i = (w.run before).tasks.length := by
  cases starts with
  | call d seed => exact ⟨seed, rfl, rfl⟩
  | proceed queued => exact absurd queued (stands.2.2 _ _ _)

theorem Stands.step (stands : w.Stands before p) (isIn : (w.run before).IsIn p)
    (advance : (w.run before).Advance now p event p') (kept : ∀ i, event ≠ .drop i) :
    w.Stands (before ++ [(now, event)]) p' := by
  have step : w.run (before ++ [(now, event)]) = (w.run before).step now event := run_append ..
  cases advance with
  | rests rests noFirst apart =>
      cases p with
      | unused =>
          refine ⟨fun updates => ?_, by rw [step]; exact stands.2.1.rests rests, ?_⟩
          · refine refusesAll_append.2 ⟨stands.1 updates, fun e member d seed call => ?_⟩
            obtain rfl := List.mem_singleton.1 member
            by_cases accepted : w.client.Rejects d
            · exact accepted
            · have first : w.IsFirst before d := ⟨updates, accepted, stands.1 updates⟩
              obtain rfl : event = .call d seed := call
              exact absurd ((opens_iff stands isIn d).2 first) (noFirst rfl _ d (.call d seed))
          · intro i d seed queued
            rw [step] at queued
            rcases queued_step now queued with before | ⟨fetching, -⟩
            · exact stands.2.2 i d seed before
            · rw [isFetching_eq_false isIn.2] at fetching
              cases fetching
      | fetching i r => exact ⟨stands.1.later _, by rw [step]; exact stands.2.rests rests⟩
      | used =>
          refine ⟨stands.1, fun refused => stands.2.1 (refusesAll_append.1 refused).1, ?_⟩
          rw [step, rests.started, stands.2.2]
  | begins starts opens seeded rests begins =>
      have first := (opens_iff stands isIn _).1 opens
      obtain ⟨seed, rfl, rfl⟩ := stands.call_of_starts starts
      refine ⟨⟨before, now, _, _, [], rfl, first, seeded, rfl, begins.snapshot, ?_⟩, ?_⟩
      · simp [Refresh.places, begins.failures, begins.places]
      · rw [step]
        exact stands.2.1.rests rests
  | skips starts opens held launches setsOut =>
      have first := (opens_iff stands isIn _).1 opens
      obtain ⟨seed, rfl, rfl⟩ := stands.call_of_starts starts
      refine ⟨first.updates, fun refused => ?_, ?_⟩
      · exact first.accepted ((refusesAll_append.1 refused).2 _ List.mem_cons_self _ seed rfl)
      · rw [step, launches.started stands.2.1.active, stands.2.1.started]
  | goesOn rests fails goesOn =>
      exact ⟨(stands.1.goesOn goesOn).later _, by rw [step]; exact stands.2.rests rests⟩
  | ends settles launches setsOut =>
      refine ⟨stands.1.updates, (stands.1.later _).not_refusesAll, ?_⟩
      rw [step, launches.started stands.2.active, stands.2.started]
  | givenUp => exact absurd rfl (kept _)

theorem accepted_of_queued {i : Nat} {d : Descriptor} {seed : UInt64}
    (accepted : w.tasks[i]? = some (.queued d seed) → ¬w.client.Rejects d)
    (queued : (w.run before).tasks[i]? = some (.queued d seed)) : ¬w.client.Rejects d := by
  induction before generalizing w with
  | nil => exact accepted queued
  | cons event rest ih =>
      have settings := settings_step w event.1 event.2
      rw [← Client.rejects_congr settings]
      refine ih (fun earlier => ?_) queued
      rw [Client.rejects_congr settings]
      rcases queued_step event.1 earlier with before | ⟨-, opens⟩
      · exact accepted before
      · exact opens.inScope

/-- No loop is started by hand, and no call is given up. -/
structure Run.Plain (events : Run) : Prop where
  ownLoop : events.StartsNone
  kept : ∀ event ∈ events, ∀ i, event.2 ≠ .drop i

theorem Run.Plain.tail {event : Nat × Event} {rest : Run} (plain : Plain (event :: rest)) :
    Plain rest :=
  ⟨plain.ownLoop.tail, fun e member => plain.kept e (List.mem_cons_of_mem _ member)⟩

theorem Stands.run {events : Run} (stands : w.Stands before p) (isIn : (w.run before).IsIn p)
    (plain : events.Plain) :
    ∃ p', (w.run (before ++ events)).IsIn p' ∧ w.Stands (before ++ events) p' := by
  -- What is done of the run stays in front of the list, as `Stands` looks back at all of it.
  induction events generalizing before p with
  | nil =>
      rw [List.append_nil]
      exact ⟨p, isIn, stands⟩
  | cons event rest ih =>
      have own := plain.ownLoop event List.mem_cons_self
      obtain ⟨p', advance, next⟩ := isIn.advance event.1 own
      have after := stands.step isIn advance (plain.kept event List.mem_cons_self)
      have step : w.run (before ++ [event]) = (w.run before).step event.1 event.2 :=
        run_append ..
      rw [List.append_cons]
      exact ih after (by rw [step]; exact next) plain.tail

theorem Run.Plain.left {first second : Run} (plain : Plain (first ++ second)) : Plain first :=
  ⟨plain.ownLoop.left, fun e member => plain.kept e (List.mem_append_left _ member)⟩

theorem stands_run (new : w.client.IsNew) (untouched : w.tasks = []) (plain : before.Plain) :
    ∃ p, (w.run before).IsIn p ∧ w.Stands before p := by
  have free (i : Nat) : w.fetch? i = none := by simp [fetch?, untouched]
  have refused : w.RefusesAll [] := by
    intro _ member
    cases member
  have unqueued : w.Unqueued := fun i d seed => by simp [untouched]
  have stands : w.Stands [] .unused := ⟨fun _ => refused, new.idle, unqueued⟩
  have isIn : (w.run []).IsIn .unused := ⟨new.unused, free⟩
  exact stands.run isIn plain

/-! ## Steps of a run -/

def Phase.fetch? : Phase → Nat → Option Refresh
  | .fetching i r, j => if j = i then some r else none
  | _, _ => none

theorem IsIn.fetch?_eq {w : Workload} (isIn : w.IsIn p) (i : Nat) : w.fetch? i = p.fetch? i := by
  cases p <;> exact isIn.2 i

theorem Phase.eq_fetching {i : Nat} {r : Refresh} (fetching : p.fetch? i = some r) :
    p = .fetching i r := by
  cases p with
  | fetching j r' =>
      simp only [fetch?] at fetching
      split at fetching
      · rename_i same
        cases fetching
        rw [same]
      · cases fetching
  | _ => cases fetching

structure FetchesOn (w : Workload) (now : Nat) (event : Event) (i : Nat) (r : Refresh) : Prop where
  nothingElse : w.attempt? i = none
  waits : (∀ reply, event ≠ .reply i reply) → (w.step now event).fetch? i = some r
  goesOn : ∀ reply, event = .reply i reply → ¬w.client.Settles r reply → ∃ fault r',
    w.client.fetched r.asked reply = .error fault ∧ r.GoesOn fault r' ∧
      (w.step now event).fetch? i = some r'
  ends : ∀ reply, event = .reply i reply → w.client.Settles r reply →
    (w.step now event).SetsOut i

structure Unwatched (w : Workload) (now : Nat) (event : Event) : Prop where
  free : ∀ i, (w.step now event).fetch? i = none
  idle : (w.step now event).client.Idle
  wake : ∀ id, event = .wake id → w.step now event = w
  loopReply : ∀ id reply, event = .loopReply id reply → w.step now event = w
  signal : event = .perform .requestRefresh → w.step now event =
    ⟨w.client.modifyWatch fun watch =>
      { watch with requests := watch.requests + 1, notify := watch.notify.notify }, w.tasks⟩

def BeginsFetch (w : Workload) (before : Run) (event : Event) (i : Nat) : Prop :=
  ∃ d seed, event = .call d seed ∧ w.IsFirst before d ∧
    (w.run before).client.topology.isSeed = true ∧ i = (w.run before).tasks.length

def EndsFirstUse (w : Workload) (before : Run) (event : Event) : Prop :=
  (∃ d seed, event = .call d seed ∧ w.IsFirst before d ∧
    (w.run before).client.topology.isSeed = false) ∨
  ∃ i r reply, event = .reply i reply ∧ (w.run before).fetch? i = some r ∧
    (w.run before).client.Settles r reply

/-- What one more event of a run does to the first use. -/
structure BootstrapsOnce (w : Workload) (before : Run) (now : Nat) (event : Event) : Prop where
  begins : ∀ i, (w.run before).fetch? i = none →
    (((w.run before).step now event).fetch? i ≠ none ↔ w.BeginsFetch before event i)
  fetches : ∀ i r, (w.run before).fetch? i = some r →
    w.Began before i r ∧ (w.run before).FetchesOn now event i r
  launches : (w.run before).client.watch.started <
    ((w.run before).step now event).client.watch.started ↔ w.EndsFirstUse before event
  once : ((w.run before).step now event).client.watch.started ≤ 1
  runs : (w.run before).client.watch.started <
      ((w.run before).step now event).client.watch.started →
    ((w.run before).step now event).client.isRunning = true
  routes : ∀ d seed, event = .call d seed → ¬w.client.Rejects d →
    (∀ i, (w.run before).fetch? i = none) →
    ¬(w.IsFirst before d ∧ (w.run before).client.topology.isSeed = true) →
    ((w.run before).step now event).SetsOut (w.run before).tasks.length
  queues : ∀ d seed, event = .call d seed → ¬w.client.Rejects d →
    (∃ i r, (w.run before).fetch? i = some r) → ∃ rotation seed', (w.run before).step now event =
      ⟨{ (w.run before).client with rotation }, (w.run before).tasks ++ [.queued d seed']⟩
  stays : ∀ i d seed, event = .proceed i → (w.run before).tasks[i]? = some (.queued d seed) →
    (∃ j r, (w.run before).fetch? j = some r) → (w.run before).step now event = w.run before
  proceeds : ∀ i d seed, event = .proceed i → (w.run before).tasks[i]? = some (.queued d seed) →
    (∀ j, (w.run before).fetch? j = none) → ((w.run before).step now event).SetsOut i
  refuses : ∀ d seed, event = .call d seed → w.client.Rejects d →
    ∃ rotation, (w.run before).step now event =
      ⟨{ (w.run before).client with rotation }, (w.run before).tasks ++
        [.call (.done (.error (.config (.noDatabase d.route))))]⟩
  off : w.client.settings.topologyUpdates = false → (w.run before).Unwatched now event

theorem attempt?_of_fetch? {i : Nat} {r : Refresh} (fetching : w.fetch? i = some r) :
    w.attempt? i = none := by
  obtain ⟨task, located, asking⟩ := Option.bind_eq_some_iff.1 fetching
  obtain ⟨request, d, seed, rfl⟩ := Task.fetch?_eq_some_iff.1 asking
  rw [attempt?, located]

theorem goesOn_not_settles {c : Client} {r r' : Refresh} {reply : Http.Reply} {fault : Fault}
    (fails : c.fetched r.asked reply = .error fault) (goesOn : r.GoesOn fault r') :
    ¬c.Settles r reply := by
  rintro (⟨t, fetched⟩ | last)
  · rw [fails] at fetched
    cases fetched
  · rw [goesOn.remaining] at last
    cases last

section
variable (stands : w.Stands before p) (isIn : (w.run before).IsIn p)
  (advance : (w.run before).Advance now p event p')

include stands isIn advance in
theorem first_begins_or_skips (known : (w.run before).client.settings.seeds ≠ []) {d : Descriptor}
    {seed : Option UInt64} (call : event = .call d seed) (first : w.IsFirst before d) :
    p = .unused ∧ (((w.run before).client.topology.isSeed = true ∧
      ∃ r, p' = .fetching (w.run before).tasks.length r) ∨
    (w.run before).client.topology.isSeed = false ∧ p' = .used ∧
      (w.run before).client.Launches ((w.run before).step now event).client ∧
      ((w.run before).step now event).SetsOut (w.run before).tasks.length) := by
  obtain rfl := first.eq_unused stands
  have opens := (opens_iff stands isIn d).2 first
  subst call
  refine ⟨rfl, ?_⟩
  cases advance with
  | rests _ noFirst => exact absurd opens (noFirst rfl _ d (.call d seed))
  | begins starts _ seeded =>
      cases starts
      exact .inl ⟨seeded, _, rfl⟩
  | skips starts _ placeless launches setsOut =>
      cases starts
      exact .inr ⟨Client.held_of_placeless known placeless, rfl, launches, setsOut⟩

include stands isIn advance in
theorem begins_iff (known : (w.run before).client.settings.seeds ≠ [])
    (next : ((w.run before).step now event).IsIn p') {i : Nat}
    (free : (w.run before).fetch? i = none) :
    ((w.run before).step now event).fetch? i ≠ none ↔ w.BeginsFetch before event i := by
  rw [next.fetch?_eq]
  rw [isIn.fetch?_eq] at free
  constructor
  · intro fetching
    cases advance with
    | rests => exact absurd free fetching
    | begins starts opens seeded =>
        obtain ⟨seed, rfl, rfl⟩ := stands.call_of_starts starts
        refine ⟨_, _, rfl, (opens_iff stands isIn _).1 opens, seeded, ?_⟩
        by_cases same : i = (w.run before).tasks.length
        · exact same
        · exact absurd (if_neg same) fetching
    | skips => exact absurd rfl fetching
    | @goesOn j r r' reply fault =>
        by_cases same : i = j
        · simp [Phase.fetch?, same] at free
        · exact absurd (if_neg same) fetching
    | ends => exact absurd rfl fetching
    | givenUp => exact absurd rfl fetching
  · rintro ⟨d, seed, call, first, seeded, rfl⟩
    obtain ⟨-, ⟨-, r, rfl⟩ | ⟨held, -⟩⟩ :=
      first_begins_or_skips stands isIn advance known call first
    · simp [Phase.fetch?]
    · rw [seeded] at held
      cases held

include stands isIn advance in
theorem launches_iff (known : (w.run before).client.settings.seeds ≠ []) :
    (w.run before).client.watch.started <
      ((w.run before).step now event).client.watch.started ↔ w.EndsFirstUse before event := by
  constructor
  · intro more
    cases advance with
    | rests rests => exact absurd more (by simp [rests.started])
    | begins _ _ _ rests => exact absurd more (by simp [rests.started])
    | skips starts opens placeless =>
        obtain ⟨seed, rfl, -⟩ := stands.call_of_starts starts
        exact .inl ⟨_, _, rfl, (opens_iff stands isIn _).1 opens,
          Client.held_of_placeless known placeless⟩
    | goesOn rests => exact absurd more (by simp [rests.started])
    | ends settles =>
        exact .inr ⟨_, _, _, rfl, (isIn.2 _).trans (if_pos rfl), settles⟩
    | givenUp rests => exact absurd more (by simp [rests.started])
  · rintro (⟨d, seed, call, first, held⟩ | ⟨i, r, reply, rfl, fetching, settles⟩)
    · obtain ⟨rfl, ⟨seeded, -⟩ | ⟨-, rfl, launches, -⟩⟩ :=
        first_begins_or_skips stands isIn advance known call first
      · rw [held] at seeded
        cases seeded
      · rw [launches.started stands.2.1.active]
        exact Nat.lt_succ_self _
    · rw [isIn.fetch?_eq] at fetching
      obtain rfl := Phase.eq_fetching fetching
      cases advance with
      | rests _ _ apart => exact absurd rfl ((apart i r rfl).2 reply)
      | goesOn _ fails goesOn => exact absurd settles (goesOn_not_settles fails goesOn)
      | ends _ launches =>
          rw [launches.started stands.2.active]
          exact Nat.lt_succ_self _

include isIn advance in
theorem fetchesOn (kept : ∀ i, event ≠ .drop i) (next : ((w.run before).step now event).IsIn p')
    {i : Nat} {r : Refresh} (fetching : (w.run before).fetch? i = some r) :
    (w.run before).FetchesOn now event i r := by
  have nothingElse := attempt?_of_fetch? fetching
  rw [isIn.fetch?_eq] at fetching
  obtain rfl := Phase.eq_fetching fetching
  cases advance with
  | rests _ _ apart =>
      have unreplied (reply : Http.Reply) (replied : event = .reply i reply) : False :=
        (apart i r rfl).2 reply replied
      exact ⟨nothingElse, fun _ => (next.fetch?_eq i).trans fetching,
        fun reply replied => absurd replied (unreplied reply),
        fun reply replied => absurd replied (unreplied reply)⟩
  | goesOn _ fails goesOn =>
      refine ⟨nothingElse, fun other => absurd rfl (other _), ?_, ?_⟩
      · rintro reply ⟨⟩ -
        exact ⟨_, _, fails, goesOn, (next.fetch?_eq i).trans (if_pos rfl)⟩
      · rintro reply ⟨⟩ settles
        exact absurd settles (goesOn_not_settles fails goesOn)
  | ends settles _ setsOut =>
      refine ⟨nothingElse, fun other => absurd rfl (other _), ?_, ?_⟩
      · rintro reply ⟨⟩ more
        exact absurd settles more
      · rintro reply ⟨⟩ -
        exact setsOut
  | givenUp => exact absurd rfl (kept _)

include stands isIn advance in
theorem routes (known : (w.run before).client.settings.seeds ≠ []) {d : Descriptor}
    {seed : Option UInt64} (call : event = .call d seed) (accepted : ¬w.client.Rejects d)
    (free : ∀ i, (w.run before).fetch? i = none)
    (other : ¬(w.IsFirst before d ∧ (w.run before).client.topology.isSeed = true)) :
    ((w.run before).step now event).SetsOut (w.run before).tasks.length := by
  by_cases first : w.IsFirst before d
  · obtain ⟨-, ⟨seeded, -⟩ | ⟨-, -, -, setsOut⟩⟩ :=
      first_begins_or_skips stands isIn advance known call first
    · exact absurd ⟨first, seeded⟩ other
    · exact setsOut
  · subst call
    have later : ¬(w.run before).client.Opens d := by
      intro opens
      cases p with
      | unused => exact first ((opens_iff stands isIn d).1 opens)
      | fetching i r => exact absurd (free i) (by simp [isIn.fetch?_eq, Phase.fetch?])
      | used => exact absurd opens.unused (by simp [isIn.1])
    have accepted' : ¬(w.run before).client.Rejects d := by rwa [rejects_run]
    exact Starts.setsOut now (.call d seed) accepted' later

include stands isIn in
theorem opens_of_fetching {d : Descriptor} (accepted : ¬w.client.Rejects d) {i : Nat} {r : Refresh}
    (fetching : (w.run before).fetch? i = some r) : (w.run before).client.Opens d := by
  rw [isIn.fetch?_eq] at fetching
  obtain rfl := Phase.eq_fetching fetching
  refine ⟨by rwa [rejects_run], ?_, isIn.1⟩
  rw [settings_run]
  exact stands.1.updates

include stands isIn in
theorem proceeds {i : Nat} {d : Descriptor} {seed : UInt64} (accepted : ¬w.client.Rejects d)
    (queued : (w.run before).tasks[i]? = some (.queued d seed))
    (free : ∀ j, (w.run before).fetch? j = none) (now : Nat) :
    ((w.run before).step now (.proceed i)).SetsOut i := by
  have accepted' : ¬(w.run before).client.Rejects d := by rwa [rejects_run]
  refine Starts.setsOut now (.proceed queued) accepted' ?_
  cases p with
  | unused => exact absurd queued (stands.2.2 i d seed)
  | fetching j r => exact absurd (free j) (by simp [isIn.fetch?_eq, Phase.fetch?])
  | used => exact not_opens_of_booted isIn.1 d

include stands advance in
theorem running_of_started (more : (w.run before).client.watch.started <
    ((w.run before).step now event).client.watch.started) :
    ((w.run before).step now event).client.isRunning = true := by
  rcases advance.rests_or_launches with rests | ⟨unused, -, launches⟩
  · exact absurd more (by simp [rests.started])
  · rw [Client.isRunning, launches.active (stands.idle unused).active]
    rfl

include stands advance in
theorem unwatched_of_off (next : ((w.run before).step now event).IsIn p')
    (off : w.client.settings.topologyUpdates = false) : (w.run before).Unwatched now event := by
  have never : ¬w.client.settings.topologyUpdates = true := by simp [off]
  have noOpen (d : Descriptor) : ¬(w.run before).client.Opens d := by
    rintro ⟨-, updates, -⟩
    rw [settings_run] at updates
    exact never updates
  obtain rfl : p = .unused := by
    cases p with
    | unused => rfl
    | fetching i r => exact absurd stands.1.updates never
    | used => exact absurd stands.1 never
  have loopless (id : Nat) : (w.run before).loop? id = none := by
    rw [loop?, stands.2.1.loops]
    rfl
  have woken (id : Nat) (f : Loop → Client) : (w.run before).updateLoop id f = w.run before := by
    rw [updateLoop, loopless]
  cases advance with
  | rests rests =>
      constructor
      case free => exact fun i => next.fetch?_eq i
      case idle => exact stands.2.1.rests rests
      case wake =>
        rintro id rfl
        exact woken id _
      case loopReply =>
        rintro id reply rfl
        exact woken id _
      case signal =>
        rintro rfl
        rfl
  | begins _ opens => exact absurd opens (noOpen _)
  | skips _ opens => exact absurd opens (noOpen _)

end

theorem bootstrap_happens_once {config : Config} {ids : IdSource} {w : Workload}
    (built : Client.new config ids = .ok w.client) (untouched : w.tasks = []) {before : Run}
    {now : Nat} {event : Event} (plain : Run.Plain (before ++ [(now, event)])) :
    w.BootstrapsOnce before now event := by
  have new := Client.isNew_of_new built
  have known : (w.run before).client.settings.seeds ≠ [] := by
    rw [settings_run]
    exact new.seeds
  obtain ⟨p, isIn, stands⟩ := stands_run new untouched plain.left
  have last : (now, event) ∈ before ++ [(now, event)] := List.mem_concat_self
  have ownLoop : ∀ interval evicts, event ≠ .perform (.start interval evicts) :=
    plain.ownLoop _ last
  have kept : ∀ i, event ≠ .drop i := plain.kept _ last
  obtain ⟨p', advance, next⟩ := isIn.advance now ownLoop
  constructor
  case begins =>
    intro i free
    exact begins_iff stands isIn advance known next free
  case fetches =>
    intro i r fetching
    have began := fetching
    rw [isIn.fetch?_eq] at began
    obtain rfl := Phase.eq_fetching began
    exact ⟨stands.1, fetchesOn isIn advance kept next fetching⟩
  case launches => exact launches_iff stands isIn advance known
  case once =>
    have after : w.run (before ++ [(now, event)]) = (w.run before).step now event := run_append ..
    rw [← after]
    exact (stands.step isIn advance kept).started_le
  case runs => exact running_of_started stands advance
  case routes =>
    intro d seed call accepted free other
    exact routes stands isIn advance known call accepted free other
  case queues =>
    rintro d seed rfl accepted ⟨i, r, fetching⟩
    have opens := opens_of_fetching stands isIn accepted fetching
    exact step_call_queued now (isFetching_iff.2 ⟨i, r, fetching⟩) opens seed
  case stays =>
    rintro i d seed rfl queued ⟨j, r, fetching⟩
    have accepted := accepted_of_queued (fun there => by simp [untouched] at there) queued
    have opens := opens_of_fetching stands isIn accepted fetching
    exact step_proceed_queued now queued (isFetching_iff.2 ⟨j, r, fetching⟩) opens
  case proceeds =>
    rintro i d seed rfl queued free
    have accepted := accepted_of_queued (fun there => by simp [untouched] at there) queued
    exact proceeds stands isIn accepted queued free now
  case refuses =>
    rintro d seed rfl rejected
    exact step_call_rejected now ((rejects_run w before d).2 rejected) seed
  case off => exact unwatched_of_off stands advance next

theorem newcomer_bootstrapsOnce :
    Client.new { urls := ["http://a"], database := some "shop" } (.sequential 0) =
        .ok newcomer.client ∧ newcomer.tasks = [] ∧ Run.Plain (opening ++ opened) ∧
      newcomer.BootstrapsOnce opening 2 (.reply 0 (.ok ⟨404, [], []⟩)) := by
  have built : Client.new { urls := ["http://a"], database := some "shop" } (.sequential 0) =
      .ok newcomer.client := rfl
  have plain : Run.Plain (opening ++ opened) := by
    constructor <;> simp [Run.StartsNone, opening, opened]
  exact ⟨built, rfl, plain, bootstrap_happens_once built rfl plain⟩

end Workload

end ClusterClient
