import ClusterClient.Proofs.FirstUse

/-!
Plays: runs in which a loop may take up any branch that is ready, not only the one that comes
first. What a move does to the loops and to the signals is said once here.
-/

namespace ClusterClient

namespace Client

def Ready (c : Client) (now : Nat) (l : Loop) : Loop.Wake → Prop
  | .stop => c.watch.active ≠ some l.id
  | .tick => l.nextTick ≤ now
  | .signal => c.watch.notify.isReady l.id = true

instance (c : Client) (now : Nat) (l : Loop) (wake : Loop.Wake) : Decidable (c.Ready now l wake) :=
  match wake with
  | .stop => inferInstanceAs (Decidable (_ ≠ _))
  | .tick => inferInstanceAs (Decidable (_ ≤ _))
  | .signal => inferInstanceAs (Decidable (_ = true))

def takeUp (c : Client) (now : Nat) (l : Loop) (wake : Loop.Wake) : Client :=
  match c.wakeLoop now l wake with
  | (c, some (.asking _ r)) => c.setRefresh l.id (some r)
  | (c, _) => c

theorem ready_of_wake? {c : Client} {now : Nat} {l : Loop} {wake : Loop.Wake}
    (wakes : c.wake? now l = some wake) : c.Ready now l wake := by
  unfold wake? at wakes
  split at wakes
  · rename_i ended
    cases wakes
    exact ended
  · split at wakes
    · rename_i due
      cases wakes
      exact due
    · split at wakes
      · rename_i ready
        cases wakes
        exact ready
      · cases wakes

theorem unready_of_wake? {c : Client} {now : Nat} {l : Loop} (asleep : c.wake? now l = none)
    (wake : Loop.Wake) : ¬c.Ready now l wake := by
  unfold wake? at asleep
  split at asleep
  · cases asleep
  · rename_i active
    split at asleep
    · cases asleep
    · rename_i early
      split at asleep
      · cases asleep
      · rename_i unready
        cases wake with
        | stop => exact active
        | tick => exact early
        | signal => exact unready

def schedule (c : Client) : List Loop := c.watch.loops.map fun l => { l with refresh := none }

def Busy (c : Client) (id : Nat) : Prop :=
  ∃ l, c.watch.loops.find? (·.id = id) = some l ∧ l.refresh.isSome = true

variable {c c' c'' : Client}

/-! ## Loops and signals -/

structure Unmoved (c c' : Client) : Prop where
  requests : c'.watch.requests = c.watch.requests
  notify : c'.watch.notify = c.watch.notify
  active : c'.watch.active = c.watch.active
  schedule : c'.schedule = c.schedule
  cache : c'.cache = c.cache

theorem Unmoved.trans (first : c.Unmoved c') (second : c'.Unmoved c'') : c.Unmoved c'' where
  requests := second.requests.trans first.requests
  notify := second.notify.trans first.notify
  active := second.active.trans first.active
  schedule := second.schedule.trans first.schedule
  cache := second.cache.trans first.cache

theorem unmoved_askNext (c : Client) (snapshot : Topology) (places : List Node)
    (failures : List NodeFailure) : c.Unmoved (c.askNext snapshot places failures).1 := by
  cases places <;> exact ⟨rfl, rfl, rfl, rfl, rfl⟩

theorem unmoved_startRefresh (c : Client) : c.Unmoved c.startRefresh.1 := by
  have counted : c.Unmoved (c.modifyWatch fun w => { w with inFlight := w.inFlight + 1 }) :=
    ⟨rfl, rfl, rfl, rfl, rfl⟩
  exact counted.trans (unmoved_askNext _ c.topology (c.refreshTargets c.topology) [])

theorem schedule_setRefresh (c : Client) (id : Nat) (r : Option Refresh) :
    (c.setRefresh id r).schedule = c.schedule := by
  simp only [schedule, setRefresh, modifyWatch, List.map_map]
  refine List.map_congr_left fun l _ => ?_
  simp only [Function.comp_apply]
  split <;> rfl

theorem unmoved_setRefresh (c : Client) (id : Nat) (r : Option Refresh) :
    c.Unmoved (c.setRefresh id r) :=
  ⟨rfl, rfl, rfl, schedule_setRefresh c id r, rfl⟩

theorem takeUp_stop (c : Client) (now : Nat) (l : Loop) :
    c.takeUp now l .stop = (c.modifyNotify (·.leave l.id)).removeLoop l.id := rfl

theorem takeUp_refreshes {c₀ : Client} {now : Nat} {l : Loop} {wake : Loop.Wake}
    (woken : c.wakeLoop now l wake = (c₀.startRefresh.1, some c₀.startRefresh.2)) :
    c₀.Unmoved (c.takeUp now l wake) := by
  have started := unmoved_startRefresh c₀
  rw [takeUp, woken]
  cases c₀.startRefresh.2 with
  | asking request r => exact started.trans (unmoved_setRefresh _ _ _)
  | done outcome => exact started

theorem takeUp_signal (c : Client) (now : Nat) (l : Loop) :
    (c.modifyNotify (·.take l.id)).Unmoved (c.takeUp now l .signal) :=
  takeUp_refreshes rfl

def ticked (c : Client) (now : Nat) (l : Loop) : Client :=
  let c := (c.modifyNotify (·.leave l.id)).setLoop { l with nextTick := l.followingTick now }
  if l.evicts then { c with cache := (c.cache.evictExpired now).1 } else c

theorem takeUp_tick (c : Client) (now : Nat) (l : Loop) :
    (c.ticked now l).Unmoved (c.takeUp now l .tick) :=
  takeUp_refreshes rfl

/-- What anything but an idle loop does to the loops and to the signals. -/
structure Attends (c c' : Client) : Prop where
  signals : c.Notified c'
  loops : c'.watch.active = c.watch.active ∧ c'.schedule = c.schedule ∨
    c.watch.active = none ∧ ∃ l, c'.watch.active = some l.id ∧
      (c'.schedule = c.schedule ∨ c'.schedule = c.schedule ++ [l])
  busy : ∀ id, c'.Busy id → c.Busy id

theorem Beside.attends (beside : c.Beside c') : c.Attends c' where
  signals := beside.signals
  loops := .inl ⟨beside.active, by rw [schedule, beside.loops, schedule]⟩
  busy id busy := by rwa [Busy, beside.loops] at busy

theorem Attends.refl (c : Client) : c.Attends c := (Beside.refl c).attends

theorem Attends.trans (first : c.Attends c') (second : c'.Attends c'') : c.Attends c'' where
  signals := first.signals.trans second.signals
  busy id busy := first.busy id (second.busy id busy)
  loops := by
    rcases first.loops with ⟨active, schedule⟩ | ⟨idle, l, active, schedule⟩
    · rw [← active, ← schedule]
      exact second.loops
    · rcases second.loops with ⟨active', schedule'⟩ | ⟨idle', -⟩
      · rw [active', schedule']
        exact .inr ⟨idle, l, active, schedule⟩
      · rw [active] at idle'
        cases idle'

theorem startLoop_idle (idle : c.watch.active = none) (now interval : Nat) (evicts : Bool) :
    c.startLoop now interval evicts = c.modifyWatch fun w =>
      { w with
        active := some c.watch.started
        started := c.watch.started + 1
        loops := if interval = 0 then w.loops
          else w.loops ++
            [{ id := c.watch.started, interval, evicts, nextTick := now + interval }] } := by
  simp [startLoop, modifyWatch, idle]

theorem attends_startLoop (c : Client) (now interval : Nat) (evicts : Bool) :
    c.Attends (c.startLoop now interval evicts) := by
  cases active : c.watch.active with
  | some id =>
      have same : c.startLoop now interval evicts = c := by
        simp [startLoop, modifyWatch, active]
      rw [same]
      exact .refl c
  | none =>
      let l : Loop := { id := c.watch.started, interval, evicts, nextTick := now + interval }
      rw [startLoop_idle active]
      refine ⟨notified_of_eq rfl rfl, .inr ⟨active, l, rfl, ?_⟩, fun id busy => ?_⟩
      · simp only [schedule, modifyWatch]
        split
        · exact .inl rfl
        · exact .inr (List.map_append ..)
      · obtain ⟨l', located, refreshes⟩ := busy
        simp only [modifyWatch] at located
        split at located
        · exact ⟨l', located, refreshes⟩
        · rw [List.find?_append, Option.or_eq_some_iff] at located
          rcases located with before | ⟨-, started⟩
          · exact ⟨l', before, refreshes⟩
          · rw [List.mem_singleton.1 (List.mem_of_find?_eq_some started)] at refreshes
            cases refreshes

theorem attends_boot (c : Client) (now : Nat) : c.Attends (c.boot now) := by
  have marked : c.Attends { c with isBootstrapped := true } :=
    ⟨notified_of_eq rfl rfl, .inl ⟨rfl, rfl⟩, fun _ busy => busy⟩
  exact marked.trans (attends_startLoop _ now _ _)

theorem attends_startCall (c : Client) (now : Nat) (d : Descriptor) (seed : UInt64) :
    c.Attends (c.startCall now d seed).1 := by
  by_cases rejected : c.Rejects d
  · rw [startCall_rejected rejected]
    exact .refl c
  · by_cases opens : c.Opens d
    · rcases startCall_opens opens now seed with
        ⟨-, c', request, r, next, beside, -⟩ | ⟨-, c', next, beside⟩
      · rw [next]
        exact beside.attends
      · rw [next]
        exact (beside.attends.trans (attends_boot c' now)).trans (aside_route ..).attends
    · rw [startCall_routes rejected opens]
      exact (aside_route ..).attends

theorem attends_resumeCall (c : Client) (now : Nat) (waiting : Call.Suspended)
    (reply : Http.Reply) : c.Attends (c.resumeCall now waiting reply).1 := by
  cases waiting with
  | bootstrapping d seed r =>
      rcases resumeCall_fetching c now d seed r reply with
        ⟨c', request, r', fault, next, beside, -⟩ | ⟨-, c', next, beside⟩
      · rw [next]
        exact beside.attends
      · rw [next]
        exact (beside.attends.trans (attends_boot c' now)).trans (aside_route ..).attends
  | attempting a => exact (aside_resumeCall c now a reply).attends

theorem attends_setRefresh (c : Client) {l : Loop} (busy : c.Busy l.id) (r : Option Refresh) :
    c.Attends (c.setRefresh l.id r) := by
  have unmoved := unmoved_setRefresh c l.id r
  refine ⟨notified_of_eq unmoved.requests unmoved.notify, .inl ⟨unmoved.active, unmoved.schedule⟩,
    fun id busy' => ?_⟩
  obtain ⟨l', located, refreshes⟩ := busy'
  have same (other : Loop) :
      (if other.id = l.id then { other with refresh := r } else other).id = other.id := by
    split <;> rfl
  simp only [setRefresh, modifyWatch, List.find?_map, Function.comp_def, same] at located
  obtain ⟨other, before, rfl⟩ := Option.map_eq_some_iff.1 located
  by_cases eq : id = l.id
  · rwa [eq]
  · have other_id : other.id = id := by simpa using List.find?_some before
    rw [if_neg (by rwa [other_id])] at refreshes
    exact ⟨other, before, refreshes⟩

theorem attends_resumeLoop {l : Loop} (located : c.watch.loops.find? (·.id = l.id) = some l)
    (now : Nat) (reply : Http.Reply) : c.Attends (c.resumeLoop now l reply) := by
  unfold resumeLoop
  cases refreshing : l.refresh with
  | none => exact .refl c
  | some r =>
      have beside := beside_resumeRefresh c now r reply
      have busy : (c.resumeRefresh now r reply).1.Busy l.id := by
        rw [Busy, beside.loops]
        exact ⟨l, located, by rw [refreshing]; rfl⟩
      dsimp only
      split
      · rename_i eq
        rw [eq] at beside busy
        exact beside.attends.trans (attends_setRefresh _ busy _)
      · rename_i eq
        rw [eq] at beside busy
        exact beside.attends.trans (attends_setRefresh _ busy _)

theorem rouseLoop_busy {now : Nat} {l : Loop} (busy : l.refresh ≠ none) :
    c.rouseLoop now l = c := by
  cases refreshing : l.refresh with
  | none => exact absurd refreshing busy
  | some r => simp only [rouseLoop, refreshing]

theorem rouseLoop_asleep {now : Nat} {l : Loop} (idle : l.refresh = none)
    (asleep : c.wake? now l = none) : c.rouseLoop now l = c.modifyNotify (·.wait l.id) := by
  rw [rouseLoop, idle, asleep]

theorem rouseLoop_wakes {now : Nat} {l : Loop} {wake : Loop.Wake} (idle : l.refresh = none)
    (wakes : c.wake? now l = some wake) : c.rouseLoop now l = c.takeUp now l wake := by
  rw [rouseLoop, idle, wakes]
  rfl

end Client

theorem Task.attends_resume (c : Client) (now : Nat) (reply : Http.Reply) (task : Task) :
    c.Attends (resume c now reply task).1 := by
  cases task with
  | call progress =>
      cases progress with
      | done outcome => exact .refl c
      | asking request waiting => exact c.attends_resumeCall now waiting reply
  | queued d seed => exact .refl c
  | refresh progress =>
      cases progress with
      | done outcome => exact .refl c
      | asking request r => exact (c.beside_resumeRefresh now r reply).attends
  | dropped => exact .refl c

theorem Task.attends_enter (c : Client) (fetching : Bool) (now : Nat) (d : Descriptor)
    (seed : UInt64) : c.Attends (enter c fetching now d seed).1 := by
  rcases enter_cases c fetching now d seed with ⟨-, entered⟩ | ⟨-, entered⟩
  · rw [entered]
    exact .refl c
  · rw [entered]
    exact c.attends_startCall now d seed

theorem Task.attends_proceed (c : Client) (fetching : Bool) (now : Nat) (task : Task) :
    c.Attends (proceed c fetching now task).1 := by
  cases task with
  | queued d seed => exact attends_enter c fetching now d seed
  | _ => exact .refl c

namespace Workload

/-! ## Moves -/

inductive Move
  | event (event : Event)
  | take (loop : Nat) (wake : Loop.Wake)

abbrev Play := List (Nat × Move)

structure Taken where
  time : Nat
  loop : Nat
  wake : Loop.Wake
deriving DecidableEq

def taken? (w : Workload) (now : Nat) : Move → Option (Loop × Loop.Wake)
  | .event (.wake id) => do
      let l ← w.loop? id
      if l.refresh.isNone then (w.client.wake? now l).map (l, ·) else none
  | .event _ => none
  | .take id wake => do
      let l ← w.loop? id
      if l.refresh.isNone ∧ w.client.Ready now l wake then some (l, wake) else none

def move (w : Workload) (now : Nat) : Move → Workload
  | .event event => w.step now event
  | .take id wake =>
      match w.taken? now (.take id wake) with
      | some (l, wake) => { w with client := w.client.takeUp now l wake }
      | none => w

def play (w : Workload) (moves : Play) : Workload :=
  moves.foldl (fun w m => w.move m.1 m.2) w

def takes (w : Workload) : Play → List Taken
  | [] => []
  | (now, m) :: rest =>
      ((w.taken? now m).map fun (l, wake) => ⟨now, l.id, wake⟩).toList ++
        (w.move now m).takes rest

structure Wakes (w : Workload) (now : Nat) (m : Move) (l : Loop) (wake : Loop.Wake) : Prop where
  taken : w.taken? now m = some (l, wake)
  located : w.loop? l.id = some l
  idle : l.refresh = none
  ready : w.client.Ready now l wake
  client : (w.move now m).client = w.client.takeUp now l wake

theorem id_of_loop? {w : Workload} {id : Nat} {l : Loop} (located : w.loop? id = some l) :
    l.id = id := by
  simpa using List.find?_some located

theorem wakes_take {w : Workload} {now id : Nat} {l : Loop} {wake wake' : Loop.Wake}
    (taken : w.taken? now (.take id wake') = some (l, wake)) :
    w.Wakes now (.take id wake') l wake := by
  have moved : w.move now (.take id wake') = { w with client := w.client.takeUp now l wake } := by
    simp only [move, taken]
  obtain ⟨l', located, chosen⟩ := Option.bind_eq_some_iff.1 taken
  split at chosen
  · rename_i waits
    cases chosen
    exact ⟨taken, by rwa [id_of_loop? located], Option.isNone_iff_eq_none.1 waits.1, waits.2,
      by rw [moved]⟩
  · cases chosen

theorem wakes_wake {w : Workload} {now id : Nat} {l : Loop} {wake : Loop.Wake}
    (taken : w.taken? now (.event (.wake id)) = some (l, wake)) :
    w.Wakes now (.event (.wake id)) l wake := by
  obtain ⟨l', located, chosen⟩ := Option.bind_eq_some_iff.1 taken
  split at chosen
  · rename_i idle
    obtain ⟨wake', wakes, eq⟩ := Option.map_eq_some_iff.1 chosen
    cases eq
    have idle := Option.isNone_iff_eq_none.1 idle
    have roused : (w.move now (.event (.wake id))).client = w.client.rouseLoop now l := by
      simp only [move, step, updateLoop, located]
    exact ⟨taken, by rwa [id_of_loop? located], idle, Client.ready_of_wake? wakes,
      by rw [roused, Client.rouseLoop_wakes idle wakes]⟩
  · cases chosen

structure Parks (w : Workload) (now : Nat) (m : Move) (l : Loop) : Prop where
  located : w.loop? l.id = some l
  idle : l.refresh = none
  unready : ∀ wake, ¬w.client.Ready now l wake
  client : (w.move now m).client = w.client.modifyNotify (·.wait l.id)

structure Passes (w : Workload) (now : Nat) (m : Move) : Prop where
  asleep : w.taken? now m = none
  cache : ∃ ops, (w.move now m).client.cache = w.client.cache.after now ops
  watch : (m = .event (.perform .close) ∧ (w.move now m).client = w.client.close) ∨
    (∃ l, w.Parks now m l) ∨ w.client.Attends (w.move now m).client

theorem passes_of_eq {w : Workload} {now : Nat} {m : Move} (asleep : w.taken? now m = none)
    (same : w.move now m = w) : w.Passes now m :=
  ⟨asleep, ⟨[], by rw [same]; rfl⟩, .inr (.inr (by rw [same]; exact .refl _))⟩

theorem move_take_asleep {w : Workload} {now id : Nat} {wake : Loop.Wake}
    (asleep : w.taken? now (.take id wake) = none) : w.move now (.take id wake) = w := by
  simp only [move, asleep]

theorem move_wake_asleep {w : Workload} {now id : Nat}
    (asleep : w.taken? now (.event (.wake id)) = none) :
    w.move now (.event (.wake id)) = w ∨ ∃ l, w.Parks now (.event (.wake id)) l ∧
      w.move now (.event (.wake id)) =
        { w with client := w.client.modifyNotify (·.wait l.id) } := by
  cases located : w.loop? id with
  | none => exact .inl (by simp only [move, step, updateLoop, located])
  | some l =>
      have moved :
          w.move now (.event (.wake id)) = { w with client := w.client.rouseLoop now l } := by
        simp only [move, step, updateLoop, located]
      by_cases idle : l.refresh = none
      · have unready : w.client.wake? now l = none := by
          simpa [taken?, located, idle] using asleep
        rw [Client.rouseLoop_asleep idle unready] at moved
        refine .inr ⟨l, ⟨?_, idle, Client.unready_of_wake? unready, by rw [moved]⟩, moved⟩
        rwa [id_of_loop? located]
      · rw [Client.rouseLoop_busy idle] at moved
        exact .inl moved

theorem passes_wake {w : Workload} {now id : Nat}
    (asleep : w.taken? now (.event (.wake id)) = none) : w.Passes now (.event (.wake id)) := by
  rcases move_wake_asleep asleep with same | ⟨l, parks, moved⟩
  · exact passes_of_eq asleep same
  · exact ⟨asleep, ⟨[], by rw [moved]; rfl⟩, .inr (.inl ⟨l, parks⟩)⟩

theorem attends_updateTask {w : Workload} {i : Nat} {f : Task → Client × Task}
    (attends : ∀ task, w.client.Attends (f task).1) :
    w.client.Attends (w.updateTask i f).client := by
  unfold updateTask
  cases w.tasks[i]? with
  | none => exact .refl _
  | some task => exact attends task

theorem attends_call (w : Workload) (now : Nat) (d : Descriptor) (seed : Option UInt64) :
    w.client.Attends (w.step now (.call d seed)).client := by
  have drawn : w.client.Attends (w.client.seedFor seed).1 := by
    cases seed <;> exact ⟨Client.notified_of_eq rfl rfl, .inl ⟨rfl, rfl⟩, fun _ busy => busy⟩
  exact drawn.trans (Task.attends_enter _ w.isFetching now d _)

theorem move_cases (w : Workload) (now : Nat) (m : Move) :
    (∃ l wake, w.Wakes now m l wake) ∨ w.Passes now m := by
  cases m with
  | take id wake =>
      cases taken : w.taken? now (.take id wake) with
      | some choice => exact .inl ⟨_, _, wakes_take taken⟩
      | none => exact .inr (passes_of_eq taken (move_take_asleep taken))
  | event event =>
      have cache := cache_step w now event
      cases event with
      | wake id =>
          cases taken : w.taken? now (.event (.wake id)) with
          | some choice => exact .inl ⟨_, _, wakes_wake taken⟩
          | none => exact .inr (passes_wake taken)
      | perform op =>
          refine .inr ⟨rfl, ⟨_, cache⟩, ?_⟩
          cases op with
          | close => exact .inl ⟨rfl, rfl⟩
          | start interval evicts =>
              exact .inr (.inr (w.client.attends_startLoop now interval evicts))
          | requestRefresh => exact .inr (.inr (Client.aside_requestRefresh w.client).attends)
          | _ =>
              exact .inr (.inr ⟨Client.notified_of_eq rfl rfl, .inl ⟨rfl, rfl⟩, fun _ busy => busy⟩)
      | call d seed => exact .inr ⟨rfl, ⟨_, cache⟩, .inr (.inr (w.attends_call now d seed))⟩
      | proceed i =>
          have proceeded := Task.attends_proceed w.client w.isFetching now
          exact .inr ⟨rfl, ⟨_, cache⟩, .inr (.inr (attends_updateTask proceeded))⟩
      | refresh =>
          exact .inr ⟨rfl, ⟨_, cache⟩, .inr (.inr (w.client.beside_startRefresh).attends)⟩
      | reply i reply =>
          have resumed := Task.attends_resume w.client now reply
          exact .inr ⟨rfl, ⟨_, cache⟩, .inr (.inr (attends_updateTask resumed))⟩
      | drop i =>
          have dropped (task : Task) := (Task.drop_plain w.client task).1.attends
          exact .inr ⟨rfl, ⟨_, cache⟩, .inr (.inr (attends_updateTask dropped))⟩
      | loopReply id reply =>
          refine .inr ⟨rfl, ⟨_, cache⟩, .inr (.inr ?_)⟩
          simp only [move, step, updateLoop]
          cases located : w.loop? id with
          | none => exact .refl _
          | some l =>
              have same := id_of_loop? located
              exact Client.attends_resumeLoop (same ▸ located) now reply

theorem play_events (w : Workload) (events : Run) :
    w.play (events.map fun event => (event.1, .event event.2)) = w.run events := by
  rw [play, run, List.foldl_map]
  rfl

end Workload

/-! ## One loop -/

namespace Client

def Sole (c : Client) : Prop := ∀ l ∈ c.schedule, c.watch.active = some l.id

variable {c c' : Client}

theorem sole_of_unwatched (unwatched : c.watch = {}) : c.Sole := by
  rw [Sole, schedule, unwatched]
  exact fun _ member => nomatch member

theorem Unmoved.sole (unmoved : c.Unmoved c') (sole : c.Sole) : c'.Sole := by
  rw [Sole, unmoved.schedule, unmoved.active]
  exact sole

theorem Sole.schedule_eq_nil (sole : c.Sole) (idle : c.watch.active = none) :
    c.schedule = [] := by
  refine List.eq_nil_iff_forall_not_mem.2 fun l member => ?_
  have active := sole l member
  rw [idle] at active
  cases active

theorem Attends.sole (attends : c.Attends c') (sole : c.Sole) : c'.Sole := by
  rcases attends.loops with ⟨active, schedule⟩ | ⟨idle, l, active, schedule⟩
  · rw [Sole, active, schedule]
    exact sole
  · rw [sole.schedule_eq_nil idle] at schedule
    intro l' member
    rcases schedule with same | one
    · rw [same] at member
      cases member
    · rw [one] at member
      rw [List.mem_singleton.1 member, active]

theorem watch_ticked (c : Client) (now : Nat) (l : Loop) :
    (c.ticked now l).watch = ((c.modifyNotify (·.leave l.id)).setLoop
      { l with nextTick := l.followingTick now }).watch := by
  unfold ticked
  dsimp only
  split <;> rfl

theorem schedule_ticked (c : Client) (now : Nat) (l : Loop) :
    (c.ticked now l).schedule = c.schedule.map fun other =>
      if other.id = l.id then { l with nextTick := l.followingTick now, refresh := none }
      else other := by
  simp only [schedule, watch_ticked, setLoop, modifyNotify, modifyWatch, List.map_map]
  refine List.map_congr_left fun other _ => ?_
  simp only [Function.comp_apply]
  split <;> rfl

theorem Sole.takeUp (sole : c.Sole) (now : Nat) (l : Loop) (wake : Loop.Wake) :
    (c.takeUp now l wake).Sole := by
  cases wake with
  | stop =>
      intro l' member
      exact sole l' (List.map_subset _ List.filter_sublist.subset member)
  | tick =>
      refine (takeUp_tick c now l).sole fun l' member => ?_
      rw [schedule_ticked] at member
      obtain ⟨other, there, rfl⟩ := List.mem_map.1 member
      rw [watch_ticked]
      refine (sole other there).trans ?_
      split
      · rename_i same
        rw [same]
      · rfl
  | signal => exact (takeUp_signal c now l).sole sole

end Client

namespace Workload

def Unstopped (w : Workload) : Play → Prop
  | [] => True
  | (now, m) :: rest => (m = .event (.perform .close) → w.client.isRunning = false) ∧
      (w.move now m).Unstopped rest

variable {w : Workload} {now : Nat} {m : Move} {moves : Play}

theorem ne_close {id : Nat} (active : w.client.watch.active = some id)
    (unstopped : m = .event (.perform .close) → w.client.isRunning = false) :
    m ≠ .event (.perform .close) := by
  intro close
  have idle := unstopped close
  rw [Client.isRunning, active] at idle
  cases idle

theorem Passes.keeps (passes : w.Passes now m) {id : Nat}
    (active : w.client.watch.active = some id)
    (unstopped : m = .event (.perform .close) → w.client.isRunning = false) :
    (w.move now m).client.watch.active = some id ∧
      (w.move now m).client.schedule = w.client.schedule := by
  -- With a loop in force nothing but its wake-ups changes the loops.
  rcases passes.watch with ⟨close, -⟩ | ⟨l, parks⟩ | attends
  · exact absurd close (ne_close active unstopped)
  · rw [parks.client]
    exact ⟨active, rfl⟩
  · rcases attends.loops with ⟨same, schedule⟩ | ⟨idle, -⟩
    · exact ⟨same.trans active, schedule⟩
    · rw [active] at idle
      cases idle

theorem active_of_loop? (sole : w.client.Sole) {id : Nat} {l : Loop}
    (located : w.loop? id = some l) : w.client.watch.active = some id := by
  have active := sole _ (List.mem_map_of_mem (List.mem_of_find?_eq_some located))
  rwa [id_of_loop? located] at active

theorem Wakes.ne_stop {l : Loop} {wake : Loop.Wake} (wakes : w.Wakes now m l wake)
    (sole : w.client.Sole) : wake ≠ .stop := by
  rintro rfl
  exact wakes.ready (active_of_loop? sole wakes.located)

def Waits (w : Workload) (id time : Nat) : Prop :=
  ∃ l, w.loop? id = some l ∧ l.refresh = none ∧ ∀ wake, ¬w.client.Ready time l wake

theorem waits_of_lt {id time : Nat} {l : Loop} (located : w.loop? id = some l)
    (idle : l.refresh = none) (active : w.client.watch.active = some id)
    (unready : w.client.watch.notify.isReady id = false) (early : time < l.nextTick) :
    w.Waits id time := by
  refine ⟨l, located, idle, fun wake => ?_⟩
  cases wake with
  | stop => exact fun ended => ended (by rw [active, id_of_loop? located])
  | tick => exact Nat.not_le_of_lt early
  | signal =>
      rw [← id_of_loop? located] at unready
      exact Bool.eq_false_iff.1 unready

end Workload

end ClusterClient
