import ClusterClient.Proofs.Launch
import ClusterClient.Proofs.Tasks

namespace ClusterClient

/-! ## Steps that start no loop -/

namespace Client

structure Rests (c c' : Client) : Prop where
  settings : c'.settings = c.settings
  booted : c'.isBootstrapped = c.isBootstrapped
  started : c'.watch.started = c.watch.started
  active : c'.watch.active = c.watch.active ∨ c'.watch.active = none
  loops : c'.watch.loops.map (·.id) ⊆ c.watch.loops.map (·.id)

variable {c c' c'' : Client}

theorem Beside.rests (beside : c.Beside c') : c.Rests c' where
  settings := beside.settings
  booted := beside.booted
  started := beside.started
  active := .inl beside.active
  loops := by rw [beside.loops]; exact fun _ member => member

theorem Rests.refl (c : Client) : c.Rests c := (Beside.refl c).rests

theorem rests_close (c : Client) : c.Rests c.close :=
  ⟨rfl, rfl, rfl, .inr rfl, fun _ member => member⟩

theorem Rests.trans (first : c.Rests c') (second : c'.Rests c'') : c.Rests c'' where
  settings := second.settings.trans first.settings
  booted := second.booted.trans first.booted
  started := second.started.trans first.started
  active := by
    rcases second.active with same | none
    · rw [same]
      exact first.active
    · exact .inr none
  loops := List.Subset.trans second.loops first.loops

theorem rests_map (c : Client) {f : Loop → Loop} (same : ∀ l, (f l).id = l.id) :
    c.Rests (c.modifyWatch fun w => { w with loops := w.loops.map f }) := by
  refine ⟨rfl, rfl, rfl, .inl rfl, fun id member => ?_⟩
  simpa [modifyWatch, same] using member

theorem rests_setRefresh (c : Client) (id : Nat) (r : Option Refresh) :
    c.Rests (c.setRefresh id r) :=
  rests_map c fun l => by split <;> rfl

theorem rests_setLoop (c : Client) (l : Loop) : c.Rests (c.setLoop l) :=
  rests_map c fun other => by
    split
    · rename_i same
      exact same.symm
    · rfl

theorem rests_modifyNotify (c : Client) (f : Notify → Notify) : c.Rests (c.modifyNotify f) :=
  ⟨rfl, rfl, rfl, .inl rfl, fun _ member => member⟩

theorem rests_removeLoop (c : Client) (id : Nat) : c.Rests (c.removeLoop id) :=
  ⟨rfl, rfl, rfl, .inl rfl, List.map_subset _ List.filter_sublist.subset⟩

theorem rests_wakeLoop (c : Client) (now : Nat) (l : Loop) (wake : Loop.Wake) :
    c.Rests (c.wakeLoop now l wake).1 := by
  cases wake with
  | stop => exact (rests_modifyNotify c _).trans (rests_removeLoop _ l.id)
  | signal => exact (rests_modifyNotify c _).trans (beside_startRefresh _).rests
  | tick =>
      have moved := (rests_modifyNotify c (·.leave l.id)).trans
        (rests_setLoop _ { l with nextTick := l.followingTick now })
      simp only [wakeLoop]
      split
      · have swept (c : Client) (cache : Cache) : c.Rests { c with cache } :=
          ⟨rfl, rfl, rfl, .inl rfl, fun _ member => member⟩
        exact moved.trans ((swept _ _).trans (beside_startRefresh _).rests)
      · exact moved.trans (beside_startRefresh _).rests

theorem rests_rouseLoop (c : Client) (now : Nat) (l : Loop) : c.Rests (c.rouseLoop now l) := by
  unfold rouseLoop
  split
  · rename_i wake _ _
    have woken := rests_wakeLoop c now l wake
    split
    · rename_i eq
      rw [eq] at woken
      exact woken.trans (rests_setRefresh _ _ _)
    · rename_i eq
      rw [eq] at woken
      exact woken
  · exact rests_modifyNotify c _
  · exact .refl c

theorem rests_resumeLoop (c : Client) (now : Nat) (l : Loop) (reply : Http.Reply) :
    c.Rests (c.resumeLoop now l reply) := by
  unfold resumeLoop
  cases l.refresh with
  | none => exact .refl c
  | some r =>
      have fetched := (beside_resumeRefresh c now r reply).rests
      dsimp only
      split
      · rename_i eq
        rw [eq] at fetched
        exact fetched.trans (rests_setRefresh _ _ _)
      · rename_i eq
        rw [eq] at fetched
        exact fetched.trans (rests_setRefresh _ _ _)

theorem Rests.active_none (rests : c.Rests c') (idle : c.watch.active = none) :
    c'.watch.active = none := by
  rcases rests.active with same | none
  · exact same.trans idle
  · exact none

structure Launches (c c' : Client) : Prop where
  settings : c'.settings = c.settings
  booted : c'.isBootstrapped = true
  active : c.watch.active = none → c'.watch.active = some c.watch.started
  started : c.watch.active = none → c'.watch.started = c.watch.started + 1

theorem launches_boot {now : Nat} (before : c.Beside c') (after : (c'.boot now).Beside c'') :
    c.Launches c'' := by
  have launched (idle : c.watch.active = none) :
      (c'.boot now).watch.active = some c.watch.started ∧
        (c'.boot now).watch.started = c.watch.started + 1 := by
    simp [boot, startLoop, modifyWatch, before.active, before.started, idle]
  refine ⟨after.settings.trans before.settings, after.booted, fun idle => ?_, fun idle => ?_⟩
  · rw [after.active, (launched idle).1]
  · rw [after.started, (launched idle).2]

end Client

/-! ## Tasks that fetch -/

namespace Task

def fetch? : Task → Option Refresh
  | .call progress => progress.fetch?
  | _ => none

theorem isBootstrapping_eq (task : Task) : task.isBootstrapping = task.fetch?.isSome := by
  cases task with
  | call progress =>
      cases progress with
      | done outcome => rfl
      | asking request waiting => cases waiting <;> rfl
  | queued d seed => rfl
  | refresh progress => rfl
  | dropped => rfl

theorem fetch?_eq_some_iff {task : Task} {r : Refresh} :
    task.fetch? = some r ↔
      ∃ request d seed, task = .call (.asking request (.bootstrapping d seed r)) := by
  constructor
  · intro fetching
    cases task with
    | call progress =>
        cases progress with
        | done outcome => cases fetching
        | asking request waiting =>
            cases waiting with
            | bootstrapping d seed r' =>
                cases fetching
                exact ⟨request, d, seed, rfl⟩
            | attempting a => cases fetching
    | queued d seed => cases fetching
    | refresh progress => cases fetching
    | dropped => cases fetching
  · rintro ⟨request, d, seed, rfl⟩
    rfl

theorem resume_plain (c : Client) (now : Nat) (reply : Http.Reply) {task : Task}
    (plain : task.fetch? = none) :
    c.Beside (resume c now reply task).1 ∧ (resume c now reply task).2.fetch? = none := by
  cases task with
  | call progress =>
      cases progress with
      | done outcome => exact ⟨.refl c, rfl⟩
      | asking request waiting =>
          cases waiting with
          | bootstrapping d seed r => cases plain
          | attempting a =>
              exact ⟨(c.aside_resumeCall now a reply).toBeside, c.fetch?_resumeCall now a reply⟩
  | queued d seed => exact ⟨.refl c, rfl⟩
  | refresh progress =>
      cases progress with
      | done outcome => exact ⟨.refl c, rfl⟩
      | asking request r => exact ⟨c.beside_resumeRefresh now r reply, rfl⟩
  | dropped => exact ⟨.refl c, rfl⟩

theorem drop_plain (c : Client) (task : Task) :
    c.Beside (drop c task).1 ∧ (drop c task).2.fetch? = none := by
  cases task with
  | call progress =>
      cases progress with
      | done outcome => exact ⟨.refl c, rfl⟩
      | asking request waiting =>
          cases waiting with
          | bootstrapping d seed r => exact ⟨.silent rfl rfl rfl rfl rfl rfl rfl, rfl⟩
          | attempting a => exact ⟨.refl c, rfl⟩
  | queued d seed => exact ⟨.refl c, rfl⟩
  | refresh progress =>
      cases progress with
      | done outcome => exact ⟨.refl c, rfl⟩
      | asking request r => exact ⟨.silent rfl rfl rfl rfl rfl rfl rfl, rfl⟩
  | dropped => exact ⟨.refl c, rfl⟩

theorem enter_plain {c : Client} {fetching : Bool} {d : Descriptor}
    (later : fetching = true ∨ ¬c.Opens d) (now : Nat) (seed : UInt64) :
    c.Beside (enter c fetching now d seed).1 ∧ (enter c fetching now d seed).2.fetch? = none := by
  rcases enter_cases c fetching now d seed with ⟨-, entered⟩ | ⟨other, entered⟩
  · rw [entered]
    exact ⟨.refl c, rfl⟩
  · have used : ¬c.Opens d := later.elim (fun fetches opens => other ⟨fetches, opens⟩) id
    rw [entered]
    by_cases rejected : c.Rejects d
    · rw [Client.startCall_rejected rejected]
      exact ⟨.refl c, rfl⟩
    · rw [Client.startCall_routes rejected used]
      exact ⟨(c.aside_route now d seed false).toBeside, c.fetch?_route now d seed false⟩

end Task

namespace Workload

def fetch? (w : Workload) (i : Nat) : Option Refresh := w.tasks[i]?.bind Task.fetch?

structure Puts (w w' : Workload) (i : Nat) (entry : Client × Task) : Prop where
  client : w'.client = entry.1
  task : w'.tasks[i]? = some entry.2
  others : ∀ j, j ≠ i → w'.tasks[j]? = w.tasks[j]?

theorem puts_append (w : Workload) (entry : Client × Task) :
    w.Puts ⟨entry.1, w.tasks ++ [entry.2]⟩ w.tasks.length entry where
  client := rfl
  task := List.getElem?_concat_length
  others j other := by
    rcases Nat.lt_or_gt_of_ne other with inside | beyond
    · exact List.getElem?_append_left inside
    · rw [List.getElem?_append_right (Nat.le_of_lt beyond),
        List.getElem?_eq_none (Nat.le_of_lt beyond), List.getElem?_eq_none (by simp; omega)]

theorem puts_set {w : Workload} {i : Nat} (inside : i < w.tasks.length) (entry : Client × Task) :
    w.Puts ⟨entry.1, w.tasks.set i entry.2⟩ i entry where
  client := rfl
  task := List.getElem?_set_self inside
  others _ other := List.getElem?_set_ne (Ne.symm other)

theorem Puts.fetch? {w w' : Workload} {i : Nat} {entry : Client × Task}
    (puts : w.Puts w' i entry) (j : Nat) :
    w'.fetch? j = if j = i then entry.2.fetch? else w.fetch? j := by
  unfold Workload.fetch?
  split
  · rename_i same
    rw [same, puts.task]
    rfl
  · rename_i other
    rw [puts.others j other]

theorem fetch?_updateTask (w : Workload) (j : Nat) (f : Task → Client × Task) (i : Nat) :
    (w.updateTask j f).fetch? i =
      if i = j then w.tasks[j]?.bind fun task => (f task).2.fetch? else w.fetch? i := by
  cases located : w.tasks[j]? with
  | none =>
      have same : w.updateTask j f = w := by simp only [updateTask, located]
      rw [same]
      split
      · rename_i eq
        rw [eq, fetch?, located]
        rfl
      · rfl
  | some task =>
      simp only [updateTask, located]
      obtain ⟨inside, -⟩ := List.getElem?_eq_some_iff.1 located
      exact (puts_set inside (f task)).fetch? i

theorem isFetching_iff {w : Workload} :
    w.isFetching = true ↔ ∃ i r, w.fetch? i = some r := by
  simp only [isFetching, List.any_eq_true, Task.isBootstrapping_eq, Option.isSome_iff_exists]
  constructor
  · rintro ⟨task, member, r, fetching⟩
    obtain ⟨i, located⟩ := List.mem_iff_getElem?.1 member
    exact ⟨i, r, by rw [fetch?, located]; exact fetching⟩
  · rintro ⟨i, r, fetching⟩
    obtain ⟨task, located, fetching⟩ := Option.bind_eq_some_iff.1 fetching
    exact ⟨task, List.mem_of_getElem? located, r, fetching⟩

theorem isFetching_eq_false {w : Workload} (free : ∀ i, w.fetch? i = none) :
    w.isFetching = false := by
  rw [Bool.eq_false_iff, Ne, isFetching_iff]
  rintro ⟨i, r, fetching⟩
  rw [free] at fetching
  cases fetching

/-! ## Calls that begin -/

/-- Whether an event lets task `i` begin: it is that of a call that comes, or it has been queued. -/
inductive Starts (w : Workload) : Event → Nat → Descriptor → Prop
  | call (d : Descriptor) (seed : Option UInt64) : Starts w (.call d seed) w.tasks.length d
  | proceed {i : Nat} {d : Descriptor} {seed : UInt64}
      (queued : w.tasks[i]? = some (.queued d seed)) : Starts w (.proceed i) i d

section
variable {w : Workload} (now : Nat) {event : Event} {i : Nat} {d : Descriptor}

theorem Starts.puts (starts : w.Starts event i d) : ∃ rotation seed,
    w.Puts (w.step now event) i
      (Task.enter { w.client with rotation } w.isFetching now d seed) := by
  cases starts with
  | call d seed =>
      obtain ⟨rotation, seed', step⟩ := step_call w now d seed
      exact ⟨rotation, seed', step ▸ puts_append w _⟩
  | @proceed _ _ seed queued =>
      obtain ⟨inside, -⟩ := List.getElem?_eq_some_iff.1 queued
      refine ⟨w.client.rotation, seed, ?_⟩
      simp only [step, updateTask, queued]
      exact puts_set inside _

theorem Starts.free (starts : w.Starts event i d) : w.fetch? i = none := by
  cases starts with
  | call d seed => simp [fetch?]
  | proceed queued => simp [fetch?, queued, Task.fetch?]

theorem step_proceed_same
    (same : ∀ task, w.tasks[i]? = some task →
      Task.proceed w.client w.isFetching now task = (w.client, task)) :
    w.step now (.proceed i) = w := by
  simp only [step, updateTask]
  cases located : w.tasks[i]? with
  | none => rfl
  | some task =>
      have same := same task located
      obtain ⟨inside, rfl⟩ := List.getElem?_eq_some_iff.1 located
      simp only [same, List.set_getElem_self]

theorem step_proceed_idle (idle : ∀ d seed, w.tasks[i]? ≠ some (.queued d seed)) :
    w.step now (.proceed i) = w := by
  refine step_proceed_same now fun task located => ?_
  cases task with
  | queued d seed => exact absurd located (idle d seed)
  | _ => rfl

theorem step_proceed_queued {seed : UInt64} (queued : w.tasks[i]? = some (.queued d seed))
    (fetching : w.isFetching = true) (opens : w.client.Opens d) :
    w.step now (.proceed i) = w := by
  refine step_proceed_same now fun task located => ?_
  obtain rfl := Option.some.inj (queued.symm.trans located)
  rw [Task.proceed, Task.enter, if_pos ⟨fetching, opens⟩]

theorem beside_rotation (c : Client) (rotation : UInt64) : c.Beside { c with rotation } :=
  .silent rfl rfl rfl rfl rfl rfl rfl

theorem Starts.plain (starts : w.Starts event i d)
    (later : w.isFetching = true ∨ ¬w.client.Opens d) :
    w.client.Beside (w.step now event).client ∧
      ∀ j, (w.step now event).fetch? j = w.fetch? j := by
  obtain ⟨rotation, seed, puts⟩ := starts.puts now
  have later : w.isFetching = true ∨ ¬{ w.client with rotation }.Opens d :=
    later.imp_right fun other opens => other (opens_rotation.1 opens)
  obtain ⟨beside, free⟩ := Task.enter_plain later now seed
  refine ⟨?_, fun j => ?_⟩
  · rw [puts.client]
    exact (beside_rotation _ rotation).trans beside
  · rw [puts.fetch?]
    split
    · rename_i same
      rw [free, same, starts.free]
    · rfl

theorem Starts.begun (starts : w.Starts event i d)
    (ahead : ¬(w.isFetching = true ∧ w.client.Opens d)) :
    ∃ rotation seed, w.Puts (w.step now event) i
      (let started := { w.client with rotation }.startCall now d seed
      (started.1, .call started.2)) := by
  obtain ⟨rotation, seed, puts⟩ := starts.puts now
  refine ⟨rotation, seed, ?_⟩
  rcases Task.enter_cases { w.client with rotation } w.isFetching now d seed with
    ⟨⟨fetches, opens⟩, -⟩ | ⟨-, entered⟩
  · exact absurd ⟨fetches, opens_rotation.1 opens⟩ ahead
  · rwa [entered] at puts

end

/-! ## Phases -/

inductive Phase
  | unused
  | fetching (i : Nat) (r : Refresh)
  | used

def IsIn (w : Workload) : Phase → Prop
  | .unused => w.client.isBootstrapped = false ∧ ∀ i, w.fetch? i = none
  | .fetching i r =>
      w.client.isBootstrapped = false ∧ ∀ j, w.fetch? j = if j = i then some r else none
  | .used => w.client.isBootstrapped = true ∧ ∀ i, w.fetch? i = none

def SetsOut (w : Workload) (i : Nat) : Prop :=
  w.fetch? i = none ∧ (w.client.topology.size ≠ 0 → ∃ request a,
    w.attempt? i = some (request, a) ∧ a.attempts.topology = w.client.topology)

theorem setsOut_route {w : Workload} {i : Nat} {c : Client} {now : Nat} {d : Descriptor}
    {seed : UInt64} {claimed : Bool} (client : w.client = (c.route now d seed claimed).1)
    (located : w.tasks[i]? = some (.call (c.route now d seed claimed).2)) : w.SetsOut i := by
  have topology : w.client.topology = c.topology := by
    rw [client]
    exact congrArg Prod.snd (Client.frame_route c now d seed claimed)
  constructor
  · rw [fetch?, located]
    exact Client.fetch?_route c now d seed claimed
  · intro held
    rw [topology] at held ⊢
    obtain ⟨request, a, sent, kept⟩ := Client.route_sends held now d seed claimed
    rw [sent] at located
    exact ⟨request, a, attempt?_eq_some_iff.2 located, kept⟩

theorem rests_updateTask {w : Workload} {j : Nat} {f : Task → Client × Task}
    (rests : ∀ task, w.tasks[j]? = some task → w.client.Rests (f task).1) :
    w.client.Rests (w.updateTask j f).client := by
  unfold updateTask
  cases located : w.tasks[j]? with
  | none => exact .refl _
  | some task => exact rests task located

theorem fetch?_task {w : Workload} {i : Nat} {task : Task} (located : w.tasks[i]? = some task) :
    w.fetch? i = task.fetch? := by
  rw [fetch?, located]
  rfl

theorem plain_updateTask {w : Workload} {j : Nat} {f : Task → Client × Task}
    (plain : ∀ task, w.tasks[j]? = some task →
      w.client.Beside (f task).1 ∧ (f task).2.fetch? = task.fetch?) :
    w.client.Rests (w.updateTask j f).client ∧ ∀ i, (w.updateTask j f).fetch? i = w.fetch? i := by
  constructor
  · exact rests_updateTask fun task located => (plain task located).1.rests
  · intro i
    rw [fetch?_updateTask]
    split
    · rename_i same
      subst same
      cases located : w.tasks[i]? with
      | none => rw [fetch?, located, Option.bind_none]; rfl
      | some task => exact (plain task located).2.trans (fetch?_task located).symm
    · rfl

section
variable {w : Workload} (now : Nat) {event : Event}

theorem step_plain (ownLoop : ∀ interval evicts, event ≠ .perform (.start interval evicts))
    (noFirst : ∀ i d, w.Starts event i d → w.isFetching = true ∨ ¬w.client.Opens d)
    (plain : ∀ i, (event = .drop i ∨ ∃ reply, event = .reply i reply) → w.fetch? i = none) :
    w.client.Rests (w.step now event).client ∧
      ∀ i, (w.step now event).fetch? i = w.fetch? i := by
  cases event with
  | perform op =>
      refine ⟨?_, fun i => rfl⟩
      cases op with
      | start interval evicts => exact absurd rfl (ownLoop interval evicts)
      | close => exact Client.rests_close w.client
      | requestRefresh => exact (Client.aside_requestRefresh w.client).rests
      | _ => exact ⟨rfl, rfl, rfl, .inl rfl, fun _ member => member⟩
  | call d seed =>
      have starts : w.Starts (.call d seed) w.tasks.length d := .call d seed
      obtain ⟨beside, same⟩ := starts.plain now (noFirst _ d starts)
      exact ⟨beside.rests, same⟩
  | proceed i =>
      by_cases queued : ∃ d seed, w.tasks[i]? = some (.queued d seed)
      · obtain ⟨d, seed, queued⟩ := queued
        have starts : w.Starts (.proceed i) i d := .proceed queued
        obtain ⟨beside, same⟩ := starts.plain now (noFirst i d starts)
        exact ⟨beside.rests, same⟩
      · rw [step_proceed_idle now fun d seed located => queued ⟨d, seed, located⟩]
        exact ⟨.refl _, fun _ => rfl⟩
  | refresh =>
      refine ⟨(Client.beside_startRefresh w.client).rests, fun i => ?_⟩
      let entry : Client × Task := (w.client.startRefresh.1, .refresh w.client.startRefresh.2)
      have puts : w.Puts (w.step now .refresh) w.tasks.length entry := puts_append w entry
      rw [puts.fetch?]
      split
      · rename_i last
        simp [fetch?, last, Task.fetch?]
      · rfl
  | reply i reply =>
      have quiet := plain i (.inr ⟨reply, rfl⟩)
      refine plain_updateTask fun task located => ?_
      rw [fetch?_task located] at quiet
      rw [quiet]
      exact Task.resume_plain _ now reply quiet
  | drop i =>
      have quiet := plain i (.inl rfl)
      refine plain_updateTask fun task located => ?_
      rw [fetch?_task located] at quiet
      rw [quiet]
      exact Task.drop_plain w.client task
  | wake id =>
      simp only [step, updateLoop]
      split
      · exact ⟨Client.rests_rouseLoop w.client now _, fun i => rfl⟩
      · exact ⟨.refl _, fun i => rfl⟩
  | loopReply id reply =>
      simp only [step, updateLoop]
      split
      · exact ⟨Client.rests_resumeLoop w.client now _ reply, fun i => rfl⟩
      · exact ⟨.refl _, fun i => rfl⟩

theorem Starts.setsOut {i : Nat} {d : Descriptor} (starts : w.Starts event i d)
    (accepted : ¬w.client.Rejects d) (other : ¬w.client.Opens d) :
    (w.step now event).SetsOut i := by
  obtain ⟨rotation, seed, puts⟩ := starts.begun now fun opens => other opens.2
  have routed := Client.startCall_routes (c := { w.client with rotation }) accepted
    (fun opens => other (opens_rotation.1 opens)) now seed
  rw [routed] at puts
  exact setsOut_route puts.client puts.task

theorem step_call_rejected {d : Descriptor} (rejected : w.client.Rejects d)
    (seed : Option UInt64) :
    ∃ rotation, w.step now (.call d seed) =
      ⟨{ w.client with rotation }, w.tasks ++
        [.call (.done (.error (.config (.noDatabase d.route))))]⟩ := by
  obtain ⟨rotation, seed', step⟩ := step_call w now d seed
  have ahead : ¬(w.isFetching = true ∧ { w.client with rotation }.Opens d) :=
    fun waits => waits.2.inScope rejected
  have refused := Client.startCall_rejected (c := { w.client with rotation }) rejected now seed'
  simp only [Task.enter, if_neg ahead, refused] at step
  exact ⟨rotation, step⟩

theorem step_call_queued {d : Descriptor} (fetching : w.isFetching = true)
    (opens : w.client.Opens d) (seed : Option UInt64) :
    ∃ rotation seed', w.step now (.call d seed) =
      ⟨{ w.client with rotation }, w.tasks ++ [.queued d seed']⟩ := by
  obtain ⟨rotation, seed', step⟩ := step_call w now d seed
  have waits : w.isFetching = true ∧ { w.client with rotation }.Opens d :=
    ⟨fetching, opens_rotation.2 opens⟩
  simp only [Task.enter, if_pos waits] at step
  exact ⟨rotation, seed', step⟩

theorem queued_step {i : Nat} {d : Descriptor} {seed : UInt64}
    (queued : (w.step now event).tasks[i]? = some (.queued d seed)) :
    w.tasks[i]? = some (.queued d seed) ∨ w.isFetching = true ∧ w.client.Opens d := by
  rcases task_step queued with same | ⟨_, _, _, -, -, begun⟩ | ⟨_, _, _, -, -, taken⟩ | ⟨-, new⟩
  · exact .inl same
  · cases begun
  · cases taken
  · exact .inr (new d seed rfl).2

theorem step_starts_opens (unused : w.IsIn .unused) {i : Nat} {d : Descriptor}
    (starts : w.Starts event i d) (opens : w.client.Opens d) :
    (w.client.topology.isSeed = true ∧ w.client.Rests (w.step now event).client ∧
      ∃ r, (w.step now event).IsIn (.fetching i r) ∧ w.client.Begins r) ∨
    (w.client.topology.isSeed = true → w.client.refreshTargets w.client.topology = []) ∧
      w.client.Launches (w.step now event).client ∧ (w.step now event).IsIn .used ∧
      (w.step now event).SetsOut i := by
  obtain ⟨new, free⟩ := unused
  obtain ⟨rotation, seed, puts⟩ := starts.begun now fun waits => by
    rw [isFetching_eq_false free] at waits
    cases waits.1
  have drawn := beside_rotation w.client rotation
  have others (j : Nat) : (w.step now event).fetch? j =
      if j = i then ({ w.client with rotation }.startCall now d seed).2.fetch? else none := by
    rw [puts.fetch?, free]
    rfl
  have client := puts.client
  have task := puts.task
  rcases Client.startCall_opens (opens_rotation.2 opens) now seed with
    ⟨seeded, c', request, r, next, beside, begins⟩ | ⟨placeless, c', next, beside⟩
  · rw [next] at others client
    refine .inl ⟨seeded, ?_, r, ⟨?_, others⟩, begins.snapshot, begins.failures, begins.places⟩
    · rw [client]
      exact (drawn.trans beside).rests
    · rw [client]
      exact beside.booted.trans new
  · have routed := (Client.aside_route (c'.boot now) now d seed w.client.topology.isSeed).toBeside
    rw [next] at others client task
    have setsOut : (w.step now event).SetsOut i := setsOut_route client task
    refine .inr ⟨placeless, ?_, ⟨?_, fun j => ?_⟩, setsOut⟩
    · rw [client]
      exact Client.launches_boot (drawn.trans beside) routed
    · rw [client]
      exact routed.booted
    · rw [others]
      split
      · exact Client.fetch?_route _ now d seed _
      · rfl

theorem step_unused (unused : w.IsIn .unused)
    (ownLoop : ∀ interval evicts, event ≠ .perform (.start interval evicts))
    (noFirst : ∀ i d, w.Starts event i d → ¬w.client.Opens d) :
    w.client.Rests (w.step now event).client ∧ (w.step now event).IsIn .unused := by
  obtain ⟨new, free⟩ := unused
  obtain ⟨rests, same⟩ := step_plain now ownLoop (fun i d starts => .inr (noFirst i d starts))
    fun i _ => free i
  exact ⟨rests, rests.booted.trans new, fun i => (same i).trans (free i)⟩

theorem step_reply_fetching {i : Nat} {r : Refresh} (fetching : w.IsIn (.fetching i r))
    (reply : Http.Reply) :
    (w.client.Rests (w.step now (.reply i reply)).client ∧
      ∃ fault r', w.client.fetched r.asked reply = .error fault ∧ r.GoesOn fault r' ∧
        (w.step now (.reply i reply)).IsIn (.fetching i r')) ∨
    w.client.Settles r reply ∧
      w.client.Launches (w.step now (.reply i reply)).client ∧
      (w.step now (.reply i reply)).IsIn .used ∧ (w.step now (.reply i reply)).SetsOut i := by
  obtain ⟨new, only⟩ := fetching
  have own : w.fetch? i = some r := (only i).trans (if_pos rfl)
  obtain ⟨task, located, asking⟩ := Option.bind_eq_some_iff.1 own
  obtain ⟨request, d, seed, rfl⟩ := Task.fetch?_eq_some_iff.1 asking
  obtain ⟨inside, -⟩ := List.getElem?_eq_some_iff.1 located
  have others (task' : Task) (c : Client) (j : Nat) :
      fetch? ⟨c, w.tasks.set i task'⟩ j = if j = i then task'.fetch? else none := by
    rw [(puts_set inside (c, task')).fetch?, only]
    split <;> rfl
  have step : w.step now (.reply i reply) =
      (let resumed := w.client.resumeCall now (.bootstrapping d seed r) reply
      ⟨resumed.1, w.tasks.set i (.call resumed.2)⟩) := by
    simp only [Workload.step, updateTask, located, Task.resume]
  rw [step]
  rcases w.client.resumeCall_fetching now d seed r reply with
    ⟨c', request', r', fault, next, beside, fails, goesOn⟩ | ⟨settles, c', next, beside⟩
  · simp only [next]
    exact .inl ⟨beside.rests, fault, r', fails, goesOn, beside.booted.trans new, others _ c'⟩
  · simp only [next]
    have routed := (Client.aside_route (c'.boot now) now d seed true).toBeside
    refine .inr ⟨settles, Client.launches_boot beside routed, ⟨routed.booted, fun j => ?_⟩,
      setsOut_route (c := c'.boot now) rfl (List.getElem?_set_self inside)⟩
    rw [others]
    split
    · exact Client.fetch?_route _ now d seed true
    · rfl

theorem step_drop_fetching {i : Nat} {r : Refresh} (fetching : w.IsIn (.fetching i r)) :
    w.client.Rests (w.step now (.drop i)).client ∧ (w.step now (.drop i)).IsIn .unused := by
  obtain ⟨new, only⟩ := fetching
  have rests : w.client.Rests (w.step now (.drop i)).client :=
    rests_updateTask fun task _ => (Task.drop_plain w.client task).1.rests
  refine ⟨rests, rests.booted.trans new, fun j => ?_⟩
  rw [step, fetch?_updateTask]
  split
  · cases w.tasks[i]? with
    | none => rfl
    | some task => exact (Task.drop_plain w.client task).2
  · rename_i other
    exact (only j).trans (if_neg other)

theorem step_fetching {i : Nat} {r : Refresh} (fetching : w.IsIn (.fetching i r))
    (ownLoop : ∀ interval evicts, event ≠ .perform (.start interval evicts))
    (apart : event ≠ .drop i ∧ ∀ reply, event ≠ .reply i reply) :
    w.client.Rests (w.step now event).client ∧ (w.step now event).IsIn (.fetching i r) := by
  obtain ⟨new, only⟩ := fetching
  have fetches : w.isFetching = true := isFetching_iff.2 ⟨i, r, (only i).trans (if_pos rfl)⟩
  obtain ⟨rests, same⟩ := step_plain now ownLoop (fun _ _ _ => .inl fetches) fun j taken => by
    refine (only j).trans (if_neg ?_)
    rintro rfl
    rcases taken with dropped | ⟨reply, taken⟩
    · exact apart.1 dropped
    · exact apart.2 reply taken
  exact ⟨rests, rests.booted.trans new, fun j => (same j).trans (only j)⟩

theorem not_opens_of_booted (booted : w.client.isBootstrapped = true) (d : Descriptor) :
    ¬w.client.Opens d := by
  rintro ⟨-, -, new⟩
  rw [booted] at new
  cases new

theorem step_used (used : w.IsIn .used)
    (ownLoop : ∀ interval evicts, event ≠ .perform (.start interval evicts)) :
    w.client.Rests (w.step now event).client ∧ (w.step now event).IsIn .used := by
  obtain ⟨booted, free⟩ := used
  obtain ⟨rests, same⟩ := step_plain now ownLoop
    (fun _ d _ => .inr (not_opens_of_booted booted d)) fun i _ => free i
  exact ⟨rests, rests.booted.trans booted, fun i => (same i).trans (free i)⟩

inductive Advance (w : Workload) (now : Nat) : Phase → Event → Phase → Prop
  | rests {p : Phase} {event : Event} (rests : w.client.Rests (w.step now event).client)
      (noFirst : p = .unused → ∀ i d, w.Starts event i d → ¬w.client.Opens d)
      (apart : ∀ i r, p = .fetching i r → event ≠ .drop i ∧ ∀ reply, event ≠ .reply i reply) :
      Advance w now p event p
  | begins {event : Event} {i : Nat} {d : Descriptor} {r : Refresh} (starts : w.Starts event i d)
      (opens : w.client.Opens d) (seeded : w.client.topology.isSeed = true)
      (rests : w.client.Rests (w.step now event).client) (begins : w.client.Begins r) :
      Advance w now .unused event (.fetching i r)
  | skips {event : Event} {i : Nat} {d : Descriptor} (starts : w.Starts event i d)
      (opens : w.client.Opens d)
      (held : w.client.topology.isSeed = true → w.client.refreshTargets w.client.topology = [])
      (launches : w.client.Launches (w.step now event).client)
      (setsOut : (w.step now event).SetsOut i) :
      Advance w now .unused event .used
  | goesOn {i : Nat} {r r' : Refresh} {reply : Http.Reply} {fault : Fault}
      (rests : w.client.Rests (w.step now (.reply i reply)).client)
      (fails : w.client.fetched r.asked reply = .error fault) (goesOn : r.GoesOn fault r') :
      Advance w now (.fetching i r) (.reply i reply) (.fetching i r')
  | ends {i : Nat} {r : Refresh} {reply : Http.Reply}
      (settles : w.client.Settles r reply)
      (launches : w.client.Launches (w.step now (.reply i reply)).client)
      (setsOut : (w.step now (.reply i reply)).SetsOut i) :
      Advance w now (.fetching i r) (.reply i reply) .used
  | givenUp {i : Nat} {r : Refresh} (rests : w.client.Rests (w.step now (.drop i)).client) :
      Advance w now (.fetching i r) (.drop i) .unused

theorem IsIn.advance {p : Phase} (isIn : w.IsIn p)
    (ownLoop : ∀ interval evicts, event ≠ .perform (.start interval evicts)) :
    ∃ p', w.Advance now p event p' ∧ (w.step now event).IsIn p' := by
  cases p with
  | unused =>
      -- Only a call that opens the client takes it out of this phase.
      by_cases first : ∃ i d, w.Starts event i d ∧ w.client.Opens d
      · obtain ⟨i, d, starts, opens⟩ := first
        rcases step_starts_opens now isIn starts opens with
          ⟨seeded, rests, r, fetching, begins⟩ | ⟨held, launches, used, setsOut⟩
        · exact ⟨_, .begins starts opens seeded rests begins, fetching⟩
        · exact ⟨_, .skips starts opens held launches setsOut, used⟩
      · have noFirst (i : Nat) (d : Descriptor) (starts : w.Starts event i d) :
            ¬w.client.Opens d := fun opens => first ⟨i, d, starts, opens⟩
        obtain ⟨rests, same⟩ := step_unused now isIn ownLoop noFirst
        exact ⟨_, .rests rests (fun _ => noFirst) nofun, same⟩
  | fetching i r =>
      by_cases replied : ∃ reply, event = .reply i reply
      · obtain ⟨reply, rfl⟩ := replied
        rcases step_reply_fetching now isIn reply with
          ⟨rests, fault, r', fails, goesOn, fetching⟩ | ⟨settles, launches, used, setsOut⟩
        · exact ⟨_, .goesOn rests fails goesOn, fetching⟩
        · exact ⟨_, .ends settles launches setsOut, used⟩
      · by_cases dropped : event = .drop i
        · subst dropped
          obtain ⟨rests, unused⟩ := step_drop_fetching now isIn
          exact ⟨_, .givenUp rests, unused⟩
        · have apart : event ≠ .drop i ∧ ∀ reply, event ≠ .reply i reply :=
            ⟨dropped, fun reply eq => replied ⟨reply, eq⟩⟩
          obtain ⟨rests, same⟩ := step_fetching now isIn ownLoop apart
          refine ⟨_, .rests rests nofun fun j r' eq => ?_, same⟩
          cases eq
          exact apart
  | used =>
      obtain ⟨rests, same⟩ := step_used now isIn ownLoop
      exact ⟨_, .rests rests nofun nofun, same⟩

theorem Advance.rests_or_launches {p p' : Phase} (advance : w.Advance now p event p') :
    w.client.Rests (w.step now event).client ∨
      p ≠ .used ∧ p' = .used ∧ w.client.Launches (w.step now event).client := by
  cases advance with
  | rests rests => exact .inl rests
  | begins _ _ _ rests => exact .inl rests
  | skips _ _ _ launches => exact .inr ⟨nofun, rfl, launches⟩
  | goesOn rests => exact .inl rests
  | ends _ launches => exact .inr ⟨nofun, rfl, launches⟩
  | givenUp rests => exact .inl rests

end

/-! ## Runs -/

def Run.StartsNone (events : Run) : Prop :=
  ∀ event ∈ events, ∀ interval evicts, event.2 ≠ .perform (.start interval evicts)

namespace Run.StartsNone

theorem tail {event : Nat × Event} {rest : Run} (ownLoop : StartsNone (event :: rest)) :
    rest.StartsNone :=
  fun e member => ownLoop e (List.mem_cons_of_mem _ member)

theorem left {first second : Run} (ownLoop : StartsNone (first ++ second)) : first.StartsNone :=
  fun event member => ownLoop event (List.mem_append_left _ member)

theorem right {first second : Run} (ownLoop : StartsNone (first ++ second)) : second.StartsNone :=
  fun event member => ownLoop event (List.mem_append_right _ member)

end Run.StartsNone

theorem isIn_untouched {w : Workload} (untouched : w.tasks = []) :
    w.IsIn .unused ∨ w.IsIn .used := by
  have free (i : Nat) : w.fetch? i = none := by simp [fetch?, untouched]
  cases booted : w.client.isBootstrapped with
  | false => exact .inl ⟨booted, free⟩
  | true => exact .inr ⟨booted, free⟩

end Workload

end ClusterClient
