import ClusterClient.Proofs.Tasks
import ClusterClient.Simulation

namespace ClusterClient

def Workload.Run.Within (start finish : Nat) : Workload.Run → Prop
  | [] => start ≤ finish
  | event :: rest => start ≤ event.1 ∧ Within event.1 finish rest

open Workload (Event Run)

theorem Workload.Run.Within.append {first second : Run} {start middle finish : Nat}
    (earlier : first.Within start middle) (later : second.Within middle finish) :
    (first ++ second).Within start finish := by
  induction first generalizing start with
  | nil =>
      cases second with
      | nil => exact Nat.le_trans earlier later
      | cons event rest => exact ⟨Nat.le_trans earlier later.1, later.2⟩
  | cons event rest ih => exact ⟨earlier.1, ih earlier.2⟩

namespace Workload

def answer? (w : Workload) (now : Nat) : Event → Option Client.Answer
  | .perform op => some (w.client.perform now op).2
  | _ => none

/-- The events of a run, each with what it is answered. -/
def shown (w : Workload) : Run → List (Event × Option Client.Answer)
  | [] => []
  | event :: rest =>
      (event.2, w.answer? event.1 event.2) :: (w.step event.1 event.2).shown rest

theorem shown_append (w : Workload) (first second : Run) :
    w.shown (first ++ second) = w.shown first ++ (w.run first).shown second := by
  induction first generalizing w with
  | nil => rfl
  | cons event rest ih => exact congrArg (_ :: ·) (ih _)

end Workload

namespace Simulation

/-- Whether `s'` comes of `s` by events of the workload, in the course of time. -/
def Runs (s s' : Simulation) : Prop :=
  ∃ events : Run, events.Within s.now s'.now ∧ s'.toWorkload = s.toWorkload.run events

variable {s s' s'' : Simulation}

theorem runs_of_eq (later : s.now ≤ s'.now) (same : s'.toWorkload = s.toWorkload) : s.Runs s' :=
  ⟨[], later, same⟩

theorem runs_event (s : Simulation) (e : Event) : s.Runs (s.event e) :=
  ⟨[(s.now, e)], ⟨Nat.le_refl _, Nat.le_refl _⟩, rfl⟩

theorem Runs.trans (first : s.Runs s') (second : s'.Runs s'') : s.Runs s'' := by
  obtain ⟨events, within, run⟩ := first
  obtain ⟨events', within', run'⟩ := second
  exact ⟨events ++ events', within.append within', by rw [run', run, Workload.run_append]⟩

/-- Whether `s'` comes of `s` in the course of time, with no task begun or taken up. -/
structure Passes (s s' : Simulation) : Prop where
  runs : s.Runs s'
  tasks : s'.tasks = s.tasks

theorem Passes.trans (first : s.Passes s') (second : s'.Passes s'') : s.Passes s'' :=
  ⟨first.runs.trans second.runs, second.tasks.trans first.tasks⟩

structure Stirs (s s' : Simulation) : Prop extends s.Passes s' where
  now : s'.now = s.now

theorem Stirs.trans (first : s.Stirs s') (second : s'.Stirs s'') : s.Stirs s'' :=
  ⟨first.toPasses.trans second.toPasses, second.now.trans first.now⟩

theorem stirs_of_eq (same : s'.toWorkload = s.toWorkload) (now : s'.now = s.now) : s.Stirs s' :=
  ⟨⟨runs_of_eq (Nat.le_of_eq now.symm) same, congrArg Workload.tasks same⟩, now⟩

theorem Stirs.refl (s : Simulation) : s.Stirs s := stirs_of_eq rfl rfl

theorem stirs_event {e : Event} (kept : (s.toWorkload.step s.now e).tasks = s.tasks) :
    s.Stirs (s.event e) :=
  ⟨⟨s.runs_event e, kept⟩, rfl⟩

theorem stirs_loopReply (s : Simulation) (id : Nat) (reply : Http.Reply) :
    s.Stirs (s.event (.loopReply id reply)) :=
  stirs_event (Workload.tasks_updateLoop _ id _)

theorem stirs_wake (s : Simulation) (id : Nat) : s.Stirs (s.event (.wake id)) :=
  stirs_event (Workload.tasks_updateLoop _ id _)

theorem stirs_runHooks (s : Simulation) (number : Nat) : s.Stirs (s.runHooks number) := by
  unfold runHooks
  dsimp only
  generalize (s.hooks.filter (·.request == number)).flatMap (·.operations) = operations
  induction operations generalizing s with
  | nil => exact .refl s
  | cons op rest ih =>
      have performed : s.Stirs (s.event (.perform op)) := stirs_event rfl
      let next := s.event (.perform op)
      let answer := (s.client.perform s.now op).2
      have noted : next.Stirs { next with hookAnswers := next.hookAnswers ++ [answer] } :=
        stirs_of_eq rfl rfl
      exact (performed.trans noted).trans (ih _)

theorem stirs_send (s : Simulation) (request : Http.Request) : s.Stirs (s.send request).1 := by
  have counted : s.Stirs { s with sent := s.sent + 1 } := stirs_of_eq rfl rfl
  exact (counted.trans (stirs_runHooks _ _)).trans (stirs_of_eq rfl rfl)

theorem stirs_runLoop (s : Simulation) (id : Nat) (r : Refresh) (e : Exchange) :
    s.Stirs (s.runLoop id r e) := by
  fun_induction runLoop s id r e with
  | case1 s r e due next c request r' resumed s' e' sent ih =>
      have asked := stirs_send next request
      rw [sent] at asked
      exact ((stirs_loopReply s id e.reply).trans asked).trans ih
  | case2 s r e due next => exact stirs_loopReply s id e.reply
  | case3 => exact stirs_of_eq rfl rfl

theorem stirs_moveLoop {l : Loop} (moved : s.moveLoop l = some s') : s.Stirs s' := by
  unfold moveLoop at moved
  split at moved
  · rename_i r under
    simp only [Option.bind_eq_bind, Option.bind_eq_some_iff] at moved
    obtain ⟨⟨_, e⟩, -, moved⟩ := moved
    split at moved
    · obtain rfl := Option.some.inj moved
      have taken : s.Stirs { s with exchanges := s.exchanges.filter (·.1 != l.id) } :=
        stirs_of_eq rfl rfl
      exact taken.trans (stirs_runLoop _ _ _ _)
    · cases moved
  · have woken := stirs_wake s l.id
    dsimp only at moved
    split at moved
    · split at moved
      · obtain rfl := Option.some.inj moved
        exact (woken.trans (stirs_send _ _)).trans (stirs_runLoop _ _ _ _)
      · obtain rfl := Option.some.inj moved
        exact woken
    · split at moved
      · cases moved
      · obtain rfl := Option.some.inj moved
        exact woken

theorem stirs_settle (s : Simulation) : s.Stirs s.settle := by
  unfold settle
  generalize s.moves = fuel
  induction fuel generalizing s with
  | zero => exact .refl s
  | succ fuel ih =>
      unfold settleWithin
      split
      · rename_i next found
        obtain ⟨l, -, moved⟩ := List.exists_of_findSome?_eq_some found
        exact (stirs_moveLoop moved).trans (ih next)
      · exact .refl s

theorem passes_at {time : Nat} (later : s.now ≤ time) : s.Passes { s with now := time } :=
  ⟨runs_of_eq later rfl, rfl⟩

theorem passes_passFrom {clock time : Nat} (begun : s.now ≤ clock) (ends : clock ≤ time) :
    s.Passes (passFrom clock s time) := by
  -- The clock goes from one time at which something is due to the next, and never back.
  fun_induction passFrom clock s time with
  | case1 clock s settled due next between ih =>
      have stirred : s.Passes settled :=
        (passes_at begun).trans (stirs_settle { s with now := clock }).toPasses
      have now : settled.now = clock := (stirs_settle { s with now := clock }).now
      exact stirred.trans (ih (by omega) (by omega))
  | case2 clock s settled due next between =>
      have stirred : s.Passes settled :=
        (passes_at begun).trans (stirs_settle { s with now := clock }).toPasses
      have now : settled.now = clock := (stirs_settle { s with now := clock }).now
      exact stirred.trans (passes_at (by omega))
  | case3 clock s settled none =>
      have stirred : s.Passes settled :=
        (passes_at begun).trans (stirs_settle { s with now := clock }).toPasses
      have now : settled.now = clock := (stirs_settle { s with now := clock }).now
      exact stirred.trans (passes_at (by omega))

theorem passes_passUntil (s : Simulation) (time : Nat) : s.Passes (s.passUntil time) := by
  unfold passUntil
  split
  · exact passes_passFrom (Nat.le_refl _) (by omega)
  · exact (Stirs.refl s).toPasses

theorem passes_await (s : Simulation) (e : Exchange) (limit : Option Nat) :
    s.Passes (s.await e limit).1 := by
  unfold await
  split
  · exact (Stirs.refl s).toPasses
  · split
    · exact passes_passUntil s _
    · split <;> exact passes_passUntil s _

structure Leaves (s s' : Simulation) (old : List Task) (task : Task) : Prop where
  runs : s.Runs s'
  tasks : s'.tasks = old ++ [task]

variable {old : List Task} {task task' : Task}

theorem Leaves.refl (last : s.tasks = old ++ [task]) : s.Leaves s old task :=
  ⟨(Stirs.refl s).runs, last⟩

theorem Leaves.passes (first : s.Leaves s' old task) (second : s'.Passes s'') :
    s.Leaves s'' old task :=
  ⟨first.runs.trans second.runs, second.tasks.trans first.tasks⟩

theorem Leaves.trans (first : s.Leaves s' old task) (second : s'.Leaves s'' old task') :
    s.Leaves s'' old task' :=
  ⟨first.runs.trans second.runs, second.tasks⟩

theorem Passes.updates (waited : s.Passes s') (last : s.tasks = old ++ [task]) (e : Event)
    (f : Task → Client × Task)
    (updates : s'.toWorkload.step s'.now e = s'.toWorkload.updateTask old.length f) :
    s.Leaves (s'.event e) old (f task).2 := by
  have last' : s'.tasks = old ++ [task] := waited.tasks.trans last
  have found : s'.tasks[old.length]? = some task := by simp [last']
  refine ⟨waited.runs.trans (s'.runs_event e), ?_⟩
  simp only [event, updates, Workload.updateTask, found]
  simp [last']

theorem Passes.replies (waited : s.Passes s') (last : s.tasks = old ++ [task])
    (reply : Http.Reply) :
    s.Leaves (s'.event (.reply old.length reply)) old (task.resume s'.client s'.now reply).2 :=
  waited.updates last (.reply old.length reply) (Task.resume s'.client s'.now reply) rfl

theorem Passes.drops (waited : s.Passes s') (last : s.tasks = old ++ [task]) :
    s.Leaves (s'.event (.drop old.length)) old (task.drop s'.client).2 :=
  waited.updates last (.drop old.length) (Task.drop s'.client) rfl

theorem leaves_send (first : s.Leaves s' old task) (request : Http.Request) :
    s.Leaves (s'.send request).1 old task :=
  first.passes (stirs_send s' request).toPasses

theorem leaves_runRefresh {r : Refresh} (e : Exchange)
    (last : ∃ request, s.tasks = old ++ [.refresh (.asking request r)]) :
    s.Leaves (s.runRefresh old.length r e).1 old
      (.refresh (.done (s.runRefresh old.length r e).2)) := by
  generalize index : old.length = i
  fun_induction runRefresh s i r e with
  | case1 s r e passed next c request' r' resumed s' e' sent ih =>
      subst index
      obtain ⟨request, last⟩ := last
      have replied : s.Leaves next old
          (.refresh (passed.client.resumeRefresh passed.now r e.reply).2) :=
        (passes_passUntil s e.due).replies last e.reply
      have asked := leaves_send replied request'
      rw [resumed, sent] at asked
      exact asked.trans (ih ⟨request', asked.tasks⟩)
  | case2 s r e passed next c outcome resumed =>
      subst index
      obtain ⟨request, last⟩ := last
      have replied : s.Leaves next old
          (.refresh (passed.client.resumeRefresh passed.now r e.reply).2) :=
        (passes_passUntil s e.due).replies last e.reply
      rwa [resumed] at replied

theorem leaves_refresh (s : Simulation) :
    (s.event .refresh).Leaves s.refresh.1 s.tasks (.refresh (.done s.refresh.2)) := by
  have begun : (s.event .refresh).tasks = s.tasks ++ [.refresh s.client.startRefresh.2] := rfl
  unfold refresh
  dsimp only
  split
  · rename_i request r started
    rw [started] at begun
    have asked := leaves_send (.refl begun) request
    exact asked.trans (leaves_runRefresh _ ⟨request, asked.tasks⟩)
  · rename_i outcome started
    rw [started] at begun
    exact .refl begun

def callTask : Option (Except Fault Execution) → Task
  | some outcome => .call (.done outcome)
  | none => .dropped

theorem leaves_runCall {call : Call.Suspended} (limit : Option Nat) (e : Exchange)
    (last : ∃ request, s.tasks = old ++ [.call (.asking request call)]) :
    s.Leaves (s.runCall old.length limit call e).1 old
      (callTask (s.runCall old.length limit call e).2) := by
  generalize index : old.length = i
  fun_induction runCall s i limit call e with
  | case1 s call e s' awaited =>
      subst index
      obtain ⟨request, last⟩ := last
      have passes := passes_await s e limit
      rw [awaited] at passes
      exact passes.drops last
  | case2 s call e s' reply awaited next c request' call' resumed s'' e' sent ih =>
      subst index
      obtain ⟨request, last⟩ := last
      have passes := passes_await s e limit
      rw [awaited] at passes
      have replied : s.Leaves next old (.call (s'.client.resumeCall s'.now call reply).2) :=
        passes.replies last reply
      have asked := leaves_send replied request'
      rw [resumed, sent] at asked
      exact asked.trans (ih ⟨request', asked.tasks⟩)
  | case3 s call e s' reply awaited next c outcome resumed =>
      subst index
      obtain ⟨request, last⟩ := last
      have passes := passes_await s e limit
      rw [awaited] at passes
      have replied : s.Leaves next old (.call (s'.client.resumeCall s'.now call reply).2) :=
        passes.replies last reply
      rwa [resumed] at replied

theorem leaves_execute (idle : s.isFetching = false) (d : Descriptor) (seed : Option UInt64)
    (span : Option Nat) :
    (s.event (.call d seed)).Leaves (s.execute d seed span).1 s.tasks
      (callTask (s.execute d seed span).2) := by
  have begun : (s.event (.call d seed)).tasks = s.tasks ++
      [.call ((s.client.seedFor seed).1.startCall s.now d (s.client.seedFor seed).2).2] := by
    simp [event, Workload.step, Task.enter, idle]
  unfold execute
  dsimp only
  split
  · rename_i request call started
    rw [started] at begun
    have asked := leaves_send (.refl begun) request
    exact asked.trans (leaves_runCall _ _ ⟨request, asked.tasks⟩)
  · rename_i outcome started
    rw [started] at begun
    exact .refl begun

/-- What a step that comes to a result shows: the event that it begins with, and what an operation
is answered. -/
def Step.shown : Step → Result → List (Event × Option Client.Answer)
  | .perform op, .answer a => [(.perform op, some a)]
  | .perform op, _ => [(.perform op, none)]
  | .refresh, _ => [(.refresh, none)]
  | .advance _, _ => []
  | .execute d seed _, _ => [(.call d seed, none)]

def Result.tasks : Result → List Task
  | .refreshed outcome => [.refresh (.done outcome)]
  | .executed outcome => [callTask outcome]
  | .answer _ => []
  | .nothing => []

/-- Whether `s'` comes of `s` by a run of the workload that shows this, in its order, and that adds
these tasks. -/
structure Enacts (s s' : Simulation) (shown : List (Event × Option Client.Answer))
    (ended : List Task) : Prop where
  runs : ∃ events : Run, events.Within s.now s'.now ∧
    shown.Sublist (s.toWorkload.shown events) ∧ s'.toWorkload = s.toWorkload.run events
  tasks : s'.tasks = s.tasks ++ ended

variable {shown shown' : List (Event × Option Client.Answer)} {ended ended' : List Task}

theorem Enacts.trans (first : s.Enacts s' shown ended) (second : s'.Enacts s'' shown' ended') :
    s.Enacts s'' (shown ++ shown') (ended ++ ended') := by
  obtain ⟨events, within, occur, run⟩ := first.runs
  obtain ⟨events', within', occur', run'⟩ := second.runs
  constructor
  case runs =>
    refine ⟨events ++ events', within.append within', ?_, ?_⟩
    · rw [Workload.shown_append, ← run]
      exact occur.append occur'
    · rw [run', run, Workload.run_append]
  case tasks => rw [second.tasks, first.tasks, List.append_assoc]

theorem Passes.enacts (passes : s.Passes s') : s.Enacts s' [] [] := by
  obtain ⟨events, within, run⟩ := passes.runs
  exact ⟨⟨events, within, List.nil_sublist _, run⟩, by rw [passes.tasks, List.append_nil]⟩

theorem Leaves.enacts {e : Event} (leaves : (s.event e).Leaves s' s.tasks task) :
    s.Enacts s' [(e, s.toWorkload.answer? s.now e)] [task] := by
  obtain ⟨events, within, run⟩ := leaves.runs
  refine ⟨⟨(s.now, e) :: events, ⟨Nat.le_refl _, within⟩, ?_, run⟩, leaves.tasks⟩
  exact (List.nil_sublist _).cons_cons _

theorem enacts_foreground (idle : s.isFetching = false) (step : Step) :
    s.Enacts (s.foreground step).1 (step.shown (s.foreground step).2)
      (s.foreground step).2.tasks := by
  cases step with
  | perform op =>
      refine ⟨⟨[(s.now, .perform op)], ⟨Nat.le_refl _, Nat.le_refl _⟩, .refl _, rfl⟩, ?_⟩
      exact (List.append_nil _).symm
  | refresh => exact (leaves_refresh s).enacts
  | advance span => exact (passes_passUntil s _).enacts
  | execute d seed span => exact (leaves_execute idle d seed span).enacts

theorem enacts_step (idle : s.isFetching = false) (step : Step) :
    s.Enacts (s.step step).1 (step.shown (s.step step).2) (s.step step).2.tasks := by
  let cleared : Simulation := { s with script := s.script.clear, hookAnswers := [] }
  have clears : s.Stirs cleared := stirs_of_eq rfl rfl
  have idle' : cleared.isFetching = false := idle
  have acts := enacts_foreground idle' step
  have settles := stirs_settle (cleared.foreground step).1
  have whole := (clears.toPasses.enacts.trans acts).trans settles.toPasses.enacts
  rwa [List.nil_append, List.nil_append, List.append_nil, List.append_nil] at whole

theorem isBootstrapping_tasks (result : Result) :
    result.tasks.any Task.isBootstrapping = false := by
  cases result with
  | executed outcome => cases outcome <;> rfl
  | nothing | answer | refreshed => rfl

theorem isFetching_step (idle : s.isFetching = false) (step : Step) :
    (s.step step).1.isFetching = false := by
  -- What a step has begun is over when it ends, so that no later call finds one that fetches.
  unfold Workload.isFetching at idle ⊢
  rw [(enacts_step idle step).tasks, List.any_append, idle, isBootstrapping_tasks]
  rfl

def play (s : Simulation) : List Step → Simulation × List (Step × Result)
  | [] => (s, [])
  | step :: rest =>
      let (s, result) := s.step step
      let (s, results) := s.play rest
      (s, (step, result) :: results)

theorem enacts_play (idle : s.isFetching = false) (steps : List Step) :
    s.Enacts (s.play steps).1 ((s.play steps).2.flatMap fun (step, result) => step.shown result)
      ((s.play steps).2.flatMap (·.2.tasks)) := by
  induction steps generalizing s with
  | nil => exact (Stirs.refl s).toPasses.enacts
  | cons step rest ih => exact (enacts_step idle step).trans (ih (isFetching_step idle step))

/-- What is played on a client is a run of its workload, in the course of time: the steps occur in
it in their order, and their results are those of its operations and of its tasks. -/
theorem play_runs (client : Client) (script : Script) (hooks : List Hook) (steps : List Step) :
    ∃ events : Run,
      let (played, results) := play { client, script, hooks } steps
      events.Within 0 played.now ∧
        (results.flatMap fun (step, result) => step.shown result).Sublist
          (Workload.shown { client } events) ∧
        played.toWorkload = Workload.run { client } events ∧
        played.tasks = results.flatMap (·.2.tasks) := by
  have enacts := enacts_play (s := { client, script, hooks }) rfl steps
  obtain ⟨events, within, occur, run⟩ := enacts.runs
  exact ⟨events, within, occur, run, enacts.tasks⟩

end Simulation

end ClusterClient
