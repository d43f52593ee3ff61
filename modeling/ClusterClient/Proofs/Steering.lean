import ClusterClient.Proofs.Tasks

namespace ClusterClient

inductive Verdict
  | answered (latency : Nat)
  | failed
deriving DecidableEq

def NodeStat.learn (s : NodeStat) : Verdict → NodeStat
  | .answered latency => s.succeed latency
  | .failed => s.fail

def NodeStats.learn (stats : NodeStats) (entry : String × Verdict) : NodeStats :=
  stats.update entry.1 (·.learn entry.2)

def Selector.learn (s : Selector) (log : List (String × Verdict)) : Selector :=
  { s with stats := log.foldl NodeStats.learn s.stats }

namespace Client

def steering (c : Client) : Selector × UInt64 := (c.selector, c.rotation)

@[simp] theorem steering_modifyWatch (c : Client) (f : Watch → Watch) :
    (c.modifyWatch f).steering = c.steering := rfl

@[simp] theorem steering_modifyNotify (c : Client) (f : Notify → Notify) :
    (c.modifyNotify f).steering = c.steering := rfl

@[simp] theorem steering_setRefresh (c : Client) (id : Nat) (r : Option Refresh) :
    (c.setRefresh id r).steering = c.steering := rfl

@[simp] theorem steering_askNext (c : Client) (snapshot : Topology) (places : List Node)
    (failures : List NodeFailure) :
    (c.askNext snapshot places failures).1.steering = c.steering := by
  cases places <;> rfl

@[simp] theorem steering_startRefresh (c : Client) : c.startRefresh.1.steering = c.steering := by
  simp [startRefresh]

@[simp] theorem steering_resumeRefresh (c : Client) (now : Nat) (r : Refresh)
    (reply : Http.Reply) : (c.resumeRefresh now r reply).1.steering = c.steering := by
  unfold resumeRefresh
  cases c.fetched r.asked reply with
  | ok t => rfl
  | error fault => exact steering_askNext c _ _ _

@[simp] theorem steering_signalIf (c : Client) (due : Bool) (a : Attempts) :
    (c.signalIf due a).1.steering = c.steering := by
  unfold signalIf
  split
  · split <;> rfl
  · rfl

@[simp] theorem steering_tryNext (c : Client) (now : Nat) (call : Call) (a : Attempts) :
    (c.tryNext now call a).1.steering = c.steering := by
  rcases c.tryNext_cases now call a with ⟨_, _, _, -, next⟩ | next | ⟨_, -, -, next⟩
  · rw [next]
  · rw [next]
    exact steering_signalIf c true a
  · rw [next]

@[simp] theorem steering_route (c : Client) (now : Nat) (d : Descriptor) (seed : UInt64)
    (claimed : Bool) : (c.route now d seed claimed).1.steering = c.steering := by
  rw [route_eq]
  cases c.selector.select c.topology d.isRead seed with
  | error fault => rfl
  | ok order => exact steering_tryNext _ now _ _

@[simp] theorem steering_finishBootstrap (c : Client) (now : Nat) (d : Descriptor)
    (seed : UInt64) (claimed : Bool) :
    (c.finishBootstrap now d seed claimed).1.steering = c.steering :=
  steering_route _ now d seed claimed

@[simp] theorem steering_startCall (c : Client) (now : Nat) (d : Descriptor) (seed : UInt64) :
    (c.startCall now d seed).1.steering = c.steering := by
  have started := steering_startRefresh c
  unfold startCall
  split
  · rfl
  · split
    · exact steering_route c now d seed false
    · split
      · split <;> simp_all
      · exact steering_finishBootstrap c now d seed false

theorem steering_onSuccess (c : Client) (now : Nat) (a : Attempt) (response : Http.Response) :
    (c.onSuccess now a response).1.steering = c.steering := by
  unfold onSuccess
  dsimp only
  split
  · split <;> rfl
  · rfl

theorem steering_onNotFound (c : Client) (a : Attempt) :
    (c.onNotFound a).1.steering = c.steering := by
  unfold onNotFound
  dsimp only
  split <;> rfl

/-- That nothing was found tells nothing of a node, nor does a reply that ends the call with an
error. -/
def verdict? (c : Client) (now : Nat) (a : Attempt) : Http.Reply → Option Verdict
  | .error _ => some .failed
  | .ok response =>
      if response.isSuccess || response.isNotModified then
        some (.answered ((now - a.sentAt) * nanosPerMilli))
      else match c.settings.statuses.classify a.call.descriptor response with
        | .failed (.retry ..) => some .failed
        | _ => none

theorem verdict?_ok (c : Client) (now : Nat) (a : Attempt) (response : Http.Response) :
    c.verdict? now a (.ok response) =
      match c.settings.statuses.classify a.call.descriptor response with
      | .success => some (.answered ((now - a.sentAt) * nanosPerMilli))
      | .failed (.retry ..) => some .failed
      | _ => none := by
  rw [verdict?]
  split
  · rename_i good
    simp [StatusPolicy.classify, good]
  · rename_i bad
    have other : c.settings.statuses.classify a.call.descriptor response ≠ .success :=
      fun success => bad (by simpa using classify_success success)
    split <;> simp_all

theorem steering_onSetback_retry (c : Client) (now : Nat) (a : Attempt) (fault : Fault)
    (refresh : Bool) : (c.onSetback now a (.retry fault refresh)).1.steering =
      (c.selector.learn [(a.node.url, .failed)], c.rotation) := by
  simp only [onSetback, steering_tryNext, steering_signalIf]
  rfl

theorem steering_resumeCall (c : Client) (now : Nat) (a : Attempt) (reply : Http.Reply) :
    (c.resumeCall now (.attempting a) reply).1.steering =
      (c.selector.learn ((c.verdict? now a reply).toList.map (a.node.url, ·)), c.rotation) := by
  cases reply with
  | error cause => exact steering_onSetback_retry c now a _ false
  | ok response =>
      have signalled := steering_signalIf c response.asksRefresh a.attempts
      simp only [resumeCall, onResponse, verdict?_ok, settings_signalIf]
      generalize c.signalIf response.asksRefresh a.attempts = next at *
      obtain ⟨c', attempts⟩ := next
      have selector : c'.selector = c.selector := congrArg Prod.fst signalled
      have rotation : c'.rotation = c.rotation := congrArg Prod.snd signalled
      cases c.settings.statuses.classify a.call.descriptor response with
      | success =>
          simp only [steering_onSuccess, Option.toList_some, List.map_cons, List.map_nil]
          rw [← selector, ← rotation]
          rfl
      | notFound =>
          simp only [steering_onNotFound]
          exact signalled
      | failed setback =>
          cases setback with
          | terminal fault => exact signalled
          | retry fault refresh =>
              simp only [steering_onSetback_retry, selector, rotation]
              rfl

@[simp] theorem steering_dropCall (c : Client) (call : Call.Suspended) :
    (c.dropCall call).steering = c.steering := by
  cases call <;> rfl

theorem steering_bootstrapping (c : Client) (now : Nat) (d : Descriptor) (seed : UInt64)
    (r : Refresh) (reply : Http.Reply) :
    (c.resumeCall now (.bootstrapping d seed r) reply).1.steering = c.steering := by
  have fetched := steering_resumeRefresh c now r reply
  simp only [resumeCall]
  split <;> simp_all

@[simp] theorem steering_wakeLoop (c : Client) (now : Nat) (l : Loop) (wake : Loop.Wake) :
    (c.wakeLoop now l wake).1.steering = c.steering := by
  cases wake with
  | stop => rfl
  | tick =>
      simp only [wakeLoop, steering_startRefresh]
      split <;> rfl
  | signal => simp [wakeLoop]

theorem steering_rouseLoop (c : Client) (now : Nat) (l : Loop) :
    (c.rouseLoop now l).steering = c.steering := by
  unfold rouseLoop
  split
  · rename_i wake _ _
    have woken := steering_wakeLoop c now l wake
    split <;> simp_all
  · rfl
  · rfl

theorem steering_resumeLoop (c : Client) (now : Nat) (l : Loop) (reply : Http.Reply) :
    (c.resumeLoop now l reply).steering = c.steering := by
  unfold resumeLoop
  cases l.refresh with
  | none => rfl
  | some r =>
      have fetched := steering_resumeRefresh c now r reply
      dsimp only
      split <;> simp_all

end Client

namespace Task

def lessons (c : Client) (now : Nat) (reply : Http.Reply) : Task → List (String × Verdict)
  | .call (.asking _ (.attempting a)) => (c.verdict? now a reply).toList.map (a.node.url, ·)
  | _ => []

theorem steering_resume (c : Client) (now : Nat) (reply : Http.Reply) (task : Task) :
    (resume c now reply task).1.steering =
      (c.selector.learn (lessons c now reply task), c.rotation) := by
  cases task with
  | call progress =>
      cases progress with
      | done outcome => rfl
      | asking request waiting =>
          cases waiting with
          | bootstrapping d seed r => exact c.steering_bootstrapping now d seed r reply
          | attempting a => exact c.steering_resumeCall now a reply
  | queued d seed => rfl
  | refresh progress =>
      cases progress with
      | done outcome => rfl
      | asking request r => exact c.steering_resumeRefresh now r reply
  | dropped => rfl

theorem steering_drop (c : Client) (task : Task) : (drop c task).1.steering = c.steering := by
  cases task with
  | call progress =>
      cases progress with
      | done outcome => rfl
      | asking request waiting => exact c.steering_dropCall waiting
  | queued d seed => rfl
  | refresh progress => cases progress <;> rfl
  | dropped => rfl

theorem steering_enter (c : Client) (fetching : Bool) (now : Nat) (d : Descriptor)
    (seed : UInt64) : (enter c fetching now d seed).1.steering = c.steering := by
  rcases enter_cases c fetching now d seed with ⟨-, entered⟩ | ⟨-, entered⟩
  · rw [entered]
  · rw [entered]
    exact Client.steering_startCall c now d seed

theorem steering_proceed (c : Client) (fetching : Bool) (now : Nat) (task : Task) :
    (proceed c fetching now task).1.steering = c.steering := by
  cases task with
  | queued d seed => exact steering_enter c fetching now d seed
  | _ => rfl

end Task

namespace Workload

def verdicts (w : Workload) (now : Nat) : Event → List (String × Verdict)
  | .reply i reply =>
      match w.attempt? i with
      | some (_, a) => (w.client.verdict? now a reply).toList.map (a.node.url, ·)
      | none => []
  | _ => []

def Event.draws : Event → Bool
  | .call _ none => true
  | _ => false

def operated (w : Workload) : Event → Selector
  | .perform (.selector op) => (w.client.selector.perform w.client.topology op).1
  | _ => w.client.selector

theorem verdicts_reply {w : Workload} {now i : Nat} {reply : Http.Reply} {task : Task}
    (located : w.tasks[i]? = some task) :
    w.verdicts now (.reply i reply) = task.lessons w.client now reply := by
  simp only [verdicts, attempt?, located]
  cases task with
  | call progress =>
      cases progress with
      | done outcome => rfl
      | asking request waiting => cases waiting <;> rfl
  | queued d seed => rfl
  | refresh progress => rfl
  | dropped => rfl

theorem steering_step (w : Workload) (now : Nat) (event : Event) :
    (w.step now event).client.steering =
      ((w.operated event).learn (w.verdicts now event),
        w.client.rotation + if event.draws then 1 else 0) := by
  have stays : w.client.steering = (w.client.selector.learn [], w.client.rotation + 0) :=
    Prod.ext rfl (UInt64.add_zero _).symm
  cases event with
  | perform op =>
      have kept : w.client.rotation = w.client.rotation + 0 := (UInt64.add_zero _).symm
      cases op <;> exact Prod.ext rfl kept
  | call d seed =>
      have entered := Task.steering_enter (w.client.seedFor seed).1 w.isFetching now d
        (w.client.seedFor seed).2
      cases seed with
      | some seed => exact entered.trans stays
      | none => exact entered
  | proceed i =>
      simp only [step, updateTask]
      cases w.tasks[i]? with
      | none => exact stays
      | some task => exact (Task.steering_proceed w.client w.isFetching now task).trans stays
  | refresh => exact (Client.steering_startRefresh w.client).trans stays
  | reply i reply =>
      cases located : w.tasks[i]? with
      | none =>
          simp only [step, updateTask, operated, verdicts, Event.draws, attempt?, located]
          exact stays
      | some task =>
          rw [verdicts_reply located]
          simp only [step, updateTask, operated, Event.draws, located]
          have taught := Task.steering_resume w.client now reply task
          exact taught.trans (Prod.ext rfl (UInt64.add_zero _).symm)
  | drop i =>
      simp only [step, updateTask]
      cases w.tasks[i]? with
      | none => exact stays
      | some task => exact (Task.steering_drop w.client task).trans stays
  | wake id =>
      simp only [step, updateLoop]
      cases w.loop? id with
      | none => exact stays
      | some l => exact (Client.steering_rouseLoop w.client now l).trans stays
  | loopReply id reply =>
      simp only [step, updateLoop]
      cases w.loop? id with
      | none => exact stays
      | some l => exact (Client.steering_resumeLoop w.client now l reply).trans stays

theorem rotation_step (w : Workload) (now : Nat) (event : Event) :
    (w.step now event).client.rotation =
      w.client.rotation + if event.draws then 1 else 0 :=
  congrArg Prod.snd (steering_step w now event)

theorem readBalance_step (w : Workload) (now : Nat) (event : Event) :
    (w.step now event).client.selector.readBalance = w.client.selector.readBalance := by
  have steering := congrArg (fun s => s.1.readBalance) (steering_step w now event)
  refine steering.trans ?_
  cases event with
  | perform op =>
      cases op with
      | selector op => cases op <;> rfl
      | _ => rfl
  | _ => rfl

def Event.isStat : Event → Bool
  | .perform (.selector (.succeed ..)) | .perform (.selector (.fail _))
  | .perform (.selector .reset) => true
  | _ => false

theorem stats_step (w : Workload) (now : Nat) {event : Event} (plain : event.isStat = false) :
    (w.step now event).client.selector.stats =
      (w.verdicts now event).foldl NodeStats.learn w.client.selector.stats := by
  have operated : (w.operated event).stats = w.client.selector.stats := by
    cases event with
    | perform op =>
        cases op with
        | selector op =>
            cases op with
            | stat url | failures | select isRead seed => rfl
            | succeed url latency | fail url | reset => cases plain
        | _ => rfl
    | _ => rfl
  have steering := congrArg (fun s => s.1.stats) (steering_step w now event)
  refine steering.trans ?_
  simp only [Selector.learn, operated]

end Workload

end ClusterClient
