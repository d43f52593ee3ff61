import ClusterClient.Workload

namespace ClusterClient

def Topology.heldAfter (held : Topology) (offers : List Topology) : Topology :=
  offers.foldl (fun held offered => (held.offer offered).1) held

theorem Topology.installed_iff {held offered : Topology} :
    (held.offer offered).2 = true ↔ held.etag < offered.etag := by
  unfold offer supersedes
  by_cases newer : held.etag < offered.etag
  · simp [newer]
  · simp [newer]

namespace Client

def frame (c : Client) : Settings × Topology := (c.settings, c.topology)

def offeredBy (c : Client) (r : Refresh) (reply : Http.Reply) : List Topology :=
  (c.fetched r.asked reply).toOption.toList

@[simp] theorem frame_modifyWatch (c : Client) (f : Watch → Watch) :
    (c.modifyWatch f).frame = c.frame := rfl

@[simp] theorem frame_modifyNotify (c : Client) (f : Notify → Notify) :
    (c.modifyNotify f).frame = c.frame := rfl

@[simp] theorem frame_modifyStats (c : Client) (f : NodeStats → NodeStats) :
    (c.modifyStats f).frame = c.frame := rfl

@[simp] theorem frame_setRefresh (c : Client) (id : Nat) (r : Option Refresh) :
    (c.setRefresh id r).frame = c.frame := rfl

@[simp] theorem frame_askNext (c : Client) (snapshot : Topology) (places : List Node)
    (failures : List NodeFailure) : (c.askNext snapshot places failures).1.frame = c.frame := by
  cases places <;> rfl

@[simp] theorem frame_startRefresh (c : Client) : c.startRefresh.1.frame = c.frame := by
  simp [startRefresh]

theorem frame_resumeRefresh (c : Client) (now : Nat) (r : Refresh) (reply : Http.Reply) :
    (c.resumeRefresh now r reply).1.frame =
      (c.settings, c.topology.heldAfter (c.offeredBy r reply)) := by
  unfold resumeRefresh offeredBy
  cases answer : c.fetched r.asked reply with
  | ok t => rfl
  | error fault => exact frame_askNext c _ _ _

@[simp] theorem frame_signalIf (c : Client) (due : Bool) (a : Attempts) :
    (c.signalIf due a).1.frame = c.frame := by
  unfold signalIf
  split
  · split <;> rfl
  · rfl

@[simp] theorem frame_tryNext (c : Client) (now : Nat) (call : Call) (a : Attempts) :
    (c.tryNext now call a).1.frame = c.frame := by
  unfold tryNext
  split
  · split <;> rfl
  · exact frame_signalIf c true _

@[simp] theorem frame_route (c : Client) (now : Nat) (d : Descriptor) (seed : UInt64)
    (claimed : Bool) : (c.route now d seed claimed).1.frame = c.frame := by
  unfold route
  dsimp only
  split
  · rfl
  · exact frame_tryNext _ now _ _

@[simp] theorem frame_finishBootstrap (c : Client) (now : Nat) (d : Descriptor) (seed : UInt64)
    (claimed : Bool) : (c.finishBootstrap now d seed claimed).1.frame = c.frame :=
  frame_route _ now d seed claimed

@[simp] theorem frame_startCall (c : Client) (now : Nat) (d : Descriptor) (seed : UInt64) :
    (c.startCall now d seed).1.frame = c.frame := by
  have started := frame_startRefresh c
  unfold startCall
  split
  · rfl
  · split
    · exact frame_route c now d seed false
    · split
      · split <;> simp_all
      · exact frame_finishBootstrap c now d seed false

theorem frame_onSuccess (c : Client) (now : Nat) (a : Attempt) (response : Http.Response) :
    (c.onSuccess now a response).1.frame = c.frame := by
  unfold onSuccess
  dsimp only
  split
  · split <;> rfl
  · rfl

theorem frame_onNotFound (c : Client) (a : Attempt) : (c.onNotFound a).1.frame = c.frame := by
  unfold onNotFound
  dsimp only
  split <;> rfl

theorem frame_onSetback (c : Client) (now : Nat) (a : Attempt) (setback : Setback) :
    (c.onSetback now a setback).1.frame = c.frame := by
  cases setback with
  | terminal fault => rfl
  | retry fault refresh => simp [onSetback]

theorem frame_onResponse (c : Client) (now : Nat) (a : Attempt) (response : Http.Response) :
    (c.onResponse now a response).1.frame = c.frame := by
  unfold onResponse
  dsimp only
  split
  · simp [frame_onSuccess]
  · simp [frame_onNotFound]
  · simp [frame_onSetback]

def callOffers (c : Client) (reply : Http.Reply) : Call.Suspended → List Topology
  | .bootstrapping _ _ r => c.offeredBy r reply
  | .attempting _ => []

theorem frame_resumeCall (c : Client) (now : Nat) (call : Call.Suspended) (reply : Http.Reply) :
    (c.resumeCall now call reply).1.frame =
      (c.settings, c.topology.heldAfter (c.callOffers reply call)) := by
  cases call with
  | bootstrapping d seed r =>
      have fetched := frame_resumeRefresh c now r reply
      simp only [resumeCall, callOffers]
      split <;> simp_all
  | attempting a =>
      cases reply with
      | error cause => exact frame_onSetback c now a _
      | ok response => exact frame_onResponse c now a response

@[simp] theorem frame_dropCall (c : Client) (call : Call.Suspended) :
    (c.dropCall call).frame = c.frame := by
  cases call <;> rfl

/-- Up to some signals, a client with the settings, the cache and the ids of another. -/
structure Follows (c c' : Client) (signals : Nat) : Prop where
  settings : c'.settings = c.settings
  cache : c'.cache = c.cache
  ids : c'.ids = c.ids
  requests : c'.watch.requests = c.watch.requests + signals

theorem Follows.refl (c : Client) : c.Follows c 0 := ⟨rfl, rfl, rfl, rfl⟩

theorem Follows.trans {c c' c'' : Client} {m n : Nat} (first : c.Follows c' m)
    (second : c'.Follows c'' n) : c.Follows c'' (m + n) where
  settings := second.settings.trans first.settings
  cache := second.cache.trans first.cache
  ids := second.ids.trans first.ids
  requests := by rw [second.requests, first.requests, Nat.add_assoc]

theorem follows_askNext (c : Client) (snapshot : Topology) (places : List Node)
    (failures : List NodeFailure) : c.Follows (c.askNext snapshot places failures).1 0 := by
  cases places <;> exact ⟨rfl, rfl, rfl, rfl⟩

theorem follows_startRefresh (c : Client) : c.Follows c.startRefresh.1 0 := by
  have counted : c.Follows (c.modifyWatch fun w => { w with inFlight := w.inFlight + 1 }) 0 :=
    ⟨rfl, rfl, rfl, rfl⟩
  exact counted.trans (follows_askNext _ c.topology (c.refreshTargets c.topology) [])

theorem follows_resumeRefresh (c : Client) (now : Nat) (r : Refresh) (reply : Http.Reply) :
    c.Follows (c.resumeRefresh now r reply).1 0 := by
  unfold resumeRefresh
  cases c.fetched r.asked reply with
  | ok t => exact ⟨rfl, rfl, rfl, rfl⟩
  | error fault => exact follows_askNext c _ _ _

theorem follows_startLoop (c : Client) (now interval : Nat) (evicts : Bool) :
    c.Follows (c.startLoop now interval evicts) 0 := by
  refine ⟨rfl, rfl, rfl, ?_⟩
  simp only [startLoop, modifyWatch]
  split <;> rfl

theorem follows_signalIf (c : Client) (due : Bool) (a : Attempts) :
    c.Follows (c.signalIf due a).1 (due && !a.claimed).toNat := by
  unfold signalIf
  cases due with
  | true => cases claimed : a.claimed <;> exact ⟨rfl, rfl, rfl, rfl⟩
  | false => exact ⟨rfl, rfl, rfl, rfl⟩

@[simp] theorem frame_wakeLoop (c : Client) (now : Nat) (l : Loop) (wake : Loop.Wake) :
    (c.wakeLoop now l wake).1.frame = c.frame := by
  cases wake with
  | stop => rfl
  | tick =>
      simp only [wakeLoop, frame_startRefresh]
      split <;> rfl
  | signal => simp [wakeLoop]

theorem frame_rouseLoop (c : Client) (now : Nat) (l : Loop) :
    (c.rouseLoop now l).frame = c.frame := by
  unfold rouseLoop
  split
  · rename_i wake _ _
    have woken := frame_wakeLoop c now l wake
    split <;> simp_all
  · rfl
  · rfl

theorem frame_resumeLoop (c : Client) (now : Nat) (l : Loop) (reply : Http.Reply) :
    (c.resumeLoop now l reply).frame =
      (c.settings, c.topology.heldAfter (l.refresh.elim [] (c.offeredBy · reply))) := by
  unfold resumeLoop
  cases l.refresh with
  | none => rfl
  | some r =>
      have fetched := frame_resumeRefresh c now r reply
      dsimp only
      split <;> simp_all

end Client

namespace Task

theorem enter_cases (c : Client) (fetching : Bool) (now : Nat) (d : Descriptor) (seed : UInt64) :
    ((fetching = true ∧ c.Opens d) ∧ enter c fetching now d seed = (c, .queued d seed)) ∨
    ¬(fetching = true ∧ c.Opens d) ∧ enter c fetching now d seed =
      ((c.startCall now d seed).1, .call (c.startCall now d seed).2) := by
  unfold enter
  by_cases waits : fetching = true ∧ c.Opens d
  · exact .inl ⟨waits, if_pos waits⟩
  · exact .inr ⟨waits, if_neg waits⟩

theorem frame_enter (c : Client) (fetching : Bool) (now : Nat) (d : Descriptor) (seed : UInt64) :
    (enter c fetching now d seed).1.frame = c.frame := by
  rcases enter_cases c fetching now d seed with ⟨-, waits⟩ | ⟨-, starts⟩
  · rw [waits]
  · rw [starts]
    exact Client.frame_startCall c now d seed

theorem frame_proceed (c : Client) (fetching : Bool) (now : Nat) (task : Task) :
    (proceed c fetching now task).1.frame = c.frame := by
  cases task with
  | queued d seed => exact frame_enter c fetching now d seed
  | _ => rfl

def offers (c : Client) (reply : Http.Reply) : Task → List Topology
  | .call (.asking _ waiting) => c.callOffers reply waiting
  | .refresh (.asking _ r) => c.offeredBy r reply
  | _ => []

theorem frame_resume (c : Client) (now : Nat) (reply : Http.Reply) (task : Task) :
    (resume c now reply task).1.frame =
      (c.settings, c.topology.heldAfter (offers c reply task)) := by
  cases task with
  | call progress =>
      cases progress with
      | asking request waiting => exact Client.frame_resumeCall c now waiting reply
      | done outcome => rfl
  | refresh progress =>
      cases progress with
      | asking request r => exact Client.frame_resumeRefresh c now r reply
      | done outcome => rfl
  | queued d seed => rfl
  | dropped => rfl

theorem frame_drop (c : Client) (task : Task) : (drop c task).1.frame = c.frame := by
  cases task with
  | call progress =>
      cases progress with
      | asking request waiting => exact Client.frame_dropCall c waiting
      | done outcome => rfl
  | refresh progress => cases progress <;> rfl
  | queued d seed => rfl
  | dropped => rfl

end Task

namespace Workload

def offered (w : Workload) : Event → List Topology
  | .perform (.offer t) => [t]
  | .reply i reply => (w.tasks[i]?).elim [] (Task.offers w.client reply)
  | .loopReply id reply =>
      (w.loop? id).elim [] fun l => l.refresh.elim [] (w.client.offeredBy · reply)
  | _ => []

theorem frame_step (w : Workload) (now : Nat) (event : Event) :
    (w.step now event).client.frame =
      (w.client.settings, w.client.topology.heldAfter (w.offered event)) := by
  cases event with
  | perform op => cases op <;> rfl
  | call d seed => cases seed <;> exact Task.frame_enter _ w.isFetching now d _
  | proceed i =>
      simp only [step, updateTask, offered]
      cases w.tasks[i]? with
      | none => rfl
      | some task => exact Task.frame_proceed w.client w.isFetching now task
  | refresh => exact Client.frame_startRefresh w.client
  | reply i reply =>
      simp only [step, updateTask, offered]
      cases w.tasks[i]? with
      | none => rfl
      | some task => exact Task.frame_resume w.client now reply task
  | drop i =>
      simp only [step, updateTask, offered]
      cases w.tasks[i]? with
      | none => rfl
      | some task => exact Task.frame_drop w.client task
  | wake id =>
      simp only [step, updateLoop, offered]
      cases w.loop? id with
      | none => rfl
      | some l => exact Client.frame_rouseLoop w.client now l
  | loopReply id reply =>
      simp only [step, updateLoop, offered]
      cases w.loop? id with
      | none => rfl
      | some l => exact Client.frame_resumeLoop w.client now l reply

theorem settings_step (w : Workload) (now : Nat) (event : Event) :
    (w.step now event).client.settings = w.client.settings :=
  congrArg Prod.fst (frame_step w now event)

theorem topology_step (w : Workload) (now : Nat) (event : Event) :
    (w.step now event).client.topology = w.client.topology.heldAfter (w.offered event) :=
  congrArg Prod.snd (frame_step w now event)

theorem settings_run (w : Workload) (events : Run) :
    (w.run events).client.settings = w.client.settings := by
  induction events generalizing w with
  | nil => rfl
  | cons event rest ih => exact (ih _).trans (settings_step w event.1 event.2)

end Workload

end ClusterClient
