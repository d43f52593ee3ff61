import ClusterClient.Proofs.CallSearch
import ClusterClient.Proofs.Retention

namespace ClusterClient

def Cache.after (c : Cache) (now : Nat) (ops : List Cache.Operation) : Cache :=
  c.replay (ops.map (now, ·))

theorem Cache.after_append (c : Cache) (now : Nat) (first second : List Cache.Operation) :
    c.after now (first ++ second) = (c.after now first).after now second := by
  simp [after, replay]

namespace Client

def lookups (c : Client) (d : Descriptor) : List Cache.Operation :=
  (c.cacheKey d).toList.map .get

theorem route_eq (c : Client) (now : Nat) (d : Descriptor) (seed : UInt64) (claimed : Bool) :
    c.route now d seed claimed =
      let c' : Client :=
        { c with ids := (c.ids.tag d).2, cache := c.cache.after now (c.lookups d) }
      match c.selector.select c.topology d.isRead seed with
      | .error fault => (c', .done (.error fault))
      | .ok order =>
          c'.tryNext now (c.callAt now d) { Attempts.start c.topology order with claimed } := by
  unfold route callAt lookups cacheKey
  cases cacheable : c.settings.cacheEnabled && d.isCacheable with
  | true =>
      cases selected : c.selector.select c.topology d.isRead seed with
      | error fault =>
          simp only [selected, cacheable, if_true]
          rfl
      | ok order =>
          simp only [selected, cacheable, if_true]
          rfl
  | false =>
      cases selected : c.selector.select c.topology d.isRead seed with
      | error fault =>
          simp only [selected, cacheable, Bool.false_eq_true, if_false]
          rfl
      | ok order =>
          simp only [selected, cacheable, Bool.false_eq_true, if_false]
          rfl

theorem cache_signalIf (c : Client) (due : Bool) (a : Attempts) :
    (c.signalIf due a).1.cache = c.cache :=
  (follows_signalIf c due a).cache

theorem cache_tryNext (c : Client) (now : Nat) (call : Call) (a : Attempts) :
    (c.tryNext now call a).1.cache = c.cache := by
  rcases c.tryNext_cases now call a with ⟨_, _, _, -, next⟩ | next | ⟨_, -, -, next⟩
  · rw [next]
  · rw [next]
    exact cache_signalIf c true a
  · rw [next]

theorem cache_route (c : Client) (now : Nat) (d : Descriptor) (seed : UInt64) (claimed : Bool) :
    (c.route now d seed claimed).1.cache = c.cache.after now (c.lookups d) := by
  rw [route_eq]
  cases c.selector.select c.topology d.isRead seed with
  | error fault => rfl
  | ok order => exact cache_tryNext _ now _ _

theorem isFetching_tryNext (c : Client) (now : Nat) (call : Call) (a : Attempts) :
    (c.tryNext now call a).2.isFetching = false := by
  rcases c.tryNext_cases now call a with ⟨_, _, _, -, next⟩ | next | ⟨_, -, -, next⟩
  all_goals rw [next]; rfl

theorem isFetching_route (c : Client) (now : Nat) (d : Descriptor) (seed : UInt64)
    (claimed : Bool) : (c.route now d seed claimed).2.isFetching = false := by
  rw [route_eq]
  cases c.selector.select c.topology d.isRead seed with
  | error fault => rfl
  | ok order => exact isFetching_tryNext _ now _ _

def startUse (c : Client) (now : Nat) (d : Descriptor) (seed : UInt64) : List Cache.Operation :=
  if (d.scope = .database ∧ c.database? = none) ∨ (c.startCall now d seed).2.isFetching = true
  then [] else c.lookups d

theorem lookups_congr {c c' : Client} {signals : Nat} (follows : c.Follows c' signals)
    (d : Descriptor) : c'.lookups d = c.lookups d := by
  rw [lookups, cacheKey_congr follows.settings, lookups]

theorem cache_startCall (c : Client) (now : Nat) (d : Descriptor) (seed : UInt64) :
    (c.startCall now d seed).1.cache = c.cache.after now (c.startUse now d seed) := by
  unfold startUse
  by_cases rejected : d.scope = .database ∧ c.database? = none
  · rw [if_pos (.inl rejected), startCall, if_pos rejected]
    rfl
  · rcases c.startCall_inScope now seed rejected with
      ⟨c', request, r, next, -, -, follows⟩ | ⟨c', next, follows, -⟩
    · rw [next, if_pos (.inr rfl)]
      exact follows.cache
    · rw [next, if_neg (by simp [rejected, isFetching_route]), cache_route, follows.cache,
        lookups_congr follows]

def storing (a : Attempt) (response : Http.Response) : List Cache.Operation :=
  match a.call.key, response.etag? with
  | some key, some validator => [.put key validator response.body]
  | some key, none => [.remove key]
  | none, _ => []

def stales (c : Client) (d : Descriptor) : List Cache.Operation :=
  if d.isRead then [] else [.invalidate (c.databaseFor d) d.staleStem]

def responseUse (c : Client) (a : Attempt) (response : Http.Response) : List Cache.Operation :=
  match c.settings.statuses.classify a.call.descriptor response with
  | .success =>
      if response.isNotModified then [] else storing a response ++ c.stales a.call.descriptor
  | .notFound =>
      if a.call.descriptor.isRead && !a.call.descriptor.requireExistence then
        a.call.key.toList.map .remove
      else []
  | .failed _ => []

theorem responseUse_success {response : Http.Response} (success : response.isSuccess = true)
    (c : Client) (a : Attempt) :
    c.responseUse a response = storing a response ++ c.stales a.call.descriptor := by
  have disposition := classify_of_success c.settings.statuses a.call.descriptor success
  simp [responseUse, disposition, Http.Response.isNotModified_of_success success]

theorem responseUse_failure {response : Http.Response} (failure : response.isSuccess = false)
    (c : Client) (a : Attempt) :
    c.responseUse a response = [] ∨
      a.call.descriptor.isRead = true ∧
        c.responseUse a response = a.call.key.toList.map .remove := by
  unfold responseUse
  cases disposition : c.settings.statuses.classify a.call.descriptor response with
  | success =>
      have confirmed := (classify_success disposition).resolve_left (by simp [failure])
      simp [confirmed]
  | notFound =>
      cases isRead : a.call.descriptor.isRead with
      | false => simp
      | true => cases a.call.descriptor.requireExistence <;> simp
  | failed setback => exact .inl rfl

def replyUse (c : Client) (now : Nat) (reply : Http.Reply) :
    Call.Suspended → List Cache.Operation
  | .bootstrapping d seed r =>
      if (c.resumeCall now (.bootstrapping d seed r) reply).2.isFetching then [] else c.lookups d
  | .attempting a => reply.toOption.elim [] (c.responseUse a)

theorem cache_onSuccess (c : Client) (now : Nat) (a : Attempt) (response : Http.Response) :
    (c.onSuccess now a response).1.cache = c.cache.after now
      (if response.isNotModified then []
      else storing a response ++ c.stales a.call.descriptor) := by
  unfold onSuccess
  by_cases confirmed : response.isNotModified = true
  · rw [if_pos confirmed, if_pos confirmed]
    cases a.call.cached <;> rfl
  · rw [if_neg confirmed, if_neg confirmed, Cache.after_append]
    unfold storing stales
    cases a.call.key <;> cases response.etag? <;> cases a.call.descriptor.isRead <;> rfl

theorem cache_onNotFound (c : Client) (now : Nat) (a : Attempt) :
    (c.onNotFound a).1.cache = c.cache.after now
      (if a.call.descriptor.isRead && !a.call.descriptor.requireExistence then
        a.call.key.toList.map .remove
      else []) := by
  unfold onNotFound
  dsimp only
  split
  · cases a.call.key <;> rfl
  · rfl

theorem cache_onSetback (c : Client) (now : Nat) (a : Attempt) (setback : Setback) :
    (c.onSetback now a setback).1.cache = c.cache := by
  cases setback with
  | terminal fault => rfl
  | retry fault refresh =>
      obtain ⟨c', next, follows⟩ := c.onSetback_retry now a fault refresh
      rw [next, cache_tryNext]
      exact follows.cache

theorem cache_onResponse (c : Client) (now : Nat) (a : Attempt) (response : Http.Response) :
    (c.onResponse now a response).1.cache = c.cache.after now (c.responseUse a response) := by
  have follows := follows_signalIf c response.asksRefresh a.attempts
  let signalled := (c.signalIf response.asksRefresh a.attempts).1
  have scope (d : Descriptor) : signalled.stales d = c.stales d := by
    rw [stales, databaseFor_congr follows.settings, stales]
  simp only [onResponse, responseUse, settings_signalIf, signalIf_attempts]
  cases c.settings.statuses.classify a.call.descriptor response with
  | success =>
      rw [← scope, ← cache_signalIf c response.asksRefresh a.attempts]
      exact cache_onSuccess (signalled.modifyStats _) now _ response
  | notFound =>
      rw [← cache_signalIf c response.asksRefresh a.attempts]
      exact cache_onNotFound signalled now { a with attempts := _ }
  | failed setback => exact (cache_onSetback signalled now _ setback).trans follows.cache

theorem cache_resumeCall (c : Client) (now : Nat) (waiting : Call.Suspended) (reply : Http.Reply) :
    (c.resumeCall now waiting reply).1.cache =
      c.cache.after now (c.replyUse now reply waiting) := by
  cases waiting with
  | bootstrapping d seed r =>
      simp only [replyUse]
      rcases c.resumeCall_bootstrapping now d seed r reply with
        ⟨c', request, r', next, -, follows⟩ | ⟨c', next, follows⟩
      · rw [next]
        exact follows.cache
      · rw [next, isFetching_route, cache_route, follows.cache, lookups_congr follows]
        rfl
  | attempting a =>
      cases reply with
      | error cause => exact cache_onSetback c now a _
      | ok response => exact cache_onResponse c now a response

def wakeUse (c : Client) (now : Nat) (l : Loop) : List Cache.Operation :=
  if l.refresh.isNone && (c.wake? now l == some .tick) && l.evicts then [.evict] else []

theorem cache_setRefresh (c : Client) (id : Nat) (r : Option Refresh) :
    (c.setRefresh id r).cache = c.cache := rfl

theorem cache_rouseLoop (c : Client) (now : Nat) (l : Loop) :
    (c.rouseLoop now l).cache = c.cache.after now (c.wakeUse now l) := by
  have woken (wake : Loop.Wake) : (c.wakeLoop now l wake).1.cache =
      c.cache.after now (if (wake == .tick) && l.evicts then [.evict] else []) := by
    cases wake with
    | stop => rfl
    | signal => exact (follows_startRefresh _).cache
    | tick =>
        simp only [wakeLoop, (follows_startRefresh _).cache]
        cases l.evicts <;> rfl
  unfold rouseLoop wakeUse
  cases l.refresh with
  | some r => rfl
  | none =>
      cases due : c.wake? now l with
      | none => rfl
      | some wake =>
          have next := woken wake
          dsimp only
          split
          · rename_i eq
            rw [eq] at next
            exact next
          · rename_i eq
            rw [eq] at next
            exact next

theorem cache_resumeLoop (c : Client) (now : Nat) (l : Loop) (reply : Http.Reply) :
    (c.resumeLoop now l reply).cache = c.cache := by
  unfold resumeLoop
  cases l.refresh with
  | none => rfl
  | some r =>
      have fetched := (follows_resumeRefresh c now r reply).cache
      dsimp only
      split <;> simp_all [cache_setRefresh]

end Client

namespace Task

def enterUse (c : Client) (fetching : Bool) (now : Nat) (d : Descriptor) (seed : UInt64) :
    List Cache.Operation :=
  if fetching ∧ c.Opens d then [] else c.startUse now d seed

theorem cache_enter (c : Client) (fetching : Bool) (now : Nat) (d : Descriptor) (seed : UInt64) :
    (enter c fetching now d seed).1.cache =
      c.cache.after now (enterUse c fetching now d seed) := by
  rcases enter_cases c fetching now d seed with ⟨waits, entered⟩ | ⟨other, entered⟩
  · rw [entered, enterUse, if_pos waits]
    rfl
  · rw [entered, enterUse, if_neg other]
    exact Client.cache_startCall c now d seed

def proceedUse (c : Client) (fetching : Bool) (now : Nat) : Task → List Cache.Operation
  | .queued d seed => enterUse c fetching now d seed
  | _ => []

theorem cache_proceed (c : Client) (fetching : Bool) (now : Nat) (task : Task) :
    (proceed c fetching now task).1.cache =
      c.cache.after now (proceedUse c fetching now task) := by
  cases task with
  | queued d seed => exact cache_enter c fetching now d seed
  | _ => rfl

end Task

namespace Workload

def uses (w : Workload) (now : Nat) : Event → List Cache.Operation
  | .perform (.cache op) => [op]
  | .call d seed =>
      let (client, seed) := w.client.seedFor seed
      Task.enterUse client w.isFetching now d seed
  | .proceed i => (w.tasks[i]?).elim [] (Task.proceedUse w.client w.isFetching now)
  | .reply i reply =>
      match w.tasks[i]? with
      | some (.call (.asking _ waiting)) => w.client.replyUse now reply waiting
      | _ => []
  | .wake id => (w.loop? id).elim [] (w.client.wakeUse now)
  | _ => []

theorem cache_step (w : Workload) (now : Nat) (event : Event) :
    (w.step now event).client.cache = w.client.cache.after now (w.uses now event) := by
  cases event with
  | perform op => cases op <;> rfl
  | call d seed =>
      have drawn : (w.client.seedFor seed).1.cache = w.client.cache := by cases seed <;> rfl
      have entered := Task.cache_enter (w.client.seedFor seed).1 w.isFetching now d
        (w.client.seedFor seed).2
      rwa [drawn] at entered
  | proceed i =>
      simp only [step, updateTask, uses]
      cases w.tasks[i]? with
      | none => rfl
      | some task => exact Task.cache_proceed w.client w.isFetching now task
  | refresh => exact (Client.follows_startRefresh w.client).cache
  | reply i reply =>
      simp only [step, updateTask, uses]
      cases w.tasks[i]? with
      | none => rfl
      | some task =>
          cases task with
          | call progress =>
              cases progress with
              | asking request waiting => exact Client.cache_resumeCall w.client now waiting reply
              | done outcome => rfl
          | refresh progress =>
              cases progress with
              | asking request r => exact (Client.follows_resumeRefresh w.client now r reply).cache
              | done outcome => rfl
          | queued d seed => rfl
          | dropped => rfl
  | drop i =>
      simp only [step, updateTask, uses]
      cases w.tasks[i]? with
      | none => rfl
      | some task =>
          cases task with
          | call progress =>
              cases progress with
              | asking request waiting => cases waiting <;> rfl
              | done outcome => rfl
          | refresh progress => cases progress <;> rfl
          | queued d seed => rfl
          | dropped => rfl
  | wake id =>
      simp only [step, updateLoop, uses]
      cases w.loop? id with
      | none => rfl
      | some l => exact Client.cache_rouseLoop w.client now l
  | loopReply id reply =>
      simp only [step, updateLoop, uses]
      cases w.loop? id with
      | none => rfl
      | some l => exact Client.cache_resumeLoop w.client now l reply

def cacheUse (w : Workload) : Run → Cache.History
  | [] => []
  | event :: rest =>
      (w.uses event.1 event.2).map (event.1, ·) ++ (w.step event.1 event.2).cacheUse rest

theorem cache_run (w : Workload) (events : Run) :
    (w.run events).client.cache = w.client.cache.replay (w.cacheUse events) := by
  induction events generalizing w with
  | nil => rfl
  | cons event rest ih =>
      have next := ih (w.step event.1 event.2)
      rw [cache_step] at next
      rw [cacheUse, Cache.replay, List.foldl_append]
      exact next

end Workload

end ClusterClient
