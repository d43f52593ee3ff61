import ClusterClient.Proofs.Tasks

/-!
# Cached payloads decide nothing

Two workloads that differ in nothing but cached payloads go on alike: the same requests are sent,
the same calls end, and their results are the same unless they are such payloads themselves.
-/

namespace ClusterClient

namespace Cache

def Entry.bare (e : Entry) : Entry := { e with payload := [] }

def bare (c : Cache) : Cache := { c with entries := c.entries.map fun e => (e.1, e.2.bare) }

@[simp] theorem bare_bare (c : Cache) : c.bare.bare = c.bare := by
  simp [bare, Entry.bare]

theorem find?_bare (c : Cache) (key : Key) : c.bare.find? key = (c.find? key).map Entry.bare := by
  simp [find?, bare, List.find?_map, Function.comp_def]

theorem keep_bare (c : Cache) {p : Key × Entry → Bool} (blind : ∀ e, p (e.1, e.2.bare) = p e) :
    c.bare.keep p = (c.keep p).bare := by
  have same : p ∘ (fun e => (e.1, e.2.bare)) = p := funext blind
  simp [keep, bare, List.filter_map, same]

theorem erase_bare (c : Cache) (key : Key) : c.bare.erase key = (c.erase key).bare :=
  keep_bare c fun _ => rfl

theorem sweep_bare (c : Cache) (now : Nat) : c.bare.sweep now = (c.sweep now).bare := by
  have kept := keep_bare c (p := (·.2.isFresh c.maxAge now)) fun _ => rfl
  simp only [sweep]
  rw [show c.bare.maxAge = c.maxAge from rfl, kept]
  rfl

theorem get_bare (c : Cache) (now : Nat) (key : Key) :
    c.bare.get now key = ((c.get now key).1.bare, (c.get now key).2.map Entry.bare) := by
  unfold get
  rw [find?_bare]
  cases c.find? key with
  | none => rfl
  | some e =>
      have fresh : e.bare.isFresh c.bare.maxAge now = e.isFresh c.maxAge now := rfl
      simp only [Option.map_some, fresh]
      split
      · rfl
      · rw [erase_bare]
        rfl

theorem insert_bare (c : Cache) (key : Key) (entry : Entry) :
    (c.bare.insert key entry).bare = (c.insert key entry).bare := by
  unfold insert
  rw [erase_bare]
  simp [bare, Entry.bare]

theorem perform_bare (c : Cache) (now : Nat) (op : Operation) :
    (c.bare.perform now op).1.bare = (c.perform now op).1.bare := by
  cases op with
  | put key validator payload =>
      have swept : (if now - c.bare.lastSweep < c.bare.maxAge then c.bare else c.bare.sweep now) =
          (if now - c.lastSweep < c.maxAge then c else c.sweep now).bare := by
        rw [sweep_bare, apply_ite bare]
        rfl
      simp only [perform, put]
      rw [swept]
      exact insert_bare _ key _
  | get key =>
      simp only [perform]
      rw [get_bare, bare_bare]
  | remove key =>
      simp only [perform, remove]
      rw [erase_bare, bare_bare]
  | invalidate database stem =>
      simp only [perform, invalidate, counting]
      rw [keep_bare c fun _ => rfl, bare_bare]
  | evict =>
      simp only [perform, evictExpired, counting]
      rw [sweep_bare, bare_bare]
  | clear => rfl

theorem after_bare (c : Cache) (now : Nat) (ops : List Operation) :
    (c.bare.after now ops).bare = (c.after now ops).bare := by
  induction ops generalizing c with
  | nil => exact bare_bare c
  | cons op rest ih =>
      have next := ih (c.bare.perform now op).1
      rw [perform_bare, ih] at next
      exact next.symm

end Cache

def Client.bare (c : Client) : Client := { c with cache := c.cache.bare }

def Call.bare (call : Call) : Call := { call with cached := call.cached.map Cache.Entry.bare }

def Attempt.bare (a : Attempt) : Attempt := { a with call := a.call.bare }

def Execution.bare (e : Execution) : Execution :=
  if e.fromCache then { e with payload := none } else e

namespace Call

def Suspended.bare : Suspended → Suspended
  | .bootstrapping d seed r => .bootstrapping d seed r
  | .attempting a => .attempting a.bare

def Progress.bare : Progress → Progress
  | .asking request waiting => .asking request waiting.bare
  | .done outcome => .done (outcome.map Execution.bare)

end Call

def Task.bare : Task → Task
  | .call progress => .call progress.bare
  | task => task

def Workload.bare (w : Workload) : Workload := ⟨w.client.bare, w.tasks.map Task.bare⟩

theorem Execution.bare_of_not_fromCache {e : Execution} (own : e.fromCache = false) :
    e.bare = e := by
  simp [bare, own]

theorem Execution.fromCache_bare (e : Execution) : e.bare.fromCache = e.fromCache := by
  unfold bare
  split <;> rfl

theorem Execution.map_bare_inj {outcome outcome' : Except Fault Execution}
    (own : ∀ execution, outcome = .ok execution → execution.fromCache = false)
    (alike : outcome'.map bare = outcome.map bare) : outcome' = outcome := by
  cases outcome' with
  | error fault =>
      cases outcome with
      | error fault' =>
          cases alike
          rfl
      | ok execution => cases alike
  | ok execution' =>
      cases outcome with
      | error fault => cases alike
      | ok execution =>
          have plain := own execution rfl
          have same : execution'.bare = execution.bare := Except.ok.inj alike
          have plain' : execution'.fromCache = false := by
            rw [← fromCache_bare, same, fromCache_bare, plain]
          rw [bare_of_not_fromCache plain, bare_of_not_fromCache plain'] at same
          rw [same]

theorem Execution.bare_bare (e : Execution) : e.bare.bare = e.bare := by
  unfold bare
  cases cached : e.fromCache <;> simp [cached]

theorem Attempt.bare_bare (a : Attempt) : a.bare.bare = a.bare := by
  cases cached : a.call.cached <;> simp [bare, Call.bare, cached, Cache.Entry.bare]

theorem Call.Progress.bare_bare (progress : Progress) : progress.bare.bare = progress.bare := by
  cases progress with
  | asking request waiting =>
      cases waiting with
      | bootstrapping d seed r => rfl
      | attempting a => simp only [Progress.bare, Suspended.bare, Attempt.bare_bare]
  | done outcome =>
      cases outcome with
      | error fault => rfl
      | ok execution => simp only [Progress.bare, Except.map, Execution.bare_bare]

theorem Task.bare_bare (task : Task) : task.bare.bare = task.bare := by
  cases task with
  | call progress => exact congrArg Task.call progress.bare_bare
  | queued d seed => rfl
  | refresh progress => rfl
  | dropped => rfl

theorem Task.map_bare_bare (tasks : List Task) :
    (tasks.map Task.bare).map Task.bare = tasks.map Task.bare := by
  simp [Task.bare_bare]

namespace Client

@[simp] theorem bare_bare (c : Client) : c.bare.bare = c.bare := by
  simp [bare]

def stripped (step : Client × Call.Progress) : Client × Call.Progress := (step.1.bare, step.2.bare)

theorem stripped_stripped (step : Client × Call.Progress) :
    stripped (stripped step) = stripped step := by
  simp only [stripped, bare_bare, Call.Progress.bare_bare]

@[simp] theorem signalIf_bare (c : Client) (due : Bool) (a : Attempts) :
    c.bare.signalIf due a = ((c.signalIf due a).1.bare, (c.signalIf due a).2) := by
  unfold signalIf
  cases due with
  | true => cases claimed : a.claimed <;> rfl
  | false => rfl

theorem request_bare (c : Client) (call : Call) (etag : Int64) (node : Node) :
    c.bare.request call.bare etag node = c.request call etag node := by
  have validator : call.bare.cached.map (·.validator) = call.cached.map (·.validator) := by
    simp [Call.bare, Function.comp_def, Cache.Entry.bare]
  unfold request requestHeaders
  rw [validator]
  rfl

theorem tryNext_bare (c : Client) (now : Nat) (call : Call) (a : Attempts) :
    c.bare.tryNext now call.bare a = stripped (c.tryNext now call a) := by
  unfold tryNext
  split
  · split
    · rw [request_bare]
      rfl
    · rfl
  · rw [signalIf_bare]
    rfl

theorem route_bare (c : Client) (now : Nat) (d : Descriptor) (seed : UInt64) (claimed : Bool) :
    c.bare.route now d seed claimed = stripped (c.route now d seed claimed) := by
  have keyed : c.bare.cacheKey d = c.cacheKey d := rfl
  have same : c.bare.lookups d = c.lookups d := rfl
  have looked : c.bare.cache.after now (c.lookups d) = (c.cache.after now (c.lookups d)).bare := by
    unfold lookups
    cases c.cacheKey d with
    | none => rfl
    | some key => exact congrArg Prod.fst (Cache.get_bare c.cache now key)
  have call : c.bare.callAt now d = (c.callAt now d).bare := by
    have found (key : Cache.Key) : (c.bare.cache.get now key).2 =
        (c.cache.get now key).2.map Cache.Entry.bare :=
      congrArg Prod.snd (Cache.get_bare c.cache now key)
    unfold callAt
    rw [keyed]
    cases c.cacheKey d with
    | none => rfl
    | some key =>
        simp only [Option.bind_some, found]
        rfl
  have selected : c.bare.selector.select c.bare.topology d.isRead seed =
      c.selector.select c.topology d.isRead seed := rfl
  rw [route_eq, route_eq, same, looked, call, selected]
  cases c.selector.select c.topology d.isRead seed with
  | error fault => rfl
  | ok order =>
      exact tryNext_bare
        { c with ids := (c.ids.tag d).2, cache := c.cache.after now (c.lookups d) } now
        (c.callAt now d) { Attempts.start c.topology order with claimed }

theorem finishBootstrap_bare (c : Client) (now : Nat) (d : Descriptor) (seed : UInt64)
    (claimed : Bool) :
    c.bare.finishBootstrap now d seed claimed =
      stripped (c.finishBootstrap now d seed claimed) := by
  let booted : Client := { c with isBootstrapped := true }
  exact route_bare (booted.startLoop now c.settings.refreshInterval c.settings.cacheEnabled) now d
    seed claimed

theorem askNext_bare (c : Client) (snapshot : Topology) (places : List Node)
    (failures : List NodeFailure) :
    c.bare.askNext snapshot places failures =
      ((c.askNext snapshot places failures).1.bare, (c.askNext snapshot places failures).2) := by
  cases places <;> rfl

theorem startRefresh_bare (c : Client) :
    c.bare.startRefresh = (c.startRefresh.1.bare, c.startRefresh.2) := by
  let counted := c.modifyWatch fun w => { w with inFlight := w.inFlight + 1 }
  exact askNext_bare counted c.topology (c.refreshTargets c.topology) []

theorem resumeRefresh_bare (c : Client) (now : Nat) (r : Refresh) (reply : Http.Reply) :
    c.bare.resumeRefresh now r reply =
      ((c.resumeRefresh now r reply).1.bare, (c.resumeRefresh now r reply).2) := by
  have fetched : c.bare.fetched r.asked reply = c.fetched r.asked reply := rfl
  unfold resumeRefresh
  rw [fetched]
  cases c.fetched r.asked reply with
  | ok t => rfl
  | error fault => exact askNext_bare c _ _ _

theorem startCall_bare (c : Client) (now : Nat) (d : Descriptor) (seed : UInt64) :
    c.bare.startCall now d seed = stripped (c.startCall now d seed) := by
  have database : c.bare.database? = c.database? := rfl
  have settings : c.bare.settings = c.settings := rfl
  have booted : c.bare.isBootstrapped = c.isBootstrapped := rfl
  have topology : c.bare.topology = c.topology := rfl
  unfold startCall
  rw [database, settings, booted, topology, startRefresh_bare]
  split
  · rfl
  · split
    · exact route_bare c now d seed false
    · split
      · rcases c.startRefresh with ⟨c', progress⟩
        cases progress with
        | asking request r => rfl
        | done outcome => exact finishBootstrap_bare c' now d seed true
      · exact finishBootstrap_bare c now d seed false

theorem onSetback_bare (c : Client) (now : Nat) (a : Attempt) (setback : Setback) :
    c.bare.onSetback now a.bare setback = stripped (c.onSetback now a setback) := by
  cases setback with
  | terminal fault => rfl
  | retry fault refresh =>
      let booked := c.modifyStats (·.recordFailure a.node.url)
      have signalled := signalIf_bare booked refresh (a.attempts.recordFailure a.index fault)
      have next := tryNext_bare (booked.signalIf refresh (a.attempts.recordFailure a.index fault)).1
        now a.call (booked.signalIf refresh (a.attempts.recordFailure a.index fault)).2
      simp only [onSetback]
      rw [← next]
      exact congrArg (fun p : Client × Attempts => p.1.tryNext now a.call.bare p.2) signalled

theorem onSuccess_bare (c : Client) (now : Nat) (a : Attempt) (response : Http.Response) :
    (c.bare.onSuccess now a.bare response).1.bare = (c.onSuccess now a response).1.bare ∧
      (c.bare.onSuccess now a.bare response).2.bare = (c.onSuccess now a response).2.bare := by
  constructor
  · have shape (c : Client) (a : Attempt) : (c.onSuccess now a response).1 =
        { c with cache := (c.onSuccess now a response).1.cache } := by
      unfold onSuccess
      dsimp only
      split
      · split <;> rfl
      · rfl
    rw [shape, shape c a, cache_onSuccess, cache_onSuccess]
    exact congrArg (fun cache => { c with cache }) (Cache.after_bare c.cache now _)
  · unfold onSuccess
    dsimp only
    split
    · cases cached : a.call.cached with
      | none => simp [Attempt.bare, Call.bare, cached]
      | some entry => simp [Attempt.bare, Call.bare, cached, Execution.bare]
    · rfl

theorem onNotFound_bare (c : Client) (a : Attempt) :
    c.bare.onNotFound a.bare = ((c.onNotFound a).1.bare, (c.onNotFound a).2) := by
  have key : a.bare.call.key = a.call.key := rfl
  have descriptor : a.bare.call.descriptor = a.call.descriptor := rfl
  unfold onNotFound
  dsimp only
  rw [descriptor, key]
  split
  · cases a.call.key with
    | none => rfl
    | some key =>
        have erased := Cache.erase_bare c.cache key
        simp only [Cache.remove, bare, erased]
        rfl
  · rfl

theorem onResponse_bare (c : Client) (now : Nat) (a : Attempt) (response : Http.Response) :
    stripped (c.bare.onResponse now a.bare response) = stripped (c.onResponse now a response) := by
  let signalled := c.signalIf response.asksRefresh a.attempts
  have signals : c.bare.signalIf response.asksRefresh a.bare.attempts =
      (signalled.1.bare, signalled.2) := signalIf_bare c response.asksRefresh a.attempts
  have settings : signalled.1.bare.settings = signalled.1.settings := rfl
  have descriptor : a.bare.call.descriptor = a.call.descriptor := rfl
  have attempt : { a.bare with attempts := signalled.2 } =
      { a with attempts := signalled.2 }.bare := rfl
  unfold onResponse
  rw [signals]
  simp only
  rw [settings, descriptor, attempt]
  cases signalled.1.settings.statuses.classify a.call.descriptor response with
  | success =>
      let latency := (now - a.sentAt) * nanosPerMilli
      let recorded := signalled.1.modifyStats (·.recordSuccess a.node.url latency)
      obtain ⟨client, execution⟩ :=
        onSuccess_bare recorded now { a with attempts := signalled.2 } response
      exact Prod.ext client (congrArg (fun e => Call.Progress.done (.ok e)) execution)
  | notFound =>
      have next := onNotFound_bare signalled.1 { a with attempts := signalled.2 }
      simp only
      rw [next]
      simp only [stripped, bare_bare]
      rfl
  | failed setback =>
      have next := onSetback_bare signalled.1 now { a with attempts := signalled.2 } setback
      simp only
      rw [next]
      exact stripped_stripped _

theorem resumeCall_bare (c : Client) (now : Nat) (waiting : Call.Suspended) (reply : Http.Reply) :
    stripped (c.bare.resumeCall now waiting.bare reply) =
      stripped (c.resumeCall now waiting reply) := by
  cases waiting with
  | bootstrapping d seed r =>
      simp only [Call.Suspended.bare, resumeCall, resumeRefresh_bare]
      rcases c.resumeRefresh now r reply with ⟨c', progress⟩
      cases progress with
      | asking request r' => simp only [stripped, bare_bare]
      | done outcome =>
          have finished := congrArg stripped (finishBootstrap_bare c' now d seed true)
          exact finished.trans (stripped_stripped _)
  | attempting a =>
      cases reply with
      | error cause =>
          have url : c.bare.requestUrl a.bare.call.descriptor a.bare.node =
              c.requestUrl a.call.descriptor a.node := rfl
          simp only [Call.Suspended.bare, resumeCall]
          rw [url, onSetback_bare, stripped_stripped]
      | ok response => exact onResponse_bare c now a response

end Client

namespace Client

theorem wakeLoop_bare (c : Client) (now : Nat) (l : Loop) (wake : Loop.Wake) :
    c.bare.wakeLoop now l wake = ((c.wakeLoop now l wake).1.bare, (c.wakeLoop now l wake).2) := by
  have started (c : Client) := congrArg (fun step : Client × Refresh.Progress =>
    (step.1, some step.2)) (startRefresh_bare c)
  cases wake with
  | stop => rfl
  | signal => exact started (c.modifyNotify (·.take l.id))
  | tick =>
      let moved :=
        (c.modifyNotify (·.leave l.id)).setLoop { l with nextTick := l.followingTick now }
      have tended : (if l.evicts then
            { moved.bare with cache := (moved.bare.cache.evictExpired now).1 } else moved.bare) =
          (if l.evicts then
            { moved with cache := (moved.cache.evictExpired now).1 } else moved).bare := by
        split
        · exact congrArg (fun cache => { moved with cache }) (Cache.sweep_bare c.cache now)
        · rfl
      have next := congrArg (fun c : Client => (c.startRefresh.1, some c.startRefresh.2)) tended
      exact next.trans (started _)

theorem rouseLoop_bare (c : Client) (now : Nat) (l : Loop) :
    c.bare.rouseLoop now l = (c.rouseLoop now l).bare := by
  have due : c.bare.wake? now l = c.wake? now l := rfl
  unfold rouseLoop
  rw [due]
  cases l.refresh with
  | some r => rfl
  | none =>
      cases c.wake? now l with
      | none => rfl
      | some wake =>
          simp only [wakeLoop_bare]
          rcases c.wakeLoop now l wake with ⟨c', progress⟩
          cases progress with
          | none => rfl
          | some progress => cases progress <;> rfl

theorem resumeLoop_bare (c : Client) (now : Nat) (l : Loop) (reply : Http.Reply) :
    c.bare.resumeLoop now l reply = (c.resumeLoop now l reply).bare := by
  unfold resumeLoop
  cases l.refresh with
  | none => rfl
  | some r =>
      simp only [resumeRefresh_bare]
      rcases c.resumeRefresh now r reply with ⟨c', progress⟩
      cases progress <;> rfl

theorem perform_bare (c : Client) (now : Nat) (op : Operation) :
    (c.bare.perform now op).1.bare = (c.perform now op).1.bare := by
  cases op with
  | cache op => exact congrArg (fun cache => { c with cache }) (Cache.perform_bare c.cache now op)
  | selector op => exact bare_bare { c with selector := (c.selector.perform c.topology op).1 }
  | offer t => exact bare_bare (c.offer t).1
  | requestRefresh => exact bare_bare c.requestRefresh
  | start interval evicts => exact bare_bare (c.startLoop now interval evicts)
  | close => exact bare_bare c.close
  | topology => exact bare_bare c
  | status => exact bare_bare c
  | summary => exact bare_bare c

end Client

namespace Task

theorem enter_bare (c : Client) (fetching : Bool) (now : Nat) (d : Descriptor) (seed : UInt64) :
    enter c.bare fetching now d seed =
      ((enter c fetching now d seed).1.bare, (enter c fetching now d seed).2.bare) := by
  have opens : c.bare.Opens d ↔ c.Opens d := by
    rw [Client.opens_iff, Client.opens_iff]
    rfl
  by_cases waits : fetching = true ∧ c.Opens d
  · have waits' : fetching = true ∧ c.bare.Opens d := by rwa [opens]
    rw [enter, enter, if_pos waits, if_pos waits']
    rfl
  · have other : ¬(fetching = true ∧ c.bare.Opens d) := by rwa [opens]
    rw [enter, enter, if_neg waits, if_neg other, Client.startCall_bare]
    rfl

theorem proceed_bare (c : Client) (fetching : Bool) (now : Nat) (task : Task) :
    (proceed c.bare fetching now task.bare).1.bare = (proceed c fetching now task).1.bare ∧
      (proceed c.bare fetching now task.bare).2.bare = (proceed c fetching now task).2.bare := by
  cases task with
  | queued d seed =>
      simp only [proceed, Task.bare, enter_bare]
      exact ⟨Client.bare_bare _, Task.bare_bare _⟩
  | call progress => exact ⟨c.bare_bare, (Task.call progress).bare_bare⟩
  | refresh progress => exact ⟨c.bare_bare, rfl⟩
  | dropped => exact ⟨c.bare_bare, rfl⟩

theorem resume_bare (c : Client) (now : Nat) (reply : Http.Reply) (task : Task) :
    (resume c.bare now reply task.bare).1.bare = (resume c now reply task).1.bare ∧
      (resume c.bare now reply task.bare).2.bare = (resume c now reply task).2.bare := by
  cases task with
  | call progress =>
      cases progress with
      | done outcome => exact ⟨c.bare_bare, (Task.call (.done outcome)).bare_bare⟩
      | asking request waiting =>
          have resumed := Client.resumeCall_bare c now waiting reply
          obtain ⟨client, progress⟩ := Prod.mk.inj resumed
          exact ⟨client, congrArg Task.call progress⟩
  | queued d seed => exact ⟨c.bare_bare, rfl⟩
  | refresh progress =>
      cases progress with
      | done outcome => exact ⟨c.bare_bare, rfl⟩
      | asking request r =>
          have resumed := Client.resumeRefresh_bare c now r reply
          simp only [resume, Task.bare, resumed, Client.bare_bare, and_self]
  | dropped => exact ⟨c.bare_bare, rfl⟩

theorem drop_bare (c : Client) (task : Task) :
    (drop c.bare task.bare).1.bare = (drop c task).1.bare ∧
      (drop c.bare task.bare).2.bare = (drop c task).2.bare := by
  cases task with
  | call progress =>
      cases progress with
      | done outcome => exact ⟨c.bare_bare, (Task.call (.done outcome)).bare_bare⟩
      | asking request waiting =>
          cases waiting with
          | bootstrapping d seed r => exact ⟨c.dropRefresh.bare_bare, rfl⟩
          | attempting a => exact ⟨c.bare_bare, rfl⟩
  | queued d seed => exact ⟨c.bare_bare, rfl⟩
  | refresh progress =>
      cases progress with
      | done outcome => exact ⟨c.bare_bare, rfl⟩
      | asking request r => exact ⟨c.dropRefresh.bare_bare, rfl⟩
  | dropped => exact ⟨c.bare_bare, rfl⟩

end Task

namespace Workload

theorem bare_bare (w : Workload) : w.bare.bare = w.bare := by
  simp only [bare, Client.bare_bare, Task.map_bare_bare]

theorem isFetching_bare (w : Workload) : w.bare.isFetching = w.isFetching := by
  have blind (task : Task) : task.bare.isBootstrapping = task.isBootstrapping := by
    rcases task with ⟨⟨request, waiting⟩ | outcome⟩ | _ | progress | _
    · cases waiting <;> rfl
    all_goals rfl
  simp only [isFetching, bare, List.any_map, Function.comp_def, blind]

theorem updateTask_bare {w : Workload} {i : Nat} {f g : Task → Client × Task}
    (alike : ∀ task, (f task.bare).1.bare = (g task).1.bare ∧
      (f task.bare).2.bare = (g task).2.bare) :
    (w.bare.updateTask i f).bare = (w.updateTask i g).bare := by
  have located : w.bare.tasks[i]? = w.tasks[i]?.map Task.bare := List.getElem?_map
  unfold updateTask
  rw [located]
  cases w.tasks[i]? with
  | none => exact bare_bare w
  | some task =>
      obtain ⟨client, task⟩ := alike task
      simp only [Option.map_some, bare, List.map_set, client, task, Task.map_bare_bare]

theorem updateLoop_bare {w : Workload} {id : Nat} {f g : Loop → Client}
    (alike : ∀ l, f l = (g l).bare) :
    (w.bare.updateLoop id f).bare = (w.updateLoop id g).bare := by
  have located : w.bare.loop? id = w.loop? id := rfl
  unfold updateLoop
  rw [located]
  cases w.loop? id with
  | none => exact bare_bare w
  | some l =>
      simp only [alike]
      exact bare_bare { w with client := g l }

theorem step_bare (w : Workload) (now : Nat) (event : Event) :
    (w.bare.step now event).bare = (w.step now event).bare := by
  have added (c : Client) (task : Task) :
      bare ⟨c.bare, w.bare.tasks ++ [task.bare]⟩ = bare ⟨c, w.tasks ++ [task]⟩ := by
    simp [bare, Task.bare_bare]
  cases event with
  | perform op =>
      have performed := Client.perform_bare w.client now op
      simp only [step, bare, performed, Task.map_bare_bare]
  | call d seed =>
      let c := (w.client.seedFor seed).1
      let entry := Task.enter c w.isFetching now d (w.client.seedFor seed).2
      have drawn : w.bare.client.seedFor seed = (c.bare, (w.client.seedFor seed).2) := by
        cases seed <;> rfl
      simp only [step, isFetching_bare, drawn, Task.enter_bare]
      exact added entry.1 entry.2
  | proceed i =>
      simp only [step, isFetching_bare]
      exact updateTask_bare (Task.proceed_bare w.client w.isFetching now)
  | refresh =>
      have client : w.bare.client = w.client.bare := rfl
      simp only [step]
      rw [client, Client.startRefresh_bare]
      exact added w.client.startRefresh.1 (.refresh w.client.startRefresh.2)
  | reply i reply => exact updateTask_bare (Task.resume_bare w.client now reply)
  | drop i => exact updateTask_bare (Task.drop_bare w.client)
  | wake id => exact updateLoop_bare (Client.rouseLoop_bare w.client now)
  | loopReply id reply => exact updateLoop_bare (Client.resumeLoop_bare w.client now · reply)

theorem run_bare (w : Workload) (events : Run) :
    (w.bare.run events).bare = (w.run events).bare := by
  induction events generalizing w with
  | nil => exact bare_bare w
  | cons event rest ih =>
      have next := ih (w.bare.step event.1 event.2)
      rw [step_bare, ih] at next
      exact next.symm

theorem run_alike {w w' : Workload} (alike : w'.bare = w.bare) (events : Run) :
    (w'.run events).bare = (w.run events).bare := by
  rw [← run_bare, alike, run_bare]

theorem outcome_alike {w w' : Workload} (alike : w'.bare = w.bare) {i : Nat}
    {outcome : Except Fault Execution} (ended : w.tasks[i]? = some (.call (.done outcome)))
    (own : ∀ execution, outcome = .ok execution → execution.fromCache = false) :
    w'.tasks[i]? = some (.call (.done outcome)) := by
  have located : w'.tasks[i]?.map Task.bare = w.tasks[i]?.map Task.bare := by
    rw [← List.getElem?_map, ← List.getElem?_map]
    exact congrArg (·.tasks[i]?) alike
  rw [ended] at located
  obtain ⟨task, found, eq⟩ := Option.map_eq_some_iff.1 located
  rw [found]
  rcases task with ⟨⟨request, waiting⟩ | outcome'⟩ | _ | progress | _
  · cases eq
  · rw [Task.bare, Task.bare, Task.call.injEq, Call.Progress.bare, Call.Progress.bare,
      Call.Progress.done.injEq] at eq
    rw [Execution.map_bare_inj own eq]
  · cases eq
  · cases eq
  · cases eq

end Workload

end ClusterClient
