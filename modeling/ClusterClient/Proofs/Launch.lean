import ClusterClient.Proofs.CacheUse
import ClusterClient.Proofs.Notices

namespace ClusterClient

namespace Refresh

def places (r : Refresh) : List Node := r.failures.map (·.1) ++ r.asked :: r.remaining

structure GoesOn (r : Refresh) (fault : Fault) (r' : Refresh) : Prop where
  snapshot : r'.snapshot = r.snapshot
  failures : r'.failures = r.failures ++ [(r.asked, fault)]
  remaining : r.remaining = r'.asked :: r'.remaining

theorem GoesOn.places {r r' : Refresh} {fault : Fault} (goesOn : r.GoesOn fault r') :
    r'.places = r.places := by
  simp [Refresh.places, goesOn.failures, goesOn.remaining]

end Refresh

namespace Call.Progress

def fetch? : Progress → Option Refresh
  | .asking _ (.bootstrapping _ _ r) => some r
  | _ => none

theorem isSome_fetch? (progress : Progress) : progress.fetch?.isSome = progress.isFetching := by
  cases progress with
  | done outcome => rfl
  | asking request waiting => cases waiting <;> rfl

end Call.Progress

namespace Client

def Notified (c c' : Client) : Prop :=
  ∃ k, c'.watch.requests = c.watch.requests + k ∧
    c'.watch.notify = Notify.notify^[k] c.watch.notify

/-- Whether `c'` is `c` after something that starts, takes up and ends no loop. It may signal. -/
structure Beside (c c' : Client) : Prop where
  settings : c'.settings = c.settings
  booted : c'.isBootstrapped = c.isBootstrapped
  active : c'.watch.active = c.watch.active
  started : c'.watch.started = c.watch.started
  loops : c'.watch.loops = c.watch.loops
  signals : c.Notified c'

variable {c c' c'' : Client}

theorem notified_of_eq (requests : c'.watch.requests = c.watch.requests)
    (notify : c'.watch.notify = c.watch.notify) : c.Notified c' := ⟨0, requests, notify⟩

theorem Notified.trans (first : c.Notified c') (second : c'.Notified c'') : c.Notified c'' := by
  obtain ⟨k, requests, notify⟩ := first
  obtain ⟨k', requests', notify'⟩ := second
  refine ⟨k' + k, ?_, ?_⟩
  · rw [requests', requests, Nat.add_assoc, Nat.add_comm k']
  · rw [notify', notify, Function.iterate_add_apply]

theorem Beside.silent (settings : c'.settings = c.settings)
    (booted : c'.isBootstrapped = c.isBootstrapped) (active : c'.watch.active = c.watch.active)
    (started : c'.watch.started = c.watch.started) (loops : c'.watch.loops = c.watch.loops)
    (requests : c'.watch.requests = c.watch.requests)
    (notify : c'.watch.notify = c.watch.notify) : c.Beside c' :=
  ⟨settings, booted, active, started, loops, notified_of_eq requests notify⟩

theorem Beside.refl (c : Client) : c.Beside c := .silent rfl rfl rfl rfl rfl rfl rfl

theorem Beside.trans (first : c.Beside c') (second : c'.Beside c'') : c.Beside c'' where
  settings := second.settings.trans first.settings
  booted := second.booted.trans first.booted
  active := second.active.trans first.active
  started := second.started.trans first.started
  loops := second.loops.trans first.loops
  signals := first.signals.trans second.signals

def books (c : Client) : Nat × Option Fault × Option Nat :=
  (c.watch.inFlight, c.watch.lastFault, c.watch.lastRefresh)

structure Aside (c c' : Client) : Prop extends c.Beside c' where
  books : c'.books = c.books

theorem Aside.refl (c : Client) : c.Aside c := ⟨.refl c, rfl⟩

theorem Aside.trans (first : c.Aside c') (second : c'.Aside c'') : c.Aside c'' :=
  ⟨first.toBeside.trans second.toBeside, second.books.trans first.books⟩

theorem aside_requestRefresh (c : Client) : c.Aside c.requestRefresh :=
  ⟨⟨rfl, rfl, rfl, rfl, rfl, 1, rfl, rfl⟩, rfl⟩

/-! ## Refreshes -/

theorem beside_askNext (c : Client) (snapshot : Topology) (places : List Node)
    (failures : List NodeFailure) : c.Beside (c.askNext snapshot places failures).1 := by
  cases places <;> exact .silent rfl rfl rfl rfl rfl rfl rfl

theorem beside_startRefresh (c : Client) : c.Beside c.startRefresh.1 := by
  have counted : c.Beside (c.modifyWatch fun w => { w with inFlight := w.inFlight + 1 }) :=
    .silent rfl rfl rfl rfl rfl rfl rfl
  exact counted.trans (beside_askNext _ c.topology (c.refreshTargets c.topology) [])

theorem beside_resumeRefresh (c : Client) (now : Nat) (r : Refresh) (reply : Http.Reply) :
    c.Beside (c.resumeRefresh now r reply).1 := by
  unfold resumeRefresh
  cases c.fetched r.asked reply with
  | ok t => exact .silent rfl rfl rfl rfl rfl rfl rfl
  | error fault => exact beside_askNext c _ _ _

theorem askNext_cons {c c' : Client} {snapshot : Topology} {places : List Node}
    {failures : List NodeFailure} {request : Http.Request} {r : Refresh}
    (asking : c.askNext snapshot places failures = (c', .asking request r)) :
    r.snapshot = snapshot ∧ r.failures = failures ∧ places = r.asked :: r.remaining := by
  cases places with
  | nil => cases asking
  | cons node rest =>
      cases asking
      exact ⟨rfl, rfl, rfl⟩

theorem askNext_nil {c c' : Client} {snapshot : Topology} {places : List Node}
    {failures : List NodeFailure} {outcome : Except Fault Bool}
    (done : c.askNext snapshot places failures = (c', .done outcome)) : places = [] := by
  cases places with
  | nil => rfl
  | cons node rest => cases done

def Settles (c : Client) (r : Refresh) (reply : Http.Reply) : Prop :=
  (∃ t, c.fetched r.asked reply = .ok t) ∨ r.remaining = []

theorem resumeRefresh_goesOn {now : Nat} {r r' : Refresh} {reply : Http.Reply}
    {request : Http.Request} (asking : c.resumeRefresh now r reply = (c', .asking request r')) :
    ∃ fault, c.fetched r.asked reply = .error fault ∧ r.GoesOn fault r' := by
  unfold resumeRefresh at asking
  cases fetched : c.fetched r.asked reply with
  | ok t =>
      rw [fetched] at asking
      cases asking
  | error fault =>
      rw [fetched] at asking
      obtain ⟨snapshot, failures, remaining⟩ := askNext_cons asking
      exact ⟨fault, rfl, snapshot, failures, remaining⟩

theorem resumeRefresh_settles {now : Nat} {r : Refresh} {reply : Http.Reply}
    {outcome : Except Fault Bool} (done : c.resumeRefresh now r reply = (c', .done outcome)) :
    c.Settles r reply := by
  unfold resumeRefresh at done
  cases fetched : c.fetched r.asked reply with
  | ok t => exact .inl ⟨t, fetched⟩
  | error fault =>
      rw [fetched] at done
      exact .inr (askNext_nil done)

/-! ## Calls under way -/

theorem aside_signalIf (c : Client) (due : Bool) (a : Attempts) :
    c.Aside (c.signalIf due a).1 := by
  unfold signalIf
  split
  · split
    · exact .refl c
    · exact aside_requestRefresh c
  · exact .refl c

theorem aside_tryNext (c : Client) (now : Nat) (call : Call) (a : Attempts) :
    c.Aside (c.tryNext now call a).1 := by
  rcases c.tryNext_cases now call a with ⟨_, _, _, -, next⟩ | next | ⟨_, -, -, next⟩
  · rw [next]
    exact .refl c
  · rw [next]
    exact aside_signalIf c true a
  · rw [next]
    exact .refl c

theorem aside_route (c : Client) (now : Nat) (d : Descriptor) (seed : UInt64) (claimed : Bool) :
    c.Aside (c.route now d seed claimed).1 := by
  let looked : Client :=
    { c with ids := (c.ids.tag d).2, cache := c.cache.after now (c.lookups d) }
  have booked : c.Aside looked := ⟨.silent rfl rfl rfl rfl rfl rfl rfl, rfl⟩
  rw [route_eq]
  cases c.selector.select c.topology d.isRead seed with
  | error fault => exact booked
  | ok order => exact booked.trans (aside_tryNext looked now _ _)

theorem aside_onSuccess (c : Client) (now : Nat) (a : Attempt) (response : Http.Response) :
    c.Aside (c.onSuccess now a response).1 := by
  unfold onSuccess
  dsimp only
  split
  · cases a.call.cached <;> exact .refl c
  · exact ⟨.silent rfl rfl rfl rfl rfl rfl rfl, rfl⟩

theorem aside_onNotFound (c : Client) (a : Attempt) : c.Aside (c.onNotFound a).1 := by
  unfold onNotFound
  dsimp only
  split
  · exact ⟨.silent rfl rfl rfl rfl rfl rfl rfl, rfl⟩
  · exact .refl c

theorem aside_onSetback (c : Client) (now : Nat) (a : Attempt) (setback : Setback) :
    c.Aside (c.onSetback now a setback).1 := by
  cases setback with
  | terminal fault => exact .refl c
  | retry fault refresh =>
      let booked := c.modifyStats (·.recordFailure a.node.url)
      let attempts := a.attempts.recordFailure a.index fault
      have counted : c.Aside booked := ⟨.silent rfl rfl rfl rfl rfl rfl rfl, rfl⟩
      have signalled := counted.trans (aside_signalIf booked refresh attempts)
      exact signalled.trans (aside_tryNext _ now a.call _)

theorem aside_onResponse (c : Client) (now : Nat) (a : Attempt) (response : Http.Response) :
    c.Aside (c.onResponse now a response).1 := by
  have signalled := aside_signalIf c response.asksRefresh a.attempts
  unfold onResponse
  dsimp only
  split
  · have counted (c : Client) (f : NodeStats → NodeStats) : c.Aside (c.modifyStats f) :=
      ⟨.silent rfl rfl rfl rfl rfl rfl rfl, rfl⟩
    exact signalled.trans ((counted _ _).trans (aside_onSuccess _ now _ response))
  · exact signalled.trans (aside_onNotFound _ _)
  · exact signalled.trans (aside_onSetback _ now _ _)

theorem aside_resumeCall (c : Client) (now : Nat) (a : Attempt) (reply : Http.Reply) :
    c.Aside (c.resumeCall now (.attempting a) reply).1 := by
  cases reply with
  | error cause => exact aside_onSetback c now a _
  | ok response => exact aside_onResponse c now a response

theorem fetch?_route (c : Client) (now : Nat) (d : Descriptor) (seed : UInt64) (claimed : Bool) :
    (c.route now d seed claimed).2.fetch? = none := by
  rw [← Option.not_isSome_iff_eq_none, Call.Progress.isSome_fetch?, isFetching_route]
  exact Bool.false_ne_true

theorem fetch?_resumeCall (c : Client) (now : Nat) (a : Attempt) (reply : Http.Reply) :
    (c.resumeCall now (.attempting a) reply).2.fetch? = none := by
  rw [← Option.not_isSome_iff_eq_none, Call.Progress.isSome_fetch?]
  cases judged : c.passFault? a.call.descriptor a.node reply with
  | some fault =>
      obtain ⟨c', next, -⟩ := resumeCall_passes c now a judged
      rw [next, isFetching_tryNext]
      exact Bool.false_ne_true
  | none =>
      obtain ⟨c', response, -, next, -⟩ := resumeCall_ends c now a judged
      rw [next]
      exact Bool.false_ne_true

theorem route_sends (held : c.topology.size ≠ 0) (now : Nat) (d : Descriptor) (seed : UInt64)
    (claimed : Bool) : ∃ request a,
      (c.route now d seed claimed).2 = .asking request (.attempting a) ∧
      a.attempts.topology = c.topology := by
  obtain ⟨order, selected, perm⟩ := Selector.select_perm (s := c.selector) held d.isRead seed
  have untried := Attempts.untried_start perm claimed
  rw [route_eq, selected]
  cases order with
  | nil =>
      have empty := perm.length_eq
      rw [List.length_nil, List.length_range] at empty
      exact absurd empty.symm held
  | cons i rest =>
      have known : i < c.topology.nodes.length := untried.known i List.mem_cons_self
      have located := List.getElem?_eq_getElem known
      dsimp only
      rw [tryNext_cons rfl (untried.fresh i List.mem_cons_self) located]
      exact ⟨_, _, rfl, rfl⟩

/-! ## The first use -/

theorem rejects_congr (same : c'.settings = c.settings) (d : Descriptor) :
    c'.Rejects d ↔ c.Rejects d := by
  rw [Rejects, Rejects, database?, database?, same]

def boot (c : Client) (now : Nat) : Client :=
  { c with isBootstrapped := true }.startLoop now c.settings.refreshInterval
    c.settings.cacheEnabled

theorem startCall_rejected {d : Descriptor} (rejected : c.Rejects d) (now : Nat) (seed : UInt64) :
    c.startCall now d seed = (c, .done (.error (.config (.noDatabase d.route)))) :=
  if_pos rejected

theorem startCall_routes {d : Descriptor} (accepted : ¬c.Rejects d) (other : ¬c.Opens d)
    (now : Nat) (seed : UInt64) : c.startCall now d seed = c.route now d seed false := by
  have inScope : ¬(d.scope = .database ∧ c.database? = none) := accepted
  have used : (!c.settings.topologyUpdates || c.isBootstrapped) = true := by
    cases updates : c.settings.topologyUpdates with
    | false => rfl
    | true =>
        cases booted : c.isBootstrapped with
        | false => exact absurd ⟨accepted, updates, booted⟩ other
        | true => rfl
  unfold startCall
  rw [if_neg inScope, if_pos used]

def fetchOn (now : Nat) (d : Descriptor) (seed : UInt64) :
    Client × Refresh.Progress → Client × Call.Progress
  | (c, .asking request r) => (c, .asking request (.bootstrapping d seed r))
  | (c, .done _) => c.finishBootstrap now d seed true

theorem startCall_first {d : Descriptor} (opens : c.Opens d) (now : Nat) (seed : UInt64) :
    c.startCall now d seed =
      if c.topology.isSeed then fetchOn now d seed c.startRefresh
      else c.finishBootstrap now d seed false := by
  have inScope : ¬(d.scope = .database ∧ c.database? = none) := opens.inScope
  have used : ¬(!c.settings.topologyUpdates || c.isBootstrapped) = true := by
    simp [opens.updates, opens.unused]
  unfold startCall
  rw [if_neg inScope, if_neg used]
  rfl

structure Begins (c : Client) (r : Refresh) : Prop where
  snapshot : r.snapshot = c.topology
  failures : r.failures = []
  places : c.refreshTargets c.topology = r.asked :: r.remaining

theorem startCall_opens {d : Descriptor} (opens : c.Opens d) (now : Nat) (seed : UInt64) :
    (c.topology.isSeed = true ∧ ∃ c' request r,
      c.startCall now d seed = (c', .asking request (.bootstrapping d seed r)) ∧
      c.Beside c' ∧ c.Begins r) ∨
    (c.topology.isSeed = true → c.refreshTargets c.topology = []) ∧
      ∃ c', c.startCall now d seed = (c'.boot now).route now d seed c.topology.isSeed ∧
        c.Beside c' := by
  rw [startCall_first opens]
  cases seeded : c.topology.isSeed with
  | false => exact .inr ⟨nofun, c, rfl, .refl c⟩
  | true =>
      have refreshed := beside_startRefresh c
      cases next : c.startRefresh with
      | mk c' progress =>
          rw [next] at refreshed
          cases progress with
          | asking request r =>
              obtain ⟨snapshot, failures, places⟩ := askNext_cons next
              exact .inl ⟨rfl, c', request, r, rfl, refreshed, snapshot, failures, places⟩
          | done outcome => exact .inr ⟨fun _ => askNext_nil next, c', rfl, refreshed⟩

theorem resumeCall_fetching (c : Client) (now : Nat) (d : Descriptor) (seed : UInt64) (r : Refresh)
    (reply : Http.Reply) :
    (∃ c' request r' fault,
      c.resumeCall now (.bootstrapping d seed r) reply =
        (c', .asking request (.bootstrapping d seed r')) ∧
      c.Beside c' ∧ c.fetched r.asked reply = .error fault ∧ r.GoesOn fault r') ∨
    c.Settles r reply ∧
      ∃ c', c.resumeCall now (.bootstrapping d seed r) reply =
          (c'.boot now).route now d seed true ∧
        c.Beside c' := by
  have refreshed := beside_resumeRefresh c now r reply
  simp only [resumeCall]
  cases next : c.resumeRefresh now r reply with
  | mk c' progress =>
      rw [next] at refreshed
      cases progress with
      | asking request r' =>
          obtain ⟨fault, fails, goesOn⟩ := resumeRefresh_goesOn next
          exact .inl ⟨c', request, r', fault, rfl, refreshed, fails, goesOn⟩
      | done outcome => exact .inr ⟨resumeRefresh_settles next, c', rfl, refreshed⟩

end Client

end ClusterClient
