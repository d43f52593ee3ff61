import ClusterClient.Json.Value
import ClusterClient.Proofs.Provenance

namespace ClusterClient

namespace Client

section
variable (c : Client) (now : Nat) {a : Attempt} {response : Http.Response}

theorem mem_cache_success {key : Cache.Key} {e : Cache.Entry} (keyed : a.call.key = some key)
    (isRead : a.call.descriptor.isRead = true) (success : response.isSuccess = true) :
    (key, e) ∈ (c.resumeCall now (.attempting a) (.ok response)).1.cache.entries ↔
      response.etag? = some e.validator ∧ e.payload = response.body ∧ e.storedAt = now := by
  have use : c.replyUse now (.ok response) (.attempting a) = storing a response := by
    simp [replyUse, Except.toOption, responseUse_success success, stales, isRead]
  rw [cache_resumeCall, use, storing, keyed]
  cases tagged : response.etag? with
  | none =>
      have removed : (key, e) ∉ (c.cache.after now [.remove key]).entries :=
        fun there => (Cache.mem_erase.1 there).2 rfl
      simpa using removed
  | some validator =>
      have stored : (key, e) ∈ (c.cache.put now key validator response.body).entries ↔ _ :=
        Cache.mem_put_self
      refine stored.trans ?_
      obtain ⟨v, payload, storedAt⟩ := e
      simp [eq_comm]

theorem returned_success (read : Json.Doc → Option α) (success : response.isSuccess = true) :
    ∃ outcome, (c.resumeCall now (.attempting a) (.ok response)).2 = .done outcome ∧
      Call.returned read outcome =
        if response.status = 204 then .ok none else decode read response.body := by
  refine ⟨_, resumeCall_success c now a success, ?_⟩
  by_cases empty : response.status = 204
  · simp [Call.returned, Except.bind, Execution.result, empty]
  · simp [Call.returned, Except.bind, Execution.result, empty]

theorem returned_confirmed (read : Json.Doc → Option α) {e : Cache.Entry}
    (cached : a.call.cached = some e) (status : response.status = 304) :
    ∃ outcome, (c.resumeCall now (.attempting a) (.ok response)).2 = .done outcome ∧
      Call.returned read outcome = decode read e.payload := by
  have confirmed : response.isNotModified = true := by simp [Http.Response.isNotModified, status]
  refine ⟨_, resumeCall_notModified c now a confirmed, ?_⟩
  simp [cached, Call.returned, Except.bind, Execution.result]

end

end Client

namespace Workload

theorem step_reply {w : Workload} {i : Nat} {request : Http.Request} {a : Attempt}
    (sent : w.attempt? i = some (request, a)) (now : Nat) (reply : Http.Reply) :
    (w.step now (.reply i reply)).client = (w.client.resumeCall now (.attempting a) reply).1 ∧
      (w.step now (.reply i reply)).tasks[i]? =
        some (.call (w.client.resumeCall now (.attempting a) reply).2) := by
  have located := attempt?_eq_some_iff.1 sent
  obtain ⟨inside, -⟩ := List.getElem?_eq_some_iff.1 located
  simp only [step, updateTask, located, Task.resume, true_and]
  exact List.getElem?_set_self inside

structure StoresBodies (read : Json.Doc → Option α) (w : Workload) (events : Run) : Prop where
  origin : ∀ (key : Cache.Key) (e : Cache.Entry),
    (key, e) ∈ (w.run events).client.cache.entries →
    ∃ before i response after outcome,
      events = before ++ (e.storedAt, .reply i (.ok response)) :: after ∧
      w.StoredBy key e before i response after ∧
      ((w.run before).step e.storedAt (.reply i (.ok response))).tasks[i]? =
        some (.call (.done outcome)) ∧
      Call.returned read outcome =
        if response.status = 204 then .ok none else decode read e.payload
  stores : ∀ (now i : Nat) (response : Http.Response) (request : Http.Request) (a : Attempt)
    (key : Cache.Key), (w.run events).attempt? i = some (request, a) →
    w.client.cacheKey a.call.descriptor = some key → response.isSuccess = true →
    ∀ e, (key, e) ∈ ((w.run events).step now (.reply i (.ok response))).client.cache.entries ↔
      response.etag? = some e.validator ∧ e.payload = response.body ∧ e.storedAt = now
  confirms : ∀ (now i : Nat) (response : Http.Response) (request : Http.Request) (a : Attempt)
    (e : Cache.Entry), (w.run events).attempt? i = some (request, a) →
    a.call.cached = some e → response.status = 304 →
    ∃ outcome, ((w.run events).step now (.reply i (.ok response))).tasks[i]? =
        some (.call (.done outcome)) ∧
      Call.returned read outcome = decode read e.payload

theorem runs_store_bodies (read : Json.Doc → Option α) (w : Workload) (events : Run)
    (fresh : w.Fresh) (fills : events.FillsByCalls) : StoresBodies read w events := by
  constructor
  case origin =>
    intro key e there
    obtain ⟨before, i, response, after, split, stored⟩ := fresh.stored fills there
    obtain ⟨request, a, sent, -, -⟩ := stored.asked
    obtain ⟨outcome, ends, returned⟩ := (w.run before).client.returned_success e.storedAt (a := a)
      read stored.success
    obtain ⟨-, task⟩ := step_reply sent e.storedAt (.ok response)
    rw [ends] at task
    rw [stored.payload] at returned
    exact ⟨before, i, response, after, outcome, split, stored, task, returned⟩
  case stores =>
    intro now i response request a key sent keyed success e
    obtain ⟨-, before, time, event, after, -, routes⟩ := fresh.routed sent
    have held := congrArg Call.key routes.looksUp
    rw [Client.callAt, cacheKey_run, keyed] at held
    obtain ⟨-, cacheable, -⟩ := Client.cacheKey_eq_some_iff.1 keyed
    simp only [Descriptor.isCacheable, Bool.and_eq_true] at cacheable
    obtain ⟨client, -⟩ := step_reply sent now (.ok response)
    rw [client]
    exact Client.mem_cache_success _ now held cacheable.1.1 success
  case confirms =>
    intro now i response request a e sent cached status
    obtain ⟨outcome, ends, returned⟩ :=
      (w.run events).client.returned_confirmed now read cached status
    obtain ⟨-, task⟩ := step_reply sent now (.ok response)
    rw [ends] at task
    exact ⟨outcome, task, returned⟩

def cutOff : Run :=
  [(0, .call (.new .get "/docs") (some 7)),
   (1, .reply 0 (.ok ⟨200, [(Http.Field.etag, "A:1")], [123]⟩)),
   (2, .call (.new .get "/docs") (some 7)),
   (3, .reply 1 (.ok ⟨304, [], []⟩))]

theorem cutOff_storesBodies :
    trio.Fresh ∧ cutOff.FillsByCalls ∧ StoresBodies Json.Doc.value? trio cutOff := by
  have fresh : trio.Fresh := ⟨rfl, rfl⟩
  have fills : cutOff.FillsByCalls := by simp [Run.FillsByCalls, cutOff]
  exact ⟨fresh, fills, runs_store_bodies Json.Doc.value? trio cutOff fresh fills⟩

theorem undecodable_body_is_stored :
    trio.Fresh ∧ cutOff.FillsByCalls ∧
      (∃ key e, (key, e) ∈ (trio.run cutOff).client.cache.entries ∧
        decode Json.Doc.value? e.payload = .error (.serialization none)) ∧
      ∀ i < 2, ∃ outcome, (trio.run cutOff).tasks[i]? = some (.call (.done outcome)) ∧
        Call.returned Json.Doc.value? outcome = .error (.serialization none) := by
  refine ⟨⟨rfl, rfl⟩, by simp [Run.FillsByCalls, cutOff], ⟨_, _, List.mem_cons_self, rfl⟩, ?_⟩
  intro i known
  rcases i with _ | _ | i
  · exact ⟨_, rfl, rfl⟩
  · exact ⟨_, rfl, rfl⟩
  · omega

end Workload

end ClusterClient
