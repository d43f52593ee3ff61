import ClusterClient.Proofs.Tasks

namespace ClusterClient

namespace Cache

theorem mem_replay {c : Cache} {history : History} {e : Key × Entry}
    (stored : e ∈ (c.replay history).entries) :
    Remains e.1 e.2 history ∨ e ∈ c.entries ∧ ∀ step ∈ history, ¬step.2.Ends e.1 := by
  induction history generalizing c with
  | nil => exact .inr ⟨stored, nofun⟩
  | cons step rest ih =>
      rw [remains_cons_iff]
      rcases ih stored with later | ⟨there, kept⟩
      · exact .inl (.inl later)
      · rcases mem_perform there with put | ⟨before, spared⟩
        · exact .inl (.inr ⟨put, kept⟩)
        · exact .inr ⟨before, List.forall_mem_cons.2 ⟨spared, kept⟩⟩

theorem remains_append {key : Key} {e : Entry} {first second : History}
    (remains : Remains key e (first ++ second)) :
    Remains key e second ∨
      (e.storedAt, .put key e.validator e.payload) ∈ first ∧
        ∀ step ∈ second, ¬step.2.Ends key := by
  induction first with
  | nil => exact .inl remains
  | cons step rest ih =>
      rcases remains_cons_iff.1 remains with later | ⟨rfl, kept⟩
      · rcases ih later with last | ⟨put, kept⟩
        · exact .inl last
        · exact .inr ⟨List.mem_cons_of_mem _ put, kept⟩
      · refine .inr ⟨List.mem_cons_self, ?_⟩
        exact fun step member => kept step (List.mem_append_right _ member)

theorem mem_of_find? {c : Cache} {key : Key} {e : Entry} (found : c.find? key = some e) :
    (key, e) ∈ c.entries := by
  obtain ⟨⟨key', e'⟩, located, rfl⟩ := Option.map_eq_some_iff.1 found
  have same : key' = key := by simpa using List.find?_some located
  rw [← same]
  exact List.mem_of_find?_eq_some located

end Cache

theorem Client.cacheKey_eq_some_iff {c : Client} {d : Descriptor} {key : Cache.Key} :
    c.cacheKey d = some key ↔ c.settings.cacheEnabled = true ∧ d.isCacheable = true ∧
      key = ⟨c.databaseFor d, .get, d.route⟩ := by
  unfold cacheKey
  split
  · rename_i cacheable
    obtain ⟨enabled, cacheable⟩ : c.settings.cacheEnabled = true ∧ d.isCacheable = true := by
      simpa using cacheable
    have method : d.method = .get := by
      simp only [Descriptor.isCacheable, Bool.and_eq_true, beq_iff_eq] at cacheable
      exact cacheable.1.2
    simp [enabled, cacheable, method, eq_comm]
  · rename_i plain
    simp only [Bool.and_eq_true] at plain
    simp only [reduceCtorEq, false_iff]
    exact fun ⟨enabled, cacheable, _⟩ => plain ⟨enabled, cacheable⟩

namespace Client

variable {key : Cache.Key} {validator : String} {payload : Bytes}

theorem put_not_mem_lookups (c : Client) (d : Descriptor) :
    .put key validator payload ∉ c.lookups d := by
  simp [lookups]

theorem put_not_mem_startUse (c : Client) {now : Nat} {d : Descriptor} {seed : UInt64} :
    .put key validator payload ∉ c.startUse now d seed := by
  unfold startUse
  split
  · exact List.not_mem_nil
  · exact c.put_not_mem_lookups d

theorem put_mem_responseUse {c : Client} {a : Attempt} {response : Http.Response}
    (put : .put key validator payload ∈ c.responseUse a response) :
    a.call.key = some key ∧ response.isSuccess = true ∧ response.etag? = some validator ∧
      response.body = payload := by
  cases success : response.isSuccess with
  | true =>
      rw [responseUse_success success, List.mem_append] at put
      rcases put with own | stale
      · unfold storing at own
        split at own
        · rename_i key' validator' keyed tagged
          cases List.mem_singleton.1 own
          exact ⟨keyed, rfl, tagged, rfl⟩
        · cases List.mem_singleton.1 own
        · cases own
      · unfold stales at stale
        split at stale
        · cases stale
        · cases List.mem_singleton.1 stale
  | false =>
      rcases responseUse_failure success c a with nothing | ⟨-, removed⟩
      · rw [nothing] at put
        cases put
      · simp [removed] at put

theorem put_mem_replyUse {c : Client} {now : Nat} {reply : Http.Reply} {waiting : Call.Suspended}
    (put : .put key validator payload ∈ c.replyUse now reply waiting) :
    ∃ a response, waiting = .attempting a ∧ reply = .ok response ∧
      a.call.key = some key ∧ response.isSuccess = true ∧ response.etag? = some validator ∧
      response.body = payload := by
  cases waiting with
  | bootstrapping d seed r =>
      simp only [replyUse] at put
      split at put
      · cases put
      · exact (c.put_not_mem_lookups d put).elim
  | attempting a =>
      cases reply with
      | error cause => cases put
      | ok response => exact ⟨a, response, rfl, rfl, put_mem_responseUse put⟩

end Client

theorem Task.put_not_mem_enterUse {c : Client} {fetching : Bool} {now : Nat} {d : Descriptor}
    {seed : UInt64} : .put key validator payload ∉ enterUse c fetching now d seed := by
  unfold enterUse
  split
  · exact List.not_mem_nil
  · exact Client.put_not_mem_startUse c

namespace Workload

def Run.FillsByCalls (events : Run) : Prop :=
  ∀ event ∈ events, ∀ key validator payload,
    event.2 ≠ .perform (.cache (.put key validator payload))

theorem put_mem_uses {w : Workload} {now : Nat} {event : Event} {key : Cache.Key}
    {validator : String} {payload : Bytes}
    (own : event ≠ .perform (.cache (.put key validator payload)))
    (put : .put key validator payload ∈ w.uses now event) :
    ∃ i response request a, event = .reply i (.ok response) ∧
      w.attempt? i = some (request, a) ∧ a.call.key = some key ∧ response.isSuccess = true ∧
      response.etag? = some validator ∧ response.body = payload := by
  unfold uses at put
  split at put
  · rw [List.mem_singleton] at put
    subst put
    exact absurd rfl own
  · exact (Task.put_not_mem_enterUse put).elim
  · rename_i i
    cases found : w.tasks[i]? with
    | none =>
        rw [found] at put
        cases put
    | some task =>
        rw [found] at put
        cases task with
        | queued d seed => exact (Task.put_not_mem_enterUse put).elim
        | _ => cases put
  · rename_i i reply
    split at put
    · rename_i request waiting found
      obtain ⟨a, response, rfl, rfl, stored⟩ := Client.put_mem_replyUse put
      exact ⟨i, response, request, a, rfl, attempt?_eq_some_iff.2 found, stored⟩
    · cases put
  · rename_i id
    cases found : w.loop? id with
    | none =>
        rw [found] at put
        cases put
    | some l =>
        rw [found] at put
        simp only [Option.elim, Client.wakeUse] at put
        split at put
        · cases List.mem_singleton.1 put
        · cases put
  · cases put

theorem remains_cacheUse {w : Workload} {events : Run} {key : Cache.Key} {e : Cache.Entry}
    (remains : Cache.Remains key e (w.cacheUse events)) :
    ∃ before event after, events = before ++ (e.storedAt, event) :: after ∧
      .put key e.validator e.payload ∈ (w.run before).uses e.storedAt event ∧
      ∀ step ∈ ((w.run before).step e.storedAt event).cacheUse after, ¬step.2.Ends key := by
  induction events generalizing w with
  | nil =>
      obtain ⟨before, after, split, -⟩ := remains
      exact absurd split (by simp [cacheUse])
  | cons event rest ih =>
      rcases Cache.remains_append remains with later | ⟨put, kept⟩
      · obtain ⟨before, event', after, rfl, put, kept⟩ := ih later
        exact ⟨event :: before, event', after, rfl, put, kept⟩
      · obtain ⟨op, member, eq⟩ := List.mem_map.1 put
        obtain ⟨time, event⟩ := event
        cases eq
        exact ⟨[], event, rest, rfl, member, kept⟩

theorem attempt?_run {w : Workload} {events : Run} {i : Nat} {request : Http.Request} {a : Attempt}
    (sent : (w.run events).attempt? i = some (request, a)) :
    w.attempt? i = some (request, a) ∨
    (∃ etag node, request = w.client.request a.call etag node) ∧
      ((∃ request' a', w.attempt? i = some (request', a') ∧ a'.call = a.call) ∨
        ∃ before now event after, events = before ++ (now, event) :: after ∧
          (w.run before).Routes now event i a.call) := by
  induction events generalizing w with
  | nil => exact .inl sent
  | cons event rest ih =>
      have here {call : Call} (routes : w.Routes event.1 event.2 i call) :
          ∃ before now event' after, event :: rest = before ++ (now, event') :: after ∧
            (w.run before).Routes now event' i call :=
        ⟨[], event.1, event.2, rest, rfl, routes⟩
      have settings := settings_step w event.1 event.2
      rcases ih sent with same | ⟨⟨etag, node, form⟩, ⟨request', a', earlier, kept⟩ | later⟩
      · rcases attempt?_step same with same | ⟨form, earlier | routes⟩
        · exact .inl same
        · exact .inr ⟨form, .inl earlier⟩
        · exact .inr ⟨form, .inr (here routes)⟩
      · refine .inr ⟨⟨etag, node, form.trans (Client.request_congr settings _ _ _)⟩, ?_⟩
        rcases attempt?_step earlier with same | ⟨-, ⟨request'', a'', first, eq⟩ | routes⟩
        · exact .inl ⟨request', a', same, kept⟩
        · exact .inl ⟨request'', a'', first, eq.trans kept⟩
        · exact .inr (here (kept ▸ routes))
      · refine .inr ⟨⟨etag, node, form.trans (Client.request_congr settings _ _ _)⟩, .inr ?_⟩
        obtain ⟨before, now, event', after, rfl, routes⟩ := later
        exact ⟨event :: before, now, event', after, rfl, routes⟩

theorem served_run {w : Workload} {events : Run} {i : Nat} {execution : Execution}
    (ended : (w.run events).tasks[i]? = some (.call (.done (.ok execution))))
    (fromCache : execution.fromCache = true) :
    w.tasks[i]? = some (.call (.done (.ok execution))) ∨
    ∃ before now response after request a entry,
      events = before ++ (now, .reply i (.ok response)) :: after ∧
      (w.run before).attempt? i = some (request, a) ∧
      ((w.run before).step now (.reply i (.ok response))).tasks[i]? =
        some (.call (.done (.ok execution))) ∧
      response.status = 304 ∧ a.call.cached = some entry ∧
      execution.payload = some entry.payload := by
  induction events generalizing w with
  | nil => exact .inl ended
  | cons event rest ih =>
      rcases ih ended with now | ⟨before, now, response, after, request, a, entry, rfl, served⟩
      · rcases served_step now fromCache with
          same | ⟨response, request, a, entry, reply, sent, status, cached, payload⟩
        · exact .inl same
        · obtain ⟨time, event⟩ := event
          subst reply
          exact .inr ⟨[], time, response, rest, request, a, entry, rfl, sent, now, status, cached,
            payload⟩
      · exact .inr ⟨event :: before, now, response, after, request, a, entry, rfl, served⟩

structure Fresh (w : Workload) : Prop where
  tasks : w.tasks = []
  entries : w.client.cache.entries = []

theorem Fresh.attempt?_eq_none {w : Workload} (fresh : w.Fresh) (i : Nat) :
    w.attempt? i = none := by
  simp [attempt?, fresh.tasks]

theorem Fresh.routed {w : Workload} (fresh : w.Fresh) {events : Run} {i : Nat}
    {request : Http.Request} {a : Attempt}
    (sent : (w.run events).attempt? i = some (request, a)) :
    (∃ etag node, request = w.client.request a.call etag node) ∧
      ∃ before now event after, events = before ++ (now, event) :: after ∧
        (w.run before).Routes now event i a.call := by
  rcases attempt?_run sent with same | ⟨form, ⟨request', a', earlier, -⟩ | routes⟩
  · rw [fresh.attempt?_eq_none] at same
    cases same
  · rw [fresh.attempt?_eq_none] at earlier
    cases earlier
  · exact ⟨form, routes⟩

theorem cacheKey_run (w : Workload) (events : Run) (d : Descriptor) :
    (w.run events).client.cacheKey d = w.client.cacheKey d :=
  Client.cacheKey_congr (settings_run w events) d

theorem maxAge_run (w : Workload) (events : Run) :
    (w.run events).client.cache.maxAge = w.client.cache.maxAge := by
  rw [cache_run, Cache.maxAge_replay]

/-- The reply to a call from which an entry has come, with what was done before and since. -/
structure StoredBy (w : Workload) (key : Cache.Key) (e : Cache.Entry) (before : Run) (i : Nat)
    (response : Http.Response) (after : Run) : Prop where
  asked : ∃ request a, (w.run before).attempt? i = some (request, a) ∧ request.method = .get ∧
    key = ⟨w.client.databaseFor a.call.descriptor, .get, a.call.descriptor.route⟩
  success : response.isSuccess = true
  validator : response.etag? = some e.validator
  payload : response.body = e.payload
  kept : ∀ step ∈ ((w.run before).step e.storedAt (.reply i (.ok response))).cacheUse after,
    ¬step.2.Ends key

def Stored (w : Workload) (events : Run) (key : Cache.Key) (e : Cache.Entry) : Prop :=
  ∃ before i response after, events = before ++ (e.storedAt, .reply i (.ok response)) :: after ∧
    w.StoredBy key e before i response after

theorem Fresh.stored {w : Workload} (fresh : w.Fresh) {events : Run} (fills : events.FillsByCalls)
    {key : Cache.Key} {e : Cache.Entry} (there : (key, e) ∈ (w.run events).client.cache.entries) :
    w.Stored events key e := by
  rw [cache_run] at there
  rcases Cache.mem_replay there with remains | ⟨initial, -⟩
  · obtain ⟨before, event, after, rfl, put, kept⟩ := remains_cacheUse remains
    have own : event ≠ .perform (.cache (.put key e.validator e.payload)) :=
      fills (e.storedAt, event) (by simp) key e.validator e.payload
    obtain ⟨i, response, request, a, rfl, sent, keyed, success, validator, payload⟩ :=
      put_mem_uses own put
    obtain ⟨⟨etag, node, form⟩, first, now, routing, rest, -, routes⟩ := fresh.routed sent
    have keys : (w.client.cacheKey a.call.descriptor) = some key := by
      have looked := congrArg Call.key routes.looksUp
      rw [keyed, Client.callAt, cacheKey_run] at looked
      exact looked.symm
    obtain ⟨-, cacheable, rfl⟩ := Client.cacheKey_eq_some_iff.1 keys
    refine ⟨before, i, response, after, rfl, ⟨request, a, sent, ?_, rfl⟩, success, validator,
      payload, kept⟩
    simp only [Descriptor.isCacheable, Bool.and_eq_true, beq_iff_eq] at cacheable
    rw [form]
    exact cacheable.1.2
  · rw [fresh.entries] at initial
    cases initial

/-- A server has said that what the call had looked up was not modified, when asked with the
validator with which it had been stored. -/
def Confirmed (w : Workload) (events : Run) (i : Nat) (execution : Execution) : Prop :=
  ∃ before now response after request a,
    events = before ++ (now, .reply i (.ok response)) :: after ∧
    (w.run before).attempt? i = some (request, a) ∧
    ((w.run before).step now (.reply i (.ok response))).tasks[i]? =
      some (.call (.done (.ok execution))) ∧
    response.status = 304 ∧
    ∃ start time event rest e,
      before = start ++ (time, event) :: rest ∧ (w.run start).Routes time event i a.call ∧
      request.headers.find? Http.Field.ifNoneMatch = some e.validator ∧
      execution.payload = some e.payload ∧ time - e.storedAt < w.client.cache.maxAge ∧
      w.Stored start ⟨w.client.databaseFor a.call.descriptor, .get, a.call.descriptor.route⟩ e

theorem Fresh.confirmed {w : Workload} (fresh : w.Fresh) {events : Run}
    (fills : events.FillsByCalls) {i : Nat} {execution : Execution}
    (ended : (w.run events).tasks[i]? = some (.call (.done (.ok execution))))
    (fromCache : execution.fromCache = true) : w.Confirmed events i execution := by
  rcases served_run ended fromCache with
    same | ⟨before, now, response, after, request, a, e, rfl, sent, ends, status, cached, payload⟩
  · rw [fresh.tasks] at same
    cases same
  · obtain ⟨⟨etag, node, form⟩, start, time, event, rest, rfl, routes⟩ := fresh.routed sent
    have looked := congrArg Call.cached routes.looksUp
    rw [cached] at looked
    simp only [Client.callAt, cacheKey_run] at looked
    obtain ⟨key, keyed, found⟩ := Option.bind_eq_some_iff.1 looked.symm
    rw [Cache.get_eq_filter, Option.filter_eq_some_iff, maxAge_run] at found
    obtain ⟨found, young⟩ := found
    obtain ⟨-, -, rfl⟩ := Client.cacheKey_eq_some_iff.1 keyed
    have earlier : Run.FillsByCalls start := fun event member =>
      fills event (List.mem_append_left _ (List.mem_append_left _ member))
    refine ⟨_, now, response, after, request, a, rfl, sent, ends, status, start, time, event, rest,
      e, rfl, routes, ?_, payload, of_decide_eq_true young,
      fresh.stored earlier (Cache.mem_of_find? found)⟩
    rw [form, Client.request, Client.ifNoneMatch_requestHeaders, cached, Option.map_some]

end Workload

end ClusterClient
