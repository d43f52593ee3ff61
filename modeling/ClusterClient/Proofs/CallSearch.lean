import ClusterClient.Proofs.Candidates
import ClusterClient.Proofs.Replies

namespace ClusterClient

def Call.returned (read : Json.Doc → Option α) (outcome : Except Fault Execution) :
    Except Fault (Option α) :=
  outcome.bind (·.result read)

theorem Call.returned_unreachable_iff {read : Json.Doc → Option α}
    {outcome : Except Fault Execution} {t : Topology} {failures : List NodeFailure} :
    Call.returned read outcome = .error (.unreachable t failures) ↔
      outcome = .error (.unreachable t failures) := by
  cases outcome with
  | error fault => simp [returned, Except.bind]
  | ok execution =>
      simp only [returned, Except.bind, reduceCtorEq, iff_false]
      unfold Execution.result decode
      repeat' split
      all_goals simp

namespace Client

def urlSuffix (c : Client) (d : Descriptor) : String :=
  match c.databaseFor d with
  | some name => "/databases/" ++ Text.Percent.encode name ++ d.route
  | none => d.route

theorem requestUrl_eq (c : Client) (d : Descriptor) (node : Node) :
    c.requestUrl d node = node.baseUrl ++ c.urlSuffix d := by
  unfold requestUrl urlSuffix
  cases c.databaseFor d with
  | none => rfl
  | some name => simp only [String.append_assoc]

def cacheKey (c : Client) (d : Descriptor) : Option Cache.Key :=
  if c.settings.cacheEnabled && d.isCacheable then some ⟨c.databaseFor d, d.method, d.route⟩
  else none

theorem cacheKey_congr {c c' : Client} (same : c.settings = c'.settings) (d : Descriptor) :
    c.cacheKey d = c'.cacheKey d := by
  simp only [cacheKey, same, databaseFor_congr same]

def callAt (c : Client) (now : Nat) (d : Descriptor) : Call where
  descriptor := d
  raftId := (c.ids.tag d).1
  key := c.cacheKey d
  cached := (c.cacheKey d).bind fun key => (c.cache.get now key).2

theorem route_ok {c : Client} {d : Descriptor} {seed : UInt64} {order : List Nat}
    (selected : c.selector.select c.topology d.isRead seed = .ok order) (now : Nat)
    (claimed : Bool) :
    ∃ c' : Client, c'.settings = c.settings ∧ c.route now d seed claimed =
      c'.tryNext now (c.callAt now d) { Attempts.start c.topology order with claimed } := by
  unfold route callAt cacheKey
  cases cacheable : c.settings.cacheEnabled && d.isCacheable with
  | true =>
      let key : Cache.Key := ⟨c.databaseFor d, d.method, d.route⟩
      refine ⟨{ c with ids := (c.ids.tag d).2, cache := (c.cache.get now key).1 }, rfl, ?_⟩
      simp only [selected, cacheable, if_true]
      rfl
  | false =>
      refine ⟨{ c with ids := (c.ids.tag d).2 }, rfl, ?_⟩
      simp only [selected, cacheable, Bool.false_eq_true, if_false]
      rfl

theorem route_error {c : Client} {d : Descriptor} {seed : UInt64} {fault : Fault}
    (selected : c.selector.select c.topology d.isRead seed = .error fault) (now : Nat)
    (claimed : Bool) :
    ∃ c' : Client, c.route now d seed claimed = (c', .done (.error fault)) := by
  unfold route
  simp only [selected]
  exact ⟨_, rfl⟩
end Client

theorem Departs.filterMap_dataRequest? {d : Descriptor} {seed : UInt64} {p : Departure}
    {course : List Stage} {turns : List Turn} (departs : Departs d seed p course turns) :
    course.filterMap (·.progress.dataRequest?) =
      (p.course d seed).filterMap (·.progress.dataRequest?) := by
  induction departs with
  | here => rfl
  | fetch fetching _ ih =>
      rw [List.filterMap_cons, Call.Progress.dataRequest?_fetching fetching]
      exact ih

theorem Departs.findSome?_outcome? {d : Descriptor} {seed : UInt64} {p : Departure}
    {course : List Stage} {turns : List Turn} (departs : Departs d seed p course turns) :
    course.findSome? (·.progress.outcome?) =
      (p.course d seed).findSome? (·.progress.outcome?) := by
  induction departs with
  | here => rfl
  | fetch fetching _ ih =>
      rw [List.findSome?_cons, Call.Progress.outcome?_fetching fetching]
      exact ih

theorem Attempts.untried_start {t : Topology} {order : List Nat}
    (perm : order.Perm (List.range t.size)) (claimed : Bool) :
    Untried { Attempts.start t order with claimed } where
  known _ member := List.mem_range.1 (perm.mem_iff.1 member)
  fresh _ _ := rfl
  nodup := perm.nodup_iff.2 List.nodup_range

theorem Departs.searches {d : Descriptor} {seed : UInt64} {p : Departure} {course : List Stage}
    {turns : List Turn} (departs : Departs d seed p course turns)
    (nonempty : p.held.client.topology.size ≠ 0) :
    ∃ order, p.held.client.selector.select p.held.client.topology d.isRead seed = .ok order ∧
      order.Perm (List.range p.held.client.topology.size) ∧
      Searches p.held.client p.held.client.topology (p.held.client.callAt p.time d) []
        (p.held.client.topology.inOrder order) (p.rest.map (·.reply)) course := by
  obtain ⟨order, selected, perm⟩ := Selector.select_perm (s := p.held.client.selector) nonempty
    d.isRead seed
  obtain ⟨c', settings, route⟩ := Client.route_ok selected p.time p.claimed
  have search := course_tryNext p.held.client (p.held.client.callAt p.time d) p.rest
    { p.held with client := c' } settings p.time _ (Attempts.untried_start perm p.claimed)
  refine ⟨order, selected, perm, ?_, ?_⟩
  · rw [departs.filterMap_dataRequest?, Departure.course, route]
    exact search.requests
  · rw [departs.findSome?_outcome?, Departure.course, route]
    exact search.outcome

/-- A call that asks these nodes from the first one on, goes past a node only if the reply of the
node leads on, and comes to what the first other reply makes of it, or to the failures of all. -/
structure LeftToRight (read : Json.Doc → Option α) (c : Client) (call : Call) (nodes : List Node)
    (replies : List Http.Reply) (requests : List Http.Request)
    (outcome : Option (Except Fault Execution)) : Prop where
  asks : requests = (nodes.take requests.length).map (c.request call c.topology.etag)
  addresses : ∃ suffix : String, ∀ (i : Nat) (request : Http.Request), requests[i]? = some request →
    ∃ node, nodes[i]? = some node ∧ request.url = node.baseUrl ++ suffix ∧
      request.method = call.descriptor.method ∧ request.body = call.descriptor.body
  reaches : ∀ i, i < requests.length ↔
    i < nodes.length ∧ ∀ j < i, c.LeadsOnAt call.descriptor nodes replies j
  decides : ∀ i node response, nodes[i]? = some node → replies[i]? = some (.ok response) →
    (∀ j < i, c.LeadsOnAt call.descriptor nodes replies j) →
    c.passFault? call.descriptor node (.ok response) = none →
    outcome = some (c.conclude call node (c.passed call.descriptor nodes replies) response)
  unreachable : ∀ t failures,
    outcome.map (Call.returned read) = some (.error (.unreachable t failures)) ↔
      (∀ j < nodes.length, c.LeadsOnAt call.descriptor nodes replies j) ∧
      t = c.topology ∧ failures = c.passed call.descriptor nodes replies
  exhausts : (∀ j < nodes.length, c.LeadsOnAt call.descriptor nodes replies j) →
    requests.length = nodes.length ∧ (c.passed call.descriptor nodes replies).map (·.1) = nodes
  blames : ∀ (i : Nat) (node : Node) (fault : Fault),
    (c.passed call.descriptor nodes replies)[i]? = some (node, fault) →
    nodes[i]? = some node ∧ ∃ reply : Http.Reply, replies[i]? = some reply ∧
      c.passFault? call.descriptor node reply = some fault
  ends : nodes.length ≤ replies.length → outcome.isSome = true

theorem Searches.leftToRight (read : Json.Doc → Option α) {c : Client} {call : Call}
    {nodes : List Node} {replies : List Http.Reply} {course : List Stage} (nonempty : nodes ≠ [])
    (search : Searches c c.topology call [] nodes replies course) :
    LeftToRight read c call nodes replies (course.filterMap (·.progress.dataRequest?))
      (course.findSome? (·.progress.outcome?)) := by
  obtain ⟨requests, outcome⟩ := search
  have bound := c.length_passed_le call.descriptor nodes replies
  have some_node : 0 < nodes.length := List.length_pos_iff.2 nonempty
  have count : (course.filterMap (·.progress.dataRequest?)).length =
      min ((c.passed call.descriptor nodes replies).length + 1) nodes.length := by
    rw [requests, List.length_map, List.length_take]
  have every : (∀ j < nodes.length, c.LeadsOnAt call.descriptor nodes replies j) ↔
      (c.passed call.descriptor nodes replies).length = nodes.length := by
    rw [← c.le_length_passed_iff]
    omega
  constructor
  case asks =>
    rw [count, requests, ← List.take_take, List.take_length]
  case addresses =>
    refine ⟨c.urlSuffix call.descriptor, fun i request sent => ?_⟩
    rw [requests, List.getElem?_map, Option.map_eq_some_iff] at sent
    obtain ⟨node, asked, rfl⟩ := sent
    rw [List.getElem?_take, Option.ite_none_right_eq_some] at asked
    exact ⟨node, asked.2, c.requestUrl_eq call.descriptor node, rfl, rfl⟩
  case reaches =>
    intro i
    rw [count, ← c.le_length_passed_iff]
    omega
  case decides =>
    intro i node response atNode atReply before final
    rw [outcome]
    exact Client.searchOutcome_of_decided atNode atReply before final
  case unreachable =>
    intro t failures
    rw [every, outcome, ← c.searchOutcome_unreachable_iff, Option.map_eq_some_iff]
    constructor
    · rintro ⟨reached, eq, returned⟩
      rw [eq, Call.returned_unreachable_iff.1 returned]
    · intro eq
      exact ⟨_, eq, Call.returned_unreachable_iff.2 rfl⟩
  case exhausts =>
    intro all
    have length := every.1 all
    constructor
    · omega
    · rw [c.map_fst_passed, length, List.take_length]
  case blames =>
    intro i node fault listed
    exact Client.getElem?_passed listed
  case ends =>
    intro enough
    rw [outcome]
    exact c.searchOutcome_isSome c.topology call [] enough

theorem call_is_search (read : Json.Doc → Option α) (w : Workload) (now : Nat) (d : Descriptor)
    (seed : UInt64) (turns : List Turn)
    (inScope : ¬(d.scope = .database ∧ w.client.database? = none)) :
    let course := w.course now d seed turns
    (∃ p, Departs d seed p course turns ∧
      (w.client.settings.topologyUpdates = false ∨ w.client.isBootstrapped = true →
        p = ⟨w, now, false, turns⟩) ∧
      let held := p.held.client
      (held.topology.size ≠ 0 → ∃ order,
        held.selector.select held.topology d.isRead seed = .ok order ∧
        (held.topology.inOrder order).Perm held.topology.nodes ∧
        LeftToRight read held (held.callAt p.time d) (held.topology.inOrder order)
          (p.rest.map (·.reply)) (course.filterMap (·.progress.dataRequest?))
          (course.findSome? (·.progress.outcome?)))) ∨
    StillFetching course ∧
      turns.length < (w.client.refreshTargets w.client.topology).length := by
  intro course
  rcases course_departs w now d seed turns inScope with ⟨p, departs, used⟩ | waits
  · refine .inl ⟨p, departs, used, fun nonempty => ?_⟩
    obtain ⟨order, selected, perm, search⟩ := departs.searches nonempty
    have nodes := Topology.inOrder_perm perm
    have some_node : p.held.client.topology.inOrder order ≠ [] := by
      intro none
      have length := nodes.length_eq
      rw [none] at length
      exact nonempty length.symm
    exact ⟨order, selected, nodes, search.leftToRight read some_node⟩
  · exact .inr waits

def failingOver : List Turn :=
  [{ now := 1, reply := .error .timeout,
     others := [(1, .perform (.offer ⟨[⟨"http://d", "D", none, .member⟩], 6, none⟩))] },
   { now := 2, reply := .ok ⟨503, [], []⟩ },
   { now := 3, reply := .ok ⟨200, [], []⟩ }]

theorem call_is_search_trio :
    let w := Workload.trio
    let d := Descriptor.new .get "/docs"
    let course := w.course 0 d 7 failingOver
    ¬(d.scope = .database ∧ w.client.database? = none) ∧
    ∃ order, w.client.selector.select w.client.topology d.isRead 7 = .ok order ∧
      LeftToRight (fun _ => some ()) w.client (w.client.callAt 0 d)
        (w.client.topology.inOrder order) (failingOver.map (·.reply))
        (course.filterMap (·.progress.dataRequest?))
        (course.findSome? (·.progress.outcome?)) := by
  intro w d course
  have inScope : ¬(d.scope = .database ∧ w.client.database? = none) := by decide
  refine ⟨inScope, ?_⟩
  rcases call_is_search (fun _ => some ()) w 0 d 7 failingOver inScope with
    ⟨p, -, used, search⟩ | ⟨-, waits⟩
  · cases used (.inl rfl)
    obtain ⟨order, selected, -, leftToRight⟩ := search (by decide)
    exact ⟨order, selected, leftToRight⟩
  · exact absurd waits (by decide)

end ClusterClient
