import ClusterClient.Proofs.CallSearch
import ClusterClient.Proofs.Lookup

namespace ClusterClient

theorem Http.Headers.find?_append (front back : Headers) (name : String) :
    find? (front ++ back) name = (find? front name).or (find? back name) := by
  simp only [find?, List.find?_append, Option.map_or]

theorem Http.Headers.find?_optional (field : String) (value : Option String) (name : String) :
    find? (value.toList.map fun v => (field, v)) name =
      if Text.sameAscii field name then value else none := by
  cases value with
  | none => simp [find?]
  | some v =>
      by_cases same : Text.sameAscii field name
      · simp [find?, same]
      · simp [find?, same]

theorem Http.Headers.find?_cons (field value : String) (rest : Headers) (name : String) :
    find? ((field, value) :: rest) name =
      if Text.sameAscii field name then some value else find? rest name := by
  by_cases same : Text.sameAscii field name
  · simp [find?, same]
  · simp [find?, same]

theorem IdSource.isSome_tag (ids : IdSource) (d : Descriptor) :
    (ids.tag d).1.isSome = true ↔ d.tagging ≠ .untagged := by
  unfold tag
  cases d.tagging <;> simp

namespace Client

theorem topologyEtag_requestHeaders (c : Client) (call : Call) (etag : Int64) :
    (c.requestHeaders call etag).find? Http.Field.topologyEtag = some (toString etag.toInt) := by
  simp +decide [requestHeaders, Http.Headers.find?_cons]

theorem raftRequestId_requestHeaders (c : Client) (call : Call) (etag : Int64) :
    (c.requestHeaders call etag).find? Http.Field.raftRequestId = call.raftId := by
  simp +decide [requestHeaders, Http.Headers.find?_append, Http.Headers.find?_optional,
    Http.Headers.find?_cons]

theorem ifNoneMatch_requestHeaders (c : Client) (call : Call) (etag : Int64) :
    (c.requestHeaders call etag).find? Http.Field.ifNoneMatch = call.cached.map (·.validator) := by
  simp +decide [requestHeaders, Http.Headers.find?_append, Http.Headers.find?_optional,
    Http.Headers.find?_cons]

end Client

theorem Topology.mem_of_mem_inOrder {t : Topology} {order : List Nat} {node : Node}
    (member : node ∈ t.inOrder order) : node ∈ t.nodes := by
  obtain ⟨i, -, located⟩ := List.mem_filterMap.1 member
  exact List.mem_of_getElem? located

theorem Departs.emptyTopology {d : Descriptor} {seed : UInt64} {p : Departure}
    {course : List Stage} {turns : List Turn} (departs : Departs d seed p course turns)
    (empty : p.held.client.topology.size = 0) :
    course.filterMap (·.progress.dataRequest?) = [] := by
  have selected : p.held.client.selector.select p.held.client.topology d.isRead seed = _ :=
    Selector.select_eq_error empty
  obtain ⟨c', route⟩ := Client.route_error selected p.time p.claimed
  rw [departs.filterMap_dataRequest?, Departure.course, route, course_done]
  rfl

theorem StillFetching.filterMap_dataRequest? {course : List Stage} (waits : StillFetching course) :
    course.filterMap (·.progress.dataRequest?) = [] := by
  apply List.filterMap_eq_nil_iff.2
  intro s member
  exact Call.Progress.dataRequest?_fetching (waits s member)

/-- These are requests of one call, which differ only in the node that they go to. -/
structure OneRequest (p : Departure) (d : Descriptor) (requests : List Http.Request) : Prop where
  same : ∀ r ∈ requests, ∀ r' ∈ requests,
    r.method = r'.method ∧ r.body = r'.body ∧ r.headers = r'.headers
  urls : ∃ suffix, ∀ r ∈ requests, ∃ node ∈ p.held.client.topology.nodes,
    r.url = node.baseUrl ++ suffix
  etag : ∀ r ∈ requests, r.headers.find? Http.Field.topologyEtag =
    some (toString p.held.client.topology.etag.toInt)
  raftId : ∀ r ∈ requests, r.headers.find? Http.Field.raftRequestId = (p.held.client.ids.tag d).1
  tagged : ∀ r ∈ requests,
    (r.headers.find? Http.Field.raftRequestId).isSome = true ↔ d.tagging ≠ .untagged
  validator : ∀ r ∈ requests, ∀ v, r.headers.find? Http.Field.ifNoneMatch = some v ↔
    ∃ key entry, p.held.client.cacheKey d = some key ∧
      p.held.client.cache.find? key = some entry ∧
      entry.isFresh p.held.client.cache.maxAge p.time = true ∧ entry.validator = v

theorem validator_callAt (c : Client) (now : Nat) (d : Descriptor) (v : String) :
    (c.callAt now d).cached.map (·.validator) = some v ↔
      ∃ key entry, c.cacheKey d = some key ∧ c.cache.find? key = some entry ∧
        entry.isFresh c.cache.maxAge now = true ∧ entry.validator = v := by
  simp only [Client.callAt, Cache.get_eq_filter, Option.map_eq_some_iff, Option.bind_eq_some_iff,
    Option.filter_eq_some_iff]
  constructor
  · rintro ⟨entry, ⟨key, cacheable, found, fresh⟩, eq⟩
    exact ⟨key, entry, cacheable, found, fresh, eq⟩
  · rintro ⟨key, entry, cacheable, found, fresh, eq⟩
    exact ⟨entry, ⟨key, cacheable, found, fresh⟩, eq⟩

theorem OneRequest.of_map {p : Departure} {d : Descriptor} {nodes : List Node}
    (known : ∀ node ∈ nodes, node ∈ p.held.client.topology.nodes) :
    OneRequest p d (nodes.map (p.held.client.request (p.held.client.callAt p.time d)
      p.held.client.topology.etag)) := by
  constructor
  case same =>
    intro r asked r' asked'
    obtain ⟨node, -, rfl⟩ := List.mem_map.1 asked
    obtain ⟨node', -, rfl⟩ := List.mem_map.1 asked'
    exact ⟨rfl, rfl, rfl⟩
  case urls =>
    refine ⟨p.held.client.urlSuffix d, ?_⟩
    intro r asked
    obtain ⟨node, member, rfl⟩ := List.mem_map.1 asked
    exact ⟨node, known node member, p.held.client.requestUrl_eq d node⟩
  case etag =>
    intro r asked
    obtain ⟨node, -, rfl⟩ := List.mem_map.1 asked
    exact Client.topologyEtag_requestHeaders _ _ _
  case raftId =>
    intro r asked
    obtain ⟨node, -, rfl⟩ := List.mem_map.1 asked
    exact Client.raftRequestId_requestHeaders _ _ _
  case tagged =>
    intro r asked
    obtain ⟨node, -, rfl⟩ := List.mem_map.1 asked
    rw [← IdSource.isSome_tag p.held.client.ids]
    rw [Client.request, Client.raftRequestId_requestHeaders, Client.callAt]
  case validator =>
    intro r asked v
    obtain ⟨node, -, rfl⟩ := List.mem_map.1 asked
    rw [Client.request, Client.ifNoneMatch_requestHeaders]
    exact validator_callAt p.held.client p.time d v

theorem attempts_are_one_request (w : Workload) (now : Nat) (d : Descriptor) (seed : UInt64)
    (turns : List Turn) :
    let course := w.course now d seed turns
    let requests := course.filterMap (·.progress.dataRequest?)
    requests = [] ∨ ∃ p, Departs d seed p course turns ∧
      (w.client.settings.topologyUpdates = false ∨ w.client.isBootstrapped = true →
        p = ⟨w, now, false, turns⟩) ∧
      OneRequest p d requests := by
  intro course requests
  by_cases inScope : d.scope = .database ∧ w.client.database? = none
  · left
    simp only [requests, course, Workload.course, Client.startCall, if_pos inScope, course_done]
    rfl
  · rcases course_departs w now d seed turns inScope with ⟨p, departs, used⟩ | ⟨waits, -⟩
    · by_cases empty : p.held.client.topology.size = 0
      · exact .inl (departs.emptyTopology empty)
      · right
        obtain ⟨order, -, -, search⟩ := departs.searches empty
        refine ⟨p, departs, used, ?_⟩
        simp only [requests, course]
        rw [search.requests]
        apply OneRequest.of_map
        intro node member
        exact Topology.mem_of_mem_inOrder (List.mem_of_mem_take member)
    · exact .inl waits.filterMap_dataRequest?

example : ((Workload.trio.course 0 (.new .get "/docs") 7 failingOver).filterMap
    (·.progress.dataRequest?)).map (·.url) =
      ["http://a/databases/shop/docs", "http://b/databases/shop/docs",
        "http://c/databases/shop/docs"] := by
  decide +kernel

end ClusterClient
