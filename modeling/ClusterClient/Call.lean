import ClusterClient.Attempts
import ClusterClient.Refresh

/-!
Calls. A call is routed with one snapshot and tries its nodes in the order that the selector
gives, always with the same request: its id is drawn and its cache entry looked up once, before
the first attempt. It ends with the first reply that is neither a failed exchange nor a status to
be retried, or when all nodes have failed. The first call of a client with topology updates
fetches a snapshot before, if none is held yet, and starts the background loop.
-/

namespace ClusterClient

structure Execution where
  payload : Option Bytes
  node : Node
  failures : List NodeFailure
  fromCache : Bool := false
deriving Repr, Inhabited

def decode (read : Json.Doc → Option α) (payload : Bytes) : Except Fault (Option α) :=
  if payload.all Text.isAsciiSpace then .ok none
  else match (Json.Doc.ofBytes? payload).bind read with
  | some result => .ok (some result)
  | none => .error (.serialization none)

def Execution.result (e : Execution) (read : Json.Doc → Option α) : Except Fault (Option α) :=
  match e.payload with
  | none => .ok none
  | some payload => decode read payload

structure Call where
  descriptor : Descriptor
  raftId : Option String
  key : Option Cache.Key
  cached : Option Cache.Entry
deriving Repr, Inhabited

structure Attempt where
  call : Call
  attempts : Attempts
  index : Nat
  node : Node
  sentAt : Nat
deriving Repr, Inhabited

namespace Call

inductive Suspended
  | bootstrapping (descriptor : Descriptor) (seed : UInt64) (refresh : Refresh)
  | attempting (attempt : Attempt)
deriving Inhabited

inductive Progress
  | asking (request : Http.Request) (call : Suspended)
  | done (outcome : Except Fault Execution)
deriving Inhabited

/-- How far a call is from its end: the phase, and how much it may still ask in it. -/
def Suspended.rank : Suspended → Nat × Nat
  | bootstrapping _ _ r => (1, r.remaining.length)
  | attempting a => (0, a.attempts.remaining.length)

end Call

namespace Client

def requestUrl (c : Client) (d : Descriptor) (node : Node) : String :=
  match c.databaseFor d with
  | some name => node.baseUrl ++ "/databases/" ++ Text.Percent.encode name ++ d.route
  | none => node.baseUrl ++ d.route

def requestHeaders (c : Client) (call : Call) (etag : Int64) : Http.Headers :=
  let d := call.descriptor
  let field (name : String) (value : Option String) : Http.Headers :=
    value.toList.map fun v => (name, v)
  [(Http.Field.accept, Http.jsonType), (Http.Field.topologyEtag, toString etag.toInt)] ++
    field Http.Field.authorization (c.settings.apiKey.map Http.bearer) ++
    field Http.Field.ifNoneMatch (call.cached.map (·.validator)) ++
    field Http.Field.ifMatch d.expectedVersion ++
    field Http.Field.raftRequestId call.raftId ++
    field Http.Field.contentType (d.body.map fun _ => Http.jsonType)

def request (c : Client) (call : Call) (etag : Int64) (node : Node) : Http.Request where
  method := call.descriptor.method
  url := c.requestUrl call.descriptor node
  headers := c.requestHeaders call etag
  body := call.descriptor.body

def signalIf (c : Client) (due : Bool) (a : Attempts) : Client × Attempts :=
  if due then (if a.claimed then c else c.requestRefresh, a.claim) else (c, a)

theorem remaining_signalIf (c : Client) (due : Bool) (a : Attempts) :
    (c.signalIf due a).2.remaining = a.remaining := by
  unfold signalIf
  split <;> rfl

def tryNext (c : Client) (now : Nat) (call : Call) (a : Attempts) : Client × Call.Progress :=
  match a.next with
  | (some index, a) =>
    match a.topology.nodes[index]? with
    | some node =>
      (c, .asking (c.request call a.topology.etag node)
        (.attempting { call, attempts := a, index, node, sentAt := now }))
    | none => (c, .done (.error a.unreachable))
  | (none, a) =>
    let (c, a) := c.signalIf true a
    (c, .done (.error a.unreachable))

/-- Routes a call with the snapshot held now. `claimed` tells that the call has fetched it. -/
def route (c : Client) (now : Nat) (d : Descriptor) (seed : UInt64) (claimed : Bool) :
    Client × Call.Progress :=
  let (raftId, ids) := c.ids.tag d
  let c := { c with ids }
  let key : Option Cache.Key :=
    if c.settings.cacheEnabled && d.isCacheable then some ⟨c.databaseFor d, d.method, d.route⟩
    else none
  let (cache, cached) := match key with
    | some key => c.cache.get now key
    | none => (c.cache, none)
  let c := { c with cache }
  match c.selector.select c.topology d.isRead seed with
  | .error fault => (c, .done (.error fault))
  | .ok candidates =>
    let call : Call := { descriptor := d, raftId, key, cached }
    c.tryNext now call { Attempts.start c.topology candidates with claimed }

def finishBootstrap (c : Client) (now : Nat) (d : Descriptor) (seed : UInt64) (claimed : Bool) :
    Client × Call.Progress :=
  let c := { c with isBootstrapped := true }
  let c := c.startLoop now c.settings.refreshInterval c.settings.cacheEnabled
  c.route now d seed claimed

def Rejects (c : Client) (d : Descriptor) : Prop := d.scope = .database ∧ c.database? = none

instance (c : Client) (d : Descriptor) : Decidable (c.Rejects d) :=
  inferInstanceAs (Decidable (_ ∧ _))

/-- Whether a call is the first use of a client with topology updates. -/
structure Opens (c : Client) (d : Descriptor) : Prop where
  inScope : ¬c.Rejects d
  updates : c.settings.topologyUpdates = true
  unused : c.isBootstrapped = false

theorem opens_iff {c : Client} {d : Descriptor} : c.Opens d ↔
    ¬c.Rejects d ∧ c.settings.topologyUpdates = true ∧ c.isBootstrapped = false :=
  ⟨fun ⟨inScope, updates, unused⟩ => ⟨inScope, updates, unused⟩,
    fun ⟨inScope, updates, unused⟩ => ⟨inScope, updates, unused⟩⟩

instance (c : Client) (d : Descriptor) : Decidable (c.Opens d) := decidable_of_iff' _ opens_iff

def startCall (c : Client) (now : Nat) (d : Descriptor) (seed : UInt64) :
    Client × Call.Progress :=
  if d.scope = .database ∧ c.database? = none then
    (c, .done (.error (.config (.noDatabase d.route))))
  else if !c.settings.topologyUpdates || c.isBootstrapped then c.route now d seed false
  else if c.topology.isSeed then
    match c.startRefresh with
    | (c, .asking request r) => (c, .asking request (.bootstrapping d seed r))
    | (c, .done _) => c.finishBootstrap now d seed true
  else c.finishBootstrap now d seed false

def onSuccess (c : Client) (now : Nat) (a : Attempt) (response : Http.Response) :
    Client × Execution :=
  let d := a.call.descriptor
  let answer (payload : Option Bytes) (fromCache : Bool) : Execution :=
    { payload, node := a.node, failures := a.attempts.nodeFailures, fromCache }
  if response.isNotModified then
    match a.call.cached with
    | some entry => (c, answer (some entry.payload) true)
    | none => (c, answer none false)
  else
    let cache := match a.call.key, response.etag? with
      | some key, some validator => c.cache.put now key validator response.body
      | some key, none => (c.cache.remove key).1
      | none, _ => c.cache
    let cache := if d.isRead then cache else (cache.invalidate (c.databaseFor d) d.staleStem).1
    ({ c with cache }, answer (if response.status = 204 then none else some response.body) false)

def onNotFound (c : Client) (a : Attempt) : Client × Except Fault Execution :=
  let d := a.call.descriptor
  if d.isRead && !d.requireExistence then
    let cache := match a.call.key with
      | some key => (c.cache.remove key).1
      | none => c.cache
    ({ c with cache },
      .ok { payload := none, node := a.node, failures := a.attempts.nodeFailures })
  else (c, .error (.notFound d.route))

def onSetback (c : Client) (now : Nat) (a : Attempt) (setback : Setback) :
    Client × Call.Progress :=
  match setback with
  | .terminal fault => (c, .done (.error fault))
  | .retry fault refresh =>
    let c := c.modifyStats (·.recordFailure a.node.url)
    let attempts := a.attempts.recordFailure a.index fault
    let (c, attempts) := c.signalIf refresh attempts
    c.tryNext now a.call attempts

def nanosPerMilli : Nat := 1000000

def onResponse (c : Client) (now : Nat) (a : Attempt) (response : Http.Response) :
    Client × Call.Progress :=
  let (c, attempts) := c.signalIf response.asksRefresh a.attempts
  let a := { a with attempts }
  match c.settings.statuses.classify a.call.descriptor response with
  | .success =>
    let latency := (now - a.sentAt) * nanosPerMilli
    let c := c.modifyStats (·.recordSuccess a.node.url latency)
    let (c, execution) := c.onSuccess now a response
    (c, .done (.ok execution))
  | .notFound =>
    let (c, outcome) := c.onNotFound a
    (c, .done outcome)
  | .failed setback => c.onSetback now a setback

def resumeCall (c : Client) (now : Nat) (call : Call.Suspended) (reply : Http.Reply) :
    Client × Call.Progress :=
  match call with
  | .bootstrapping d seed r =>
    match c.resumeRefresh now r reply with
    | (c, .asking request r) => (c, .asking request (.bootstrapping d seed r))
    | (c, .done _) => c.finishBootstrap now d seed true
  | .attempting a =>
    match reply with
    | .error cause =>
      c.onSetback now a (cause.setback (c.requestUrl a.call.descriptor a.node))
    | .ok response => c.onResponse now a response

def dropCall (c : Client) : Call.Suspended → Client
  | .bootstrapping .. => c.dropRefresh
  | .attempting _ => c

theorem tryNext_asking {c c' : Client} {now : Nat} {call : Call} {a : Attempts}
    {request : Http.Request} {next : Call.Suspended}
    (h : c.tryNext now call a = (c', .asking request next)) :
    ∃ attempt, next = .attempting attempt ∧
      attempt.attempts.remaining.length < a.remaining.length := by
  unfold tryNext at h
  split at h
  · rename_i index rest eq
    split at h
    · simp only [Prod.mk.injEq, Call.Progress.asking.injEq] at h
      refine ⟨_, h.2.2.symm, ?_⟩
      simpa [eq] using Attempts.length_remaining_next (a := a) (i := index) (by simp [eq])
    · simp at h
  · simp at h

theorem onSetback_asking {c c' : Client} {now : Nat} {a : Attempt} {setback : Setback}
    {request : Http.Request} {next : Call.Suspended}
    (h : c.onSetback now a setback = (c', .asking request next)) :
    ∃ attempt, next = .attempting attempt ∧
      attempt.attempts.remaining.length < a.attempts.remaining.length := by
  unfold onSetback at h
  split at h
  · simp at h
  · simp only at h
    simpa [remaining_signalIf, Attempts.recordFailure] using tryNext_asking h

theorem onResponse_asking {c c' : Client} {now : Nat} {a : Attempt} {response : Http.Response}
    {request : Http.Request} {next : Call.Suspended}
    (h : c.onResponse now a response = (c', .asking request next)) :
    ∃ attempt, next = .attempting attempt ∧
      attempt.attempts.remaining.length < a.attempts.remaining.length := by
  unfold onResponse at h
  simp only at h
  split at h
  · simp at h
  · simp at h
  · simpa [remaining_signalIf] using onSetback_asking h

theorem route_asking {c c' : Client} {now : Nat} {d : Descriptor} {seed : UInt64}
    {claimed : Bool} {request : Http.Request} {next : Call.Suspended}
    (h : c.route now d seed claimed = (c', .asking request next)) :
    ∃ attempt, next = .attempting attempt := by
  unfold route at h
  simp only at h
  split at h
  · simp at h
  · have ⟨attempt, eq, _⟩ := tryNext_asking h
    exact ⟨attempt, eq⟩

theorem resumeCall_asking {c c' : Client} {now : Nat} {call next : Call.Suspended}
    {reply : Http.Reply} {request : Http.Request}
    (h : c.resumeCall now call reply = (c', .asking request next)) :
    Prod.Lex (· < ·) (· < ·) next.rank call.rank := by
  unfold resumeCall at h
  split at h
  · split at h
    · rename_i eq
      simp only [Prod.mk.injEq, Call.Progress.asking.injEq] at h
      rw [← h.2.2]
      exact .right _ (resumeRefresh_asking eq)
    · obtain ⟨attempt, rfl⟩ := route_asking h
      exact .left _ _ (by simp)
  · split at h
    · obtain ⟨attempt, rfl, less⟩ := onSetback_asking h
      exact .right _ less
    · obtain ⟨attempt, rfl, less⟩ := onResponse_asking h
      exact .right _ less

def drawSeed (c : Client) : Client × UInt64 :=
  ({ c with rotation := c.rotation + 1 }, c.rotation)

def seedFor (c : Client) : Option UInt64 → Client × UInt64
  | some seed => (c, seed)
  | none => c.drawSeed

end Client

end ClusterClient
