import ClusterClient.Client
import ClusterClient.Disposition

namespace ClusterClient

def withSeeds (targets : List Node) (seeds : List Node) : List Node :=
  seeds.foldl (fun targets seed =>
    if targets.any (·.baseUrl == seed.baseUrl) then targets else targets ++ [seed]) targets

inductive Refresh.Progress
  | asking (request : Http.Request) (refresh : Refresh)
  | done (outcome : Except Fault Bool)
deriving Inhabited

namespace Client

def refreshTargets (c : Client) (snapshot : Topology) : List Node :=
  withSeeds snapshot.nodes (Topology.seed c.settings.seeds c.database?).nodes

def fetchRequest (c : Client) (node : Node) : Http.Request where
  method := .get
  url := node.baseUrl ++ c.settings.source.descriptor.route
  headers := (Http.Field.accept, Http.jsonType) ::
    c.settings.apiKey.toList.map fun key => (Http.Field.authorization, Http.bearer key)

def fetched (c : Client) (node : Node) (reply : Http.Reply) : Except Fault Topology :=
  match reply with
  | .error cause => .error (.transport (c.fetchRequest node).url cause)
  | .ok response =>
    let d := c.settings.source.descriptor
    match c.settings.statuses.classify d response with
    | .success =>
      match c.settings.source.parse? response.body with
      | some t => .ok t
      | none => .error (.serialization none)
    | .notFound => .error (.notFound d.route)
    | .failed setback => .error setback.fault

def finishRefresh (c : Client) (outcome : Except Fault Bool) : Client × Refresh.Progress :=
  let fault := match outcome with
    | .error fault => some fault
    | .ok _ => none
  (c.modifyWatch fun w => { w with inFlight := w.inFlight - 1, lastFault := fault },
    .done outcome)

def askNext (c : Client) (snapshot : Topology) (places : List Node)
    (failures : List NodeFailure) : Client × Refresh.Progress :=
  match places with
  | [] => c.finishRefresh (.error (.unreachable snapshot failures))
  | node :: remaining =>
    (c, .asking (c.fetchRequest node) { snapshot, asked := node, remaining, failures })

def startRefresh (c : Client) : Client × Refresh.Progress :=
  let c := c.modifyWatch fun w => { w with inFlight := w.inFlight + 1 }
  c.askNext c.topology (c.refreshTargets c.topology) []

def resumeRefresh (c : Client) (now : Nat) (r : Refresh) (reply : Http.Reply) :
    Client × Refresh.Progress :=
  match c.fetched r.asked reply with
  | .ok t =>
    let c := c.modifyWatch fun w => { w with lastRefresh := some now }
    let (c, installed) := c.offer t
    c.finishRefresh (.ok installed)
  | .error fault => c.askNext r.snapshot r.remaining (r.failures ++ [(r.asked, fault)])

def dropRefresh (c : Client) : Client :=
  c.modifyWatch fun w => { w with inFlight := w.inFlight - 1 }

theorem askNext_asking {c c' : Client} {snapshot : Topology} {places : List Node}
    {failures : List NodeFailure} {request : Http.Request} {r : Refresh}
    (h : c.askNext snapshot places failures = (c', .asking request r)) :
    r.remaining.length < places.length := by
  unfold askNext at h
  split at h
  · simp [finishRefresh] at h
  · simp only [Prod.mk.injEq, Refresh.Progress.asking.injEq] at h
    simp [← h.2.2]

theorem resumeRefresh_asking {c c' : Client} {now : Nat} {r r' : Refresh} {reply : Http.Reply}
    {request : Http.Request} (h : c.resumeRefresh now r reply = (c', .asking request r')) :
    r'.remaining.length < r.remaining.length := by
  unfold resumeRefresh at h
  split at h
  · simp [finishRefresh] at h
  · exact askNext_asking h

end Client

end ClusterClient
