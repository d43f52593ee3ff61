import ClusterClient.Proofs.Course
import ClusterClient.Proofs.Search
import Mathlib.Data.List.Forall2

/-!
# A refresh tries every known place

A refresh asks the nodes of the snapshot that it began with, and then the seeds that are not among
them, each of them once. It ends with the first snapshot that it gets, or else with the failures of
all of them and nothing changed.
-/

namespace ClusterClient

/-! ## Places -/

theorem withSeeds_cons (targets : List Node) (seed : Node) (rest : List Node) :
    withSeeds targets (seed :: rest) = withSeeds
      (if targets.any (·.baseUrl == seed.baseUrl) then targets else targets ++ [seed]) rest := rfl

theorem subset_withSeeds (targets seeds : List Node) : targets ⊆ withSeeds targets seeds := by
  induction seeds generalizing targets with
  | nil => exact fun _ member => member
  | cons seed rest ih =>
      rw [withSeeds_cons]
      split
      · exact ih targets
      · exact List.Subset.trans (List.subset_append_left targets [seed]) (ih _)

theorem exists_mem_withSeeds (targets : List Node) {seeds : List Node} {seed : Node}
    (member : seed ∈ seeds) :
    ∃ node ∈ withSeeds targets seeds, node.baseUrl = seed.baseUrl := by
  induction seeds generalizing targets with
  | nil => cases member
  | cons first rest ih =>
      rw [withSeeds_cons]
      cases member with
      | head =>
          split
          · rename_i known
            obtain ⟨node, there, same⟩ := List.any_eq_true.1 known
            exact ⟨node, subset_withSeeds targets rest there, eq_of_beq same⟩
          · exact ⟨seed, subset_withSeeds _ rest List.mem_concat_self, rfl⟩
      | tail _ later => exact ih _ later

theorem withSeeds_eq (targets seeds : List Node) :
    ∃ added, withSeeds targets seeds = targets ++ added ∧ added.Sublist seeds ∧
      ∀ before node after, added = before ++ node :: after →
        ∀ earlier ∈ targets ++ before, earlier.baseUrl ≠ node.baseUrl := by
  induction seeds generalizing targets with
  | nil => exact ⟨[], (List.append_nil _).symm, .refl [], by simp⟩
  | cons seed rest ih =>
      rw [withSeeds_cons]
      by_cases known : targets.any (·.baseUrl == seed.baseUrl) = true
      · rw [if_pos known]
        obtain ⟨added, eq, sublist, fresh⟩ := ih targets
        exact ⟨added, eq, sublist.cons seed, fresh⟩
      · rw [if_neg known]
        obtain ⟨added, eq, sublist, fresh⟩ := ih (targets ++ [seed])
        refine ⟨seed :: added, by rw [eq, List.append_assoc]; rfl, sublist.cons_cons seed, ?_⟩
        rintro (_ | ⟨first, before⟩) node after split earlier member
        · cases split
          intro same
          rw [List.append_nil] at member
          exact known (List.any_eq_true.2 ⟨earlier, member, beq_iff_eq.2 same⟩)
        · cases split
          exact fresh before node after rfl earlier (by simpa using member)

/-- Places in the order in which they are asked: the known nodes, and the seeds that have the base
URL of no earlier place. -/
structure Covers (known : List Node) (urls : List String) (database : Option String)
    (places : List Node) : Prop where
  order : ∃ kept : List String, kept.Sublist urls ∧
    places = known ++ kept.map (Node.seed · database)
  every : ∀ url ∈ urls, ∃ node ∈ places, node.baseUrl = (Node.seed url database).baseUrl
  once : ∀ before node after, places = known ++ before ++ node :: after →
    ∀ earlier ∈ known ++ before, earlier.baseUrl ≠ node.baseUrl

theorem Client.covers_refreshTargets (c : Client) (snapshot : Topology) :
    Covers snapshot.nodes c.settings.seeds c.database? (c.refreshTargets snapshot) := by
  obtain ⟨added, eq, sublist, fresh⟩ :=
    withSeeds_eq snapshot.nodes (Topology.seed c.settings.seeds c.database?).nodes
  have targets : c.refreshTargets snapshot = snapshot.nodes ++ added := eq
  constructor
  case order =>
    obtain ⟨kept, within, rfl⟩ := List.sublist_map_iff.1 sublist
    exact ⟨kept, within, targets⟩
  case every =>
    intro url member
    exact exists_mem_withSeeds snapshot.nodes (List.mem_map_of_mem member)
  case once =>
    intro before node after split
    rw [targets, List.append_assoc] at split
    exact fresh before node after (List.append_cancel_left split)

example : (withSeeds [⟨"http://a/", "A", none, .member⟩]
    [.seed "http://b//" none, .seed "http://a" none, .seed "http://b" none]).map (·.url) =
      ["http://a/", "http://b//"] := by decide +kernel

/-! ## Answers -/

namespace Client

def Yields (c : Client) (reply : Http.Reply) (t : Topology) : Prop :=
  ∃ response, reply = .ok response ∧
    c.settings.statuses.classify c.settings.source.descriptor response = .success ∧
    c.settings.source.parse? response.body = some t

theorem Yields.unique {c : Client} {reply : Http.Reply} {t t' : Topology}
    (yields : c.Yields reply t) (yields' : c.Yields reply t') : t = t' := by
  obtain ⟨response, rfl, -, read⟩ := yields
  obtain ⟨response', same, -, read'⟩ := yields'
  cases same
  exact Option.some.inj (read.symm.trans read')

/-- A place fails: it is not reached, does not know of the topology, refuses to answer, or answers
with something else. -/
inductive Fails (c : Client) (node : Node) : Http.Reply → Fault → Prop
  | transport (cause : Http.Failure) :
      Fails c node (.error cause)
        (.transport (node.baseUrl ++ c.settings.source.descriptor.route) cause)
  | absent {response : Http.Response}
      (disposition : c.settings.statuses.classify c.settings.source.descriptor response =
        .notFound) :
      Fails c node (.ok response) (.notFound c.settings.source.descriptor.route)
  | refused {response : Http.Response} {setback : Setback}
      (disposition : c.settings.statuses.classify c.settings.source.descriptor response =
        .failed setback) :
      Fails c node (.ok response) setback.fault
  | unparsed {response : Http.Response}
      (disposition : c.settings.statuses.classify c.settings.source.descriptor response =
        .success)
      (unread : c.settings.source.parse? response.body = none) :
      Fails c node (.ok response) (.serialization none)

def fetchFault? (c : Client) (node : Node) (reply : Http.Reply) : Option Fault :=
  match c.fetched node reply with
  | .ok _ => none
  | .error fault => some fault

theorem fetched_eq_ok_iff {c : Client} {node : Node} {reply : Http.Reply} {t : Topology} :
    c.fetched node reply = .ok t ↔ c.Yields reply t := by
  unfold fetched Yields
  cases reply with
  | error cause => simp
  | ok response =>
      cases disposition : c.settings.statuses.classify c.settings.source.descriptor response with
      | success => cases read : c.settings.source.parse? response.body <;> simp [disposition, read]
      | notFound => simp [disposition]
      | failed setback => simp [disposition]

theorem fetched_eq_error_iff {c : Client} {node : Node} {reply : Http.Reply} {fault : Fault} :
    c.fetched node reply = .error fault ↔ c.Fails node reply fault := by
  constructor
  · intro failed
    unfold fetched at failed
    cases reply with
    | error cause =>
        cases failed
        exact .transport cause
    | ok response =>
        cases disposition : c.settings.statuses.classify c.settings.source.descriptor response with
        | success =>
            cases read : c.settings.source.parse? response.body with
            | some t => simp [disposition, read] at failed
            | none =>
                simp only [disposition, read, Except.error.injEq] at failed
                rw [← failed]
                exact .unparsed disposition read
        | notFound =>
            simp only [disposition, Except.error.injEq] at failed
            rw [← failed]
            exact .absent disposition
        | failed setback =>
            simp only [disposition, Except.error.injEq] at failed
            rw [← failed]
            exact .refused disposition
  · intro fails
    cases fails with
    | transport cause => rfl
    | absent disposition => simp [fetched, disposition]
    | refused disposition => simp [fetched, disposition]
    | unparsed disposition unread => simp [fetched, disposition, unread]

theorem fetchFault?_eq_some_iff {c : Client} {node : Node} {reply : Http.Reply} {fault : Fault} :
    c.fetchFault? node reply = some fault ↔ c.Fails node reply fault := by
  rw [← fetched_eq_error_iff, fetchFault?]
  cases c.fetched node reply <;> simp

theorem fetchFault?_of_yields {c : Client} {reply : Http.Reply} {t : Topology}
    (yields : c.Yields reply t) (node : Node) : c.fetchFault? node reply = none := by
  rw [fetchFault?, fetched_eq_ok_iff.2 yields]

theorem fetched_congr {c c' : Client} (same : c.settings = c'.settings) (node : Node)
    (reply : Http.Reply) : c.fetched node reply = c'.fetched node reply := by
  cases reply with
  | error cause => simp only [fetched, fetchRequest_congr same]
  | ok response => simp only [fetched, same]

def FailsAt (c : Client) (places : List Node) (replies : List Http.Reply) (j : Nat) : Prop :=
  ∃ node reply fault, places[j]? = some node ∧ replies[j]? = some reply ∧
    c.Fails node reply fault

theorem Fails.not_yields {c : Client} {node : Node} {reply : Http.Reply} {fault : Fault}
    (fails : c.Fails node reply fault) {t : Topology} : ¬c.Yields reply t := by
  intro yields
  have passes := fetchFault?_of_yields yields node
  rw [fetchFault?_eq_some_iff.2 fails] at passes
  cases passes

theorem failsAt_iff {c : Client} {places : List Node} {replies : List Http.Reply} {j : Nat} :
    c.FailsAt places replies j ↔ FaultAt c.fetchFault? places replies j := by
  simp only [FailsAt, FaultAt, Option.isSome_iff_exists, fetchFault?_eq_some_iff]
  constructor
  · rintro ⟨node, reply, fault, atNode, atReply, fails⟩
    exact ⟨node, reply, atNode, atReply, fault, fails⟩
  · rintro ⟨node, reply, atNode, atReply, fault, fails⟩
    exact ⟨node, reply, fault, atNode, atReply, fails⟩

def HoldsAs (c c' : Client) : Prop :=
  c'.topology = c.topology ∧ c'.watch.lastRefresh = c.watch.lastRefresh

theorem holdsAs_askNext (c : Client) (snapshot : Topology) (places : List Node)
    (failures : List NodeFailure) : c.HoldsAs (c.askNext snapshot places failures).1 := by
  cases places <;> exact ⟨rfl, rfl⟩

theorem resumeRefresh_fails {c : Client} {r : Refresh} {reply : Http.Reply} {fault : Fault}
    (fails : c.fetched r.asked reply = .error fault) (now : Nat) :
    c.resumeRefresh now r reply =
      c.askNext r.snapshot r.remaining (r.failures ++ [(r.asked, fault)]) := by
  rw [resumeRefresh, fails]

theorem resumeRefresh_yields {c : Client} {r : Refresh} {reply : Http.Reply} {t : Topology}
    (yields : c.fetched r.asked reply = .ok t) (now : Nat) :
    (c.resumeRefresh now r reply).2 = .done (.ok (decide (c.topology.etag < t.etag))) := by
  have installed : (c.topology.offer t).2 = decide (c.topology.etag < t.etag) := by
    rw [Bool.eq_iff_iff, decide_eq_true_iff]
    exact Topology.installed_iff
  rw [resumeRefresh, yields, ← installed]
  rfl

end Client

/-! ## The course of a refresh -/

namespace Refresh

def Progress.request? : Progress → Option Http.Request
  | .asking request _ => some request
  | .done _ => none

def Progress.outcome? : Progress → Option (Except Fault Bool)
  | .asking .. => none
  | .done outcome => some outcome

@[simp] theorem Progress.request?_asking (request : Http.Request) (r : Refresh) :
    request? (.asking request r) = some request := rfl

@[simp] theorem Progress.request?_done (outcome : Except Fault Bool) :
    request? (.done outcome) = none := rfl

@[simp] theorem Progress.outcome?_asking (request : Http.Request) (r : Refresh) :
    outcome? (.asking request r) = none := rfl

@[simp] theorem Progress.outcome?_done (outcome : Except Fault Bool) :
    outcome? (.done outcome) = some outcome := rfl

end Refresh

structure Refresh.Stage where
  beside : Workload
  progress : Refresh.Progress

def Workload.refreshStage (w : Workload) (step : Client × Refresh.Progress) : Refresh.Stage :=
  ⟨{ w with client := step.1 }, step.2⟩

namespace Refresh.Stage

def found (s : Stage) (turn : Turn) : Client := (s.beside.run turn.others).client

def course (s : Stage) : List Turn → List Stage
  | [] => [s]
  | turn :: turns =>
      match s.progress with
      | .done _ => [s]
      | .asking _ r =>
          let w := s.beside.run turn.others
          s :: (w.refreshStage (w.client.resumeRefresh turn.now r turn.reply)).course turns

theorem course_asking {s : Stage} {request : Http.Request} {r : Refresh}
    (asking : s.progress = .asking request r) (turn : Turn) (turns : List Turn) :
    s.course (turn :: turns) =
      s :: ((s.beside.run turn.others).refreshStage
        ((s.found turn).resumeRefresh turn.now r turn.reply)).course turns := by
  simp only [course, asking, found]

theorem course_done {s : Stage} {outcome : Except Fault Bool}
    (ended : s.progress = .done outcome) (turns : List Turn) : s.course turns = [s] := by
  cases turns with
  | nil => rfl
  | cons turn turns => simp only [course, ended]

end Refresh.Stage

def Workload.refreshCourse (w : Workload) (turns : List Turn) : List Refresh.Stage :=
  (w.refreshStage w.client.startRefresh).course turns

inductive Fetches (c : Client) (snapshot : Topology) :
    List NodeFailure → List Node → Refresh.Stage → List Refresh.Stage → List Turn → Prop
  | exhausted {failures : List NodeFailure} {s : Refresh.Stage} {turns : List Turn}
      (ended : s.progress = .done (.error (.unreachable snapshot failures))) :
      Fetches c snapshot failures [] s [] turns
  | waits {failures : List NodeFailure} {node : Node} {places : List Node} {s : Refresh.Stage}
      {r : Refresh} (asking : s.progress = .asking (c.fetchRequest node) r) :
      Fetches c snapshot failures (node :: places) s [] []
  | fails {failures : List NodeFailure} {node : Node} {places : List Node} {s next : Refresh.Stage}
      {r : Refresh} {turn : Turn} {fault : Fault} {rest : List Refresh.Stage} {turns : List Turn}
      (asking : s.progress = .asking (c.fetchRequest node) r)
      (fails : c.fetchFault? node turn.reply = some fault)
      (kept : (s.found turn).HoldsAs next.beside.client)
      (later : Fetches c snapshot (failures ++ [(node, fault)]) places next rest turns) :
      Fetches c snapshot failures (node :: places) s (next :: rest) (turn :: turns)
  | yields {failures : List NodeFailure} {node : Node} {places : List Node}
      {s last : Refresh.Stage} {r : Refresh} {turn : Turn} {t : Topology} {turns : List Turn}
      (asking : s.progress = .asking (c.fetchRequest node) r)
      (yields : c.Yields turn.reply t)
      (ended : last.progress = .done (.ok (decide ((s.found turn).topology.etag < t.etag)))) :
      Fetches c snapshot failures (node :: places) s [last] (turn :: turns)

theorem course_fetches (c : Client) (snapshot : Topology) (turns : List Turn) (w : Workload)
    (same : w.client.settings = c.settings) (places : List Node) (failures : List NodeFailure) :
    let s := w.refreshStage (w.client.askNext snapshot places failures)
    ∃ rest, s.course turns = s :: rest ∧ Fetches c snapshot failures places s rest turns := by
  intro s
  -- Between two replies the client may become another one, but its settings are still those of `c`.
  induction turns generalizing w places failures with
  | nil =>
      refine ⟨[], rfl, ?_⟩
      cases places with
      | nil => exact .exhausted rfl
      | cons node places =>
          have request := Client.fetchRequest_congr same node
          exact .waits (congrArg (Refresh.Progress.asking · _) request)
  | cons turn turns ih =>
      cases places with
      | nil => exact ⟨[], Refresh.Stage.course_done rfl _, .exhausted rfl⟩
      | cons node places =>
          let r : Refresh := { snapshot, asked := node, remaining := places, failures }
          have asking : s.progress = .asking (c.fetchRequest node) r :=
            congrArg (Refresh.Progress.asking · r) (Client.fetchRequest_congr same node)
          let beside := s.beside.run turn.others
          have kept : beside.client.settings = c.settings :=
            (Workload.settings_run _ turn.others).trans same
          have judged := Client.fetched_congr kept node turn.reply
          rw [Refresh.Stage.course_asking asking]
          cases answer : c.fetched node turn.reply with
          | error fault =>
              have next : (s.found turn).resumeRefresh turn.now r turn.reply = _ :=
                Client.resumeRefresh_fails (r := r) (judged.trans answer) turn.now
              obtain ⟨rest, split, later⟩ := ih beside kept places (failures ++ [(node, fault)])
              rw [next]
              refine ⟨_, congrArg _ split, .fails asking ?_ ?_ later⟩
              · exact Client.fetchFault?_eq_some_iff.2 (Client.fetched_eq_error_iff.1 answer)
              · exact Client.holdsAs_askNext ..
          | ok t =>
              have ended := Client.resumeRefresh_yields (r := r) (judged.trans answer) turn.now
              refine ⟨_, congrArg _ (Refresh.Stage.course_done ended turns), ?_⟩
              exact .yields asking (Client.fetched_eq_ok_iff.1 answer) ended

namespace Fetches

variable {c : Client} {snapshot : Topology} {earlier : List NodeFailure} {places : List Node}
  {s : Refresh.Stage} {rest : List Refresh.Stage} {turns : List Turn}

theorem requests (fetches : Fetches c snapshot earlier places s rest turns) :
    (s :: rest).filterMap (·.progress.request?) =
      (places.take ((leadingFaults c.fetchFault? places (turns.map (·.reply))).length + 1)).map
        c.fetchRequest := by
  induction fetches with
  | exhausted ended => simp [ended]
  | waits asking => simp [asking, leadingFaults]
  | fails asking fails kept later ih =>
      rw [List.filterMap_cons, ih, asking, List.map_cons, leadingFaults, fails]
      rfl
  | yields asking yields ended =>
      simp [asking, ended, leadingFaults, Client.fetchFault?_of_yields yields]

theorem unreachable_iff (fetches : Fetches c snapshot earlier places s rest turns)
    {fault : Fault} :
    let failures := leadingFaults c.fetchFault? places (turns.map (·.reply))
    (s :: rest).findSome? (·.progress.outcome?) = some (.error fault) ↔
      failures.length = places.length ∧ fault = .unreachable snapshot (earlier ++ failures) := by
  induction fetches with
  | exhausted ended => simp [ended, leadingFaults, eq_comm]
  | waits asking => simp [asking, leadingFaults]
  | fails asking fails kept later ih =>
      rw [List.findSome?_cons, asking]
      simp only [List.map_cons, leadingFaults, fails]
      simpa using ih
  | yields asking yields ended =>
      simp [asking, ended, leadingFaults, Client.fetchFault?_of_yields yields]

theorem updates_iff (fetches : Fetches c snapshot earlier places s rest turns) {b : Bool} :
    let n := (leadingFaults c.fetchFault? places (turns.map (·.reply))).length
    (s :: rest).findSome? (·.progress.outcome?) = some (.ok b) ↔
      ∃ asked turn t, n < places.length ∧ (s :: rest)[n]? = some asked ∧ turns[n]? = some turn ∧
        c.Yields turn.reply t ∧ b = decide ((asked.found turn).topology.etag < t.etag) := by
  induction fetches with
  | exhausted ended => simp [ended]
  | waits asking => simp [asking]
  | fails asking fails kept later ih =>
      rw [List.findSome?_cons, asking]
      simp only [List.map_cons, leadingFaults, fails]
      simpa using ih
  | @yields failures node places s last r turn t turns asking yields ended =>
      simp only [List.map_cons, leadingFaults, Client.fetchFault?_of_yields yields]
      constructor
      · intro outcome
        refine ⟨s, turn, t, Nat.succ_pos _, rfl, rfl, yields, ?_⟩
        simpa [asking, ended, eq_comm] using outcome
      · rintro ⟨asked, turn', t', -, atStage, atTurn, yields', rfl⟩
        cases atStage
        cases atTurn
        cases yields'.unique yields
        simp [asking, ended]

theorem ends (fetches : Fetches c snapshot earlier places s rest turns)
    (enough : places.length ≤ turns.length) :
    ((s :: rest).findSome? (·.progress.outcome?)).isSome = true := by
  induction fetches with
  | exhausted ended => simp [ended]
  | waits asking => cases enough
  | fails asking fails kept later ih =>
      rw [List.findSome?_cons, asking]
      exact ih (Nat.le_of_succ_le_succ enough)
  | yields asking yields ended => simp [asking, ended]

theorem untouched (fetches : Fetches c snapshot earlier places s rest turns) {fault : Fault}
    (failed : (s :: rest).findSome? (·.progress.outcome?) = some (.error fault)) (i : Nat)
    {asked next : Refresh.Stage} {turn : Turn} (before : (s :: rest)[i]? = some asked)
    (after : rest[i]? = some next) (reply : turns[i]? = some turn) :
    (asked.found turn).HoldsAs next.beside.client := by
  induction fetches generalizing i with
  | exhausted ended => cases after
  | waits asking => cases after
  | fails asking fails kept later ih =>
      rw [List.findSome?_cons, asking] at failed
      cases i with
      | zero =>
          cases before
          cases after
          cases reply
          exact kept
      | succ i => exact ih failed i before after reply
  | yields asking yields ended => simp [asking, ended] at failed

end Fetches

/-! ## All refreshes -/

/-- A request that asks a place for the snapshot of a source. -/
structure Settings.IsFetchOf (s : Settings) (place : Node) (request : Http.Request) : Prop where
  method : request.method = .get
  url : request.url = place.baseUrl ++ s.source.descriptor.route
  headers : request.headers = ("Accept", "application/json") ::
    s.apiKey.toList.map fun key => ("Authorization", "Bearer " ++ key)
  body : request.body = none

theorem Client.isFetchOf_fetchRequest (c : Client) (place : Node) :
    c.settings.IsFetchOf place (c.fetchRequest place) := ⟨rfl, rfl, rfl, rfl⟩

/-- A refresh that asks these places from the first one on, each once, until one of them answers
with a snapshot, and comes to whether that is newer than the one held by then, or to the failures of
all of them and nothing else. -/
structure TriesEachOnce (w : Workload) (places : List Node) (course : List Refresh.Stage)
    (turns : List Turn) : Prop where
  covers : Covers w.client.topology.nodes w.client.settings.seeds w.client.database? places
  asks : List.Forall₂ w.client.settings.IsFetchOf
    (places.take (course.filterMap (·.progress.request?)).length)
    (course.filterMap (·.progress.request?))
  reaches : ∀ i, i < (course.filterMap (·.progress.request?)).length ↔
    i < places.length ∧ ∀ j < i, w.client.FailsAt places (turns.map (·.reply)) j
  updates : ∀ b, course.findSome? (·.progress.outcome?) = some (.ok b) ↔
    ∃ i s turn t, i < places.length ∧
      (∀ j < i, w.client.FailsAt places (turns.map (·.reply)) j) ∧
      course[i]? = some s ∧ turns[i]? = some turn ∧ w.client.Yields turn.reply t ∧
      b = decide ((s.found turn).topology.etag < t.etag)
  unreachable : (∃ fault, course.findSome? (·.progress.outcome?) = some (.error fault)) ↔
    ∀ j < places.length, w.client.FailsAt places (turns.map (·.reply)) j
  blames : ∀ fault, course.findSome? (·.progress.outcome?) = some (.error fault) →
    ∃ failures, fault = .unreachable w.client.topology failures ∧ failures.map (·.1) = places ∧
      ∀ (i : Nat) (failure : NodeFailure), failures[i]? = some failure →
        ∃ turn, turns[i]? = some turn ∧ w.client.Fails failure.1 turn.reply failure.2
  harmless : ∀ fault, course.findSome? (·.progress.outcome?) = some (.error fault) →
    (∀ s, course[0]? = some s → w.client.HoldsAs s.beside.client) ∧
    ∀ i s next turn, course[i]? = some s → course[i + 1]? = some next → turns[i]? = some turn →
      (s.found turn).HoldsAs next.beside.client
  ends : places.length ≤ turns.length →
    (course.findSome? (·.progress.outcome?)).isSome = true

theorem Fetches.triesEachOnce {w : Workload} {places : List Node} {s : Refresh.Stage}
    {rest : List Refresh.Stage} {turns : List Turn}
    (fetches : Fetches w.client w.client.topology [] places s rest turns)
    (covers : Covers w.client.topology.nodes w.client.settings.seeds w.client.database? places)
    (entered : w.client.HoldsAs s.beside.client) : TriesEachOnce w places (s :: rest) turns := by
  let failures := leadingFaults w.client.fetchFault? places (turns.map (·.reply))
  have bound : failures.length ≤ places.length := length_leadingFaults_le ..
  have reached (i : Nat) : i ≤ failures.length ↔
      ∀ j < i, w.client.FailsAt places (turns.map (·.reply)) j := by
    simp only [Client.failsAt_iff]
    exact le_length_leadingFaults_iff ..
  have all : failures.length = places.length ↔
      ∀ j < places.length, w.client.FailsAt places (turns.map (·.reply)) j := by
    rw [← reached]
    omega
  have requests : (s :: rest).filterMap (·.progress.request?) =
      (places.take (failures.length + 1)).map w.client.fetchRequest := fetches.requests
  have count : ((s :: rest).filterMap (·.progress.request?)).length =
      min (failures.length + 1) places.length := by
    rw [requests, List.length_map, List.length_take]
  constructor
  case covers => exact covers
  case asks =>
    rw [count, requests, ← List.take_take, List.take_length, List.forall₂_map_right_iff,
      List.forall₂_same]
    exact fun place _ => w.client.isFetchOf_fetchRequest place
  case reaches =>
    intro i
    rw [count, ← reached]
    omega
  case updates =>
    intro b
    refine fetches.updates_iff.trans ?_
    constructor
    · rintro ⟨asked, turn, t, inside, found⟩
      exact ⟨failures.length, asked, turn, t, inside, (reached _).1 (Nat.le_refl _), found⟩
    · rintro ⟨i, asked, turn, t, inside, before, atStage, atTurn, yields, eq⟩
      have least : i ≤ failures.length := (reached i).2 before
      have most : ¬i + 1 ≤ failures.length := by
        intro beyond
        obtain ⟨node, reply, fault, -, atReply, fails⟩ :=
          (reached _).1 beyond i (Nat.lt_succ_self i)
        rw [List.getElem?_map, atTurn] at atReply
        cases atReply
        exact fails.not_yields yields
      have place : i = failures.length := by omega
      subst place
      exact ⟨asked, turn, t, inside, atStage, atTurn, yields, eq⟩
  case unreachable =>
    rw [← all]
    constructor
    · rintro ⟨fault, failed⟩
      exact (fetches.unreachable_iff.1 failed).1
    · intro every
      exact ⟨_, fetches.unreachable_iff.2 ⟨every, rfl⟩⟩
  case blames =>
    intro fault failed
    obtain ⟨every, blamed⟩ := fetches.unreachable_iff.1 failed
    refine ⟨failures, blamed, ?_, fun i failure listed => ?_⟩
    · rw [map_fst_leadingFaults]
      exact List.take_of_length_le (Nat.le_of_eq every.symm)
    · obtain ⟨-, reply, atReply, judged⟩ := getElem?_leadingFaults listed
      rw [List.getElem?_map, Option.map_eq_some_iff] at atReply
      obtain ⟨turn, atTurn, rfl⟩ := atReply
      exact ⟨turn, atTurn, Client.fetchFault?_eq_some_iff.1 judged⟩
  case harmless =>
    intro fault failed
    constructor
    · rintro first ⟨⟩
      exact entered
    · intro i asked next turn before after reply
      exact fetches.untouched failed i before after reply
  case ends => exact fetches.ends

theorem refresh_tries_each_once (w : Workload) (turns : List Turn) :
    TriesEachOnce w (w.client.refreshTargets w.client.topology) (w.refreshCourse turns) turns := by
  have covers := w.client.covers_refreshTargets w.client.topology
  let entered := w.client.modifyWatch fun watch => { watch with inFlight := watch.inFlight + 1 }
  obtain ⟨rest, course, fetches⟩ := course_fetches w.client w.client.topology turns
    { w with client := entered } rfl (w.client.refreshTargets w.client.topology) []
  have held : w.client.HoldsAs _ := entered.holdsAs_askNext w.client.topology
    (w.client.refreshTargets w.client.topology) []
  have all := fetches.triesEachOnce covers held
  rw [← course] at all
  exact all

end ClusterClient
