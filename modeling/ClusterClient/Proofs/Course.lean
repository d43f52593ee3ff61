import ClusterClient.Proofs.Frame

namespace ClusterClient

/-- What comes about while a request of a call is under way, and the reply to the request. -/
structure Turn where
  others : Workload.Run := []
  now : Nat
  reply : Http.Reply
deriving Inhabited

namespace Call.Progress

def dataRequest? : Progress → Option Http.Request
  | .asking request (.attempting _) => some request
  | _ => none

def outcome? : Progress → Option (Except Fault Execution)
  | .done outcome => some outcome
  | .asking .. => none

def isFetching : Progress → Bool
  | .asking _ (.bootstrapping ..) => true
  | _ => false

@[simp] theorem dataRequest?_attempting (request : Http.Request) (a : Attempt) :
    dataRequest? (.asking request (.attempting a)) = some request := rfl

@[simp] theorem dataRequest?_done (outcome : Except Fault Execution) :
    dataRequest? (.done outcome) = none := rfl

theorem dataRequest?_fetching {progress : Progress} (fetching : progress.isFetching = true) :
    progress.dataRequest? = none := by
  unfold isFetching at fetching
  split at fetching
  · rfl
  · cases fetching

theorem outcome?_fetching {progress : Progress} (fetching : progress.isFetching = true) :
    progress.outcome? = none := by
  unfold isFetching at fetching
  split at fetching
  · rfl
  · cases fetching

@[simp] theorem outcome?_asking (request : Http.Request) (waiting : Suspended) :
    outcome? (.asking request waiting) = none := rfl

@[simp] theorem outcome?_done (outcome : Except Fault Execution) :
    outcome? (.done outcome) = some outcome := rfl

end Call.Progress

structure Stage where
  beside : Workload
  progress : Call.Progress

def Workload.stage (w : Workload) (step : Client × Call.Progress) : Stage :=
  ⟨{ w with client := step.1 }, step.2⟩

/-- The stages of a call from one of them on, with one more for each reply up to its end. -/
def Stage.course (s : Stage) : List Turn → List Stage
  | [] => [s]
  | turn :: turns =>
      match s.progress with
      | .done _ => [s]
      | .asking _ waiting =>
          let w := s.beside.run turn.others
          s :: (w.stage (w.client.resumeCall turn.now waiting turn.reply)).course turns

def Workload.course (w : Workload) (now : Nat) (d : Descriptor) (seed : UInt64)
    (turns : List Turn) : List Stage :=
  (w.stage (w.client.startCall now d seed)).course turns

/-- Where a call takes its snapshot, and the turns that it has from then on. -/
structure Departure where
  held : Workload
  time : Nat
  claimed : Bool
  rest : List Turn

def Departure.course (p : Departure) (d : Descriptor) (seed : UInt64) : List Stage :=
  (p.held.stage (p.held.client.route p.time d seed p.claimed)).course p.rest

/-- A course departs if after some fetches it is that of a call routed there. -/
inductive Departs (d : Descriptor) (seed : UInt64) (p : Departure) : List Stage → List Turn → Prop
  | here : Departs d seed p (p.course d seed) p.rest
  | fetch {s : Stage} {course : List Stage} {turn : Turn} {turns : List Turn}
      (fetching : s.progress.isFetching = true) (later : Departs d seed p course turns) :
      Departs d seed p (s :: course) (turn :: turns)

def StillFetching (course : List Stage) : Prop := ∀ s ∈ course, s.progress.isFetching = true

theorem Stage.course_done {s : Stage} {outcome : Except Fault Execution}
    (ended : s.progress = .done outcome) (turns : List Turn) : s.course turns = [s] := by
  cases turns with
  | nil => rfl
  | cons turn turns => simp only [course, ended]

theorem course_done (w : Workload) (c : Client) (outcome : Except Fault Execution)
    (turns : List Turn) :
    (w.stage (c, .done outcome)).course turns = [w.stage (c, .done outcome)] :=
  Stage.course_done rfl turns

theorem course_asking (w : Workload) (c : Client) (request : Http.Request)
    (waiting : Call.Suspended) (turn : Turn) (turns : List Turn) :
    (w.stage (c, .asking request waiting)).course (turn :: turns) =
      w.stage (c, .asking request waiting) ::
        (let beside := { w with client := c }.run turn.others
        (beside.stage (beside.client.resumeCall turn.now waiting turn.reply)).course turns) := rfl

def Stage.response? (s : Stage) (turn : Turn) : Option Http.Response :=
  match s.progress, turn.reply with
  | .asking _ (.attempting _), .ok response => some response
  | _, _ => none

theorem Stage.response?_eq_some_iff {s : Stage} {turn : Turn} {response : Http.Response} :
    s.response? turn = some response ↔
      ∃ request a, s.progress = .asking request (.attempting a) ∧ turn.reply = .ok response := by
  unfold response?
  split
  · rename_i request a other asking reply
    simp [asking, reply, eq_comm]
  · rename_i apart
    exact ⟨nofun, fun ⟨request, a, asking, reply⟩ => (apart request a response asking reply).elim⟩

def received (course : List Stage) (turns : List Turn) : List Http.Response :=
  (course.zip turns).filterMap fun exchange => exchange.1.response? exchange.2

theorem mem_received_cons {s : Stage} {course : List Stage} {turn : Turn} {turns : List Turn}
    {response : Http.Response} : response ∈ received (s :: course) (turn :: turns) ↔
      s.response? turn = some response ∨ response ∈ received course turns := by
  rw [received, List.zip_cons_cons, List.filterMap_cons]
  cases answer : s.response? turn with
  | none => simp [received]
  | some other => simp [received, eq_comm]

def Quiet (course : List Stage) (turns : List Turn) : Prop :=
  ∀ exchange ∈ course.zip turns, exchange.1.progress.outcome?.isNone = true →
    (exchange.1.beside.run exchange.2.others).client.cache = exchange.1.beside.client.cache

namespace Client

def fetchesFirst (c : Client) : Bool :=
  c.settings.topologyUpdates && !c.isBootstrapped && c.topology.isSeed

theorem finishBootstrap_routes (c : Client) (now : Nat) (d : Descriptor) (seed : UInt64)
    (claimed : Bool) :
    ∃ c', c.finishBootstrap now d seed claimed = c'.route now d seed claimed ∧ c.Follows c' 0 := by
  have booted : c.Follows { c with isBootstrapped := true } 0 := ⟨rfl, rfl, rfl, rfl⟩
  exact ⟨_, rfl, booted.trans (follows_startLoop _ now _ _)⟩

theorem startCall_inScope (c : Client) (now : Nat) {d : Descriptor} (seed : UInt64)
    (inScope : ¬(d.scope = .database ∧ c.database? = none)) :
    (∃ c' request r, c.startCall now d seed = (c', .asking request (.bootstrapping d seed r)) ∧
      c.startRefresh = (c', .asking request r) ∧ c.fetchesFirst = true ∧ c.Follows c' 0) ∨
    ∃ c', c.startCall now d seed = c'.route now d seed c.fetchesFirst ∧ c.Follows c' 0 ∧
      (c.settings.topologyUpdates = false ∨ c.isBootstrapped = true → c' = c) := by
  unfold startCall fetchesFirst
  rw [if_neg inScope]
  by_cases used : c.settings.topologyUpdates = false ∨ c.isBootstrapped = true
  · refine .inr ⟨c, ?_, .refl c, fun _ => rfl⟩
    rcases used with off | booted
    · simp [off]
    · simp [booted]
  · obtain ⟨on, unused⟩ : c.settings.topologyUpdates = true ∧ c.isBootstrapped = false := by
      simpa using used
    cases seeded : c.topology.isSeed with
    | true =>
        have refreshed := follows_startRefresh c
        simp only [on, unused]
        cases next : c.startRefresh with
        | mk c' progress =>
            rw [next] at refreshed
            cases progress with
            | asking request r => exact .inl ⟨c', request, r, rfl, rfl, rfl, refreshed⟩
            | done outcome =>
                obtain ⟨c'', routed, booted⟩ := c'.finishBootstrap_routes now d seed true
                refine .inr ⟨c'', routed, refreshed.trans booted, ?_⟩
                exact fun known => absurd known (by simp)
    | false =>
        obtain ⟨c', routed, booted⟩ := c.finishBootstrap_routes now d seed false
        refine .inr ⟨c', ?_, booted, fun known => absurd known used⟩
        simpa [on, unused] using routed

theorem resumeCall_bootstrapping (c : Client) (now : Nat) (d : Descriptor) (seed : UInt64)
    (r : Refresh) (reply : Http.Reply) :
    (∃ c' request r',
      c.resumeCall now (.bootstrapping d seed r) reply =
        (c', .asking request (.bootstrapping d seed r')) ∧
      r'.remaining.length < r.remaining.length ∧ c.Follows c' 0) ∨
    ∃ c', c.resumeCall now (.bootstrapping d seed r) reply = c'.route now d seed true ∧
      c.Follows c' 0 := by
  have refreshed := follows_resumeRefresh c now r reply
  simp only [resumeCall]
  cases next : c.resumeRefresh now r reply with
  | mk c' progress =>
      rw [next] at refreshed
      cases progress with
      | asking request r' => exact .inl ⟨c', request, r', rfl, resumeRefresh_asking next, refreshed⟩
      | done outcome =>
          obtain ⟨c'', routed, booted⟩ := c'.finishBootstrap_routes now d seed true
          exact .inr ⟨c'', routed, refreshed.trans booted⟩

end Client

theorem course_bootstrapping (d : Descriptor) (seed : UInt64) (turns : List Turn) (w : Workload)
    (c : Client) (request : Http.Request) (r : Refresh) :
    let course := (w.stage (c, .asking request (.bootstrapping d seed r))).course turns
    (∃ p, Departs d seed p course turns) ∨
      StillFetching course ∧ turns.length ≤ r.remaining.length := by
  have fetching : (w.stage (c, .asking request (.bootstrapping d seed r))).progress.isFetching =
      true := rfl
  -- Each reply that does not end the fetch leaves it fewer places, which bounds the turns.
  induction turns generalizing w c request r with
  | nil => exact .inr ⟨by simpa [StillFetching, Stage.course] using fetching, by simp⟩
  | cons turn turns ih =>
      let beside := { w with client := c }.run turn.others
      dsimp only
      rw [course_asking]
      rcases beside.client.resumeCall_bootstrapping turn.now d seed r turn.reply with
        ⟨c', request', r', next, fewer, -⟩ | ⟨c', next, -⟩
      · simp only [beside] at next
        simp only [next]
        rcases ih beside c' request' r' rfl with ⟨p, later⟩ | ⟨wait, places⟩
        · exact .inl ⟨p, .fetch fetching later⟩
        · refine .inr ⟨?_, by rw [List.length_cons]; omega⟩
          exact List.forall_mem_cons.2 ⟨fetching, wait⟩
      · simp only [beside] at next
        simp only [next]
        let p : Departure := ⟨{ beside with client := c' }, turn.now, true, turns⟩
        exact .inl ⟨p, .fetch fetching .here⟩

theorem course_departs (w : Workload) (now : Nat) (d : Descriptor) (seed : UInt64)
    (turns : List Turn) (inScope : ¬(d.scope = .database ∧ w.client.database? = none)) :
    (∃ p, Departs d seed p (w.course now d seed turns) turns ∧
      (w.client.settings.topologyUpdates = false ∨ w.client.isBootstrapped = true →
        p = ⟨w, now, false, turns⟩)) ∨
      StillFetching (w.course now d seed turns) ∧
        turns.length < (w.client.refreshTargets w.client.topology).length := by
  unfold Workload.course
  rcases w.client.startCall_inScope now seed inScope with
    ⟨c', request, r, next, fetch, first, -⟩ | ⟨c', next, -, atOnce⟩
  · have unused : ¬(w.client.settings.topologyUpdates = false ∨
        w.client.isBootstrapped = true) := by
      simp only [Client.fetchesFirst, Bool.and_eq_true, Bool.not_eq_true'] at first
      simp [first]
    have places := Client.askNext_asking fetch
    rw [next]
    rcases course_bootstrapping d seed turns w c' request r with ⟨p, departs⟩ | ⟨wait, count⟩
    · exact .inl ⟨p, departs, fun used => absurd used unused⟩
    · exact .inr ⟨wait, Nat.lt_of_le_of_lt count places⟩
  · rw [next]
    refine .inl ⟨⟨{ w with client := c' }, now, w.client.fetchesFirst, turns⟩, .here, ?_⟩
    intro used
    have kept : w.client.fetchesFirst = false := by
      rcases used with off | booted
      · simp [Client.fetchesFirst, off]
      · simp [Client.fetchesFirst, booted]
    rw [atOnce used, kept]

end ClusterClient
