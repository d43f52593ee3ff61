import ClusterClient.Proofs.Tasks

namespace ClusterClient

def Workload.signals (w : Workload) (step : Client × Call.Progress) : List Turn → Int
  | [] => (step.1.watch.requests : Int) - w.client.watch.requests
  | turn :: turns =>
      ((step.1.watch.requests : Int) - w.client.watch.requests) +
        match step.2 with
        | .done _ => 0
        | .asking _ waiting =>
            let beside := { w with client := step.1 }.run turn.others
            beside.signals (beside.client.resumeCall turn.now waiting turn.reply) turns

theorem Workload.signals_done (w : Workload) (c : Client) (outcome : Except Fault Execution)
    (turns : List Turn) : w.signals (c, .done outcome) turns =
      (c.watch.requests : Int) - w.client.watch.requests := by
  cases turns with
  | nil => rfl
  | cons turn turns => exact Int.add_zero _

theorem Workload.signals_asking (w : Workload) (request : Http.Request) (waiting : Call.Suspended)
    (turn : Turn) (turns : List Turn) :
    w.signals (w.client, .asking request waiting) (turn :: turns) =
      (let beside := w.run turn.others
      beside.signals (beside.client.resumeCall turn.now waiting turn.reply) turns) := by
  simp only [signals, Int.sub_self, Int.zero_add]

theorem Workload.signals_after {w : Workload} {c : Client} (given : Nat)
    (requests : c.watch.requests = w.client.watch.requests + given)
    (step : Client × Call.Progress) (turns : List Turn) :
    w.signals step turns = given + { w with client := c }.signals step turns := by
  cases turns with
  | nil =>
      simp only [signals]
      omega
  | cons turn turns =>
      simp only [signals]
      omega

theorem Workload.signals_same {w : Workload} {c : Client}
    (requests : c.watch.requests = w.client.watch.requests) (step : Client × Call.Progress)
    (turns : List Turn) : w.signals step turns = { w with client := c }.signals step turns := by
  rw [signals_after 0 requests, Int.natCast_zero, Int.zero_add]

def Call.isUnreachable : Except Fault Execution → Bool
  | .error (.unreachable ..) => true
  | _ => false

namespace Client

def signalsDue (c : Client) (d : Descriptor) (course : List Stage) (turns : List Turn) : Bool :=
  (received course turns).any (fun response => c.signalDue d (.ok response)) ||
    (course.findSome? (·.progress.outcome?)).any Call.isUnreachable

theorem signalDue_congr {c c' : Client} (same : c.settings = c'.settings) (d : Descriptor)
    (reply : Http.Reply) : c.signalDue d reply = c'.signalDue d reply := by
  cases reply with
  | error cause => rfl
  | ok response => simp only [signalDue, same]

theorem signalsDue_congr {c c' : Client} (same : c.settings = c'.settings) (d : Descriptor)
    (course : List Stage) (turns : List Turn) :
    c.signalsDue d course turns = c'.signalsDue d course turns := by
  simp only [signalsDue, signalDue_congr same]

theorem signalsDue_attempting (c : Client) (d : Descriptor) {s : Stage} {request : Http.Request}
    {a : Attempt} (asking : s.progress = .asking request (.attempting a)) (course : List Stage)
    (turn : Turn) (turns : List Turn) : c.signalsDue d (s :: course) (turn :: turns) =
      (c.signalDue d turn.reply || c.signalsDue d course turns) := by
  cases reply : turn.reply with
  | error cause => simp [signalsDue, received, Stage.response?, asking, reply, signalDue]
  | ok response => simp [signalsDue, received, Stage.response?, asking, reply, Bool.or_assoc]

theorem isUnreachable_conclude (c : Client) (call : Call) (node : Node)
    (failures : List NodeFailure) (response : Http.Response) :
    Call.isUnreachable (c.conclude call node failures response) = false := by
  cases outcome : c.conclude call node failures response with
  | ok execution => rfl
  | error fault =>
      have refusal := conclude_isRefusal outcome
      cases fault with
      | unreachable t failures => cases refusal
      | _ => rfl

theorem signalsDue_done (c : Client) (d : Descriptor) (w : Workload) (c' : Client)
    (outcome : Except Fault Execution) (turns : List Turn) :
    c.signalsDue d [w.stage (c', .done outcome)] turns = Call.isUnreachable outcome := by
  cases turns with
  | nil => rfl
  | cons turn turns => rfl

end Client

theorem signals_tryNext (call : Call) (turns : List Turn) (w : Workload) (now : Nat)
    (a : Attempts) (known : ∀ i ∈ a.remaining, i < a.topology.size) :
    w.signals (w.client.tryNext now call a) turns =
      (w.client.signalsDue call.descriptor
        ((w.stage (w.client.tryNext now call a)).course turns) turns && !a.claimed).toNat := by
  have ends (w : Workload) (a : Attempts) (turns : List Turn) :
      w.signals ((w.client.signalIf true a).1, .done (.error a.unreachable)) turns =
        (!a.claimed).toNat := by
    have given := (Client.follows_signalIf w.client true a).requests
    rw [w.signals_done, given, Bool.true_and]
    omega
  -- What a call has signalled for is told by `claimed`, so the later attempts owe what is left.
  induction turns generalizing w now a with
  | nil =>
      rcases w.client.tryNext_cases now call a with
        ⟨index, node, rest, -, next⟩ | next | ⟨i, member, beyond, -⟩
      · rw [next]
        exact Int.sub_self _
      · rw [next, ends, course_done, Client.signalsDue_done]
        rfl
      · exact absurd (known i member) (Nat.not_lt.2 beyond)
  | cons turn turns ih =>
      rcases w.client.tryNext_cases now call a with
        ⟨index, node, rest, subset, next⟩ | next | ⟨i, member, beyond, -⟩
      · let beside := w.run turn.others
        let attempt : Attempt :=
          { call, attempts := { a with remaining := rest }, index, node, sentAt := now }
        have same : beside.client.settings = w.client.settings := w.settings_run turn.others
        let resumed := beside.client.resumeCall turn.now (.attempting attempt) turn.reply
        let due := beside.client.signalDue attempt.call.descriptor turn.reply
        rw [next, w.signals_asking, course_asking, Client.signalsDue_attempting _ _ rfl,
          Client.signalsDue_congr same.symm, Client.signalDue_congr same.symm]
        show beside.signals resumed turns =
          ((due || beside.client.signalsDue call.descriptor
            ((beside.stage resumed).course turns) turns) && !a.claimed).toNat
        cases judged : beside.client.passFault? attempt.call.descriptor node turn.reply with
        | some fault =>
            obtain ⟨c', passed, follows⟩ :=
              Client.resumeCall_passes beside.client turn.now attempt judged
            have later := ih { beside with client := c' } turn.now
              { attempt.attempts.recordFailure index fault with claimed := a.claimed || due }
              fun i member => known i (subset member)
            have passed : resumed = _ := passed
            rw [passed, Workload.signals_after _ follows.requests, later,
              Client.signalsDue_congr follows.settings, ← Int.natCast_add]
            exact congrArg Nat.cast (Client.signal_once due _ a.claimed)
        | none =>
            obtain ⟨c', response, reply, ended, requests⟩ :=
              Client.resumeCall_ends beside.client turn.now attempt judged
            have ended : resumed = _ := ended
            rw [ended, Workload.signals_done, course_done, Client.signalsDue_done,
              Client.isUnreachable_conclude, Bool.or_false]
            have requests : c'.watch.requests =
              beside.client.watch.requests + (due && !a.claimed).toNat := requests
            omega
      · rw [next, ends, course_done, Client.signalsDue_done]
        rfl
      · exact absurd (known i member) (Nat.not_lt.2 beyond)

theorem signals_route (w : Workload) (now : Nat) (d : Descriptor) (seed : UInt64) (claimed : Bool)
    (turns : List Turn) :
    w.signals (w.client.route now d seed claimed) turns =
      (w.client.signalsDue d ((w.stage (w.client.route now d seed claimed)).course turns) turns &&
        !claimed).toNat := by
  let c' : Client := { w.client with
    ids := (w.client.ids.tag d).2
    cache := w.client.cache.after now (w.client.lookups d) }
  by_cases empty : w.client.topology.size = 0
  · rw [Client.route_eq, Selector.select_eq_error empty, Workload.signals_done, course_done,
      Client.signalsDue_done]
    exact Int.sub_self _
  · obtain ⟨order, selected, perm⟩ := Selector.select_perm (s := w.client.selector) empty
      d.isRead seed
    have same : c'.watch.requests = w.client.watch.requests := rfl
    have routed : w.client.route now d seed claimed = c'.tryNext now (w.client.callAt now d)
        { Attempts.start w.client.topology order with claimed } := by
      rw [Client.route_eq, selected]
    rw [routed, Workload.signals_same same]
    exact signals_tryNext (w.client.callAt now d) turns { w with client := c' } now _
      (Attempts.untried_start perm claimed).known

theorem signals_bootstrapping (d : Descriptor) (seed : UInt64) (turns : List Turn) (w : Workload)
    (request : Http.Request) (r : Refresh) :
    w.signals (w.client, .asking request (.bootstrapping d seed r)) turns = 0 := by
  induction turns generalizing w request r with
  | nil => exact Int.sub_self _
  | cons turn turns ih =>
      let beside := w.run turn.others
      rw [w.signals_asking]
      rcases beside.client.resumeCall_bootstrapping turn.now d seed r turn.reply with
        ⟨c', request', r', next, -, follows⟩ | ⟨c', next, follows⟩
      · simp only [beside] at next
        simp only [next]
        rw [Workload.signals_same follows.requests]
        exact ih { beside with client := c' } request' r'
      · have routed := signals_route { beside with client := c' } turn.now d seed true turns
        rw [Bool.not_true, Bool.and_false] at routed
        simp only [beside] at next
        simp only [next]
        rw [Workload.signals_same follows.requests]
        exact routed

theorem signals_startCall (w : Workload) (now : Nat) (d : Descriptor) (seed : UInt64)
    (turns : List Turn) :
    w.signals (w.client.startCall now d seed) turns =
      (w.client.signalsDue d (w.course now d seed turns) turns &&
        !w.client.fetchesFirst).toNat := by
  unfold Workload.course
  by_cases rejected : d.scope = .database ∧ w.client.database? = none
  · rw [Client.startCall, if_pos rejected, Workload.signals_done, course_done,
      Client.signalsDue_done]
    exact Int.sub_self _
  · rcases w.client.startCall_inScope now seed rejected with
      ⟨c', request, r, next, -, first, follows⟩ | ⟨c', next, follows, -⟩
    · rw [next, Workload.signals_same follows.requests, first, Bool.not_true, Bool.and_false]
      exact signals_bootstrapping d seed turns { w with client := c' } request r
    · have routed := signals_route { w with client := c' } now d seed w.client.fetchesFirst turns
      rw [Client.signalsDue_congr follows.settings] at routed
      rw [next, Workload.signals_same follows.requests]
      exact routed

def Prompts (p : StatusPolicy) (d : Descriptor) (response : Http.Response) : Prop :=
  (∃ value, response.headers.find? Http.Field.refreshTopology = some value ∧
    Text.sameAscii (Text.trim value) "true" = true) ∨
  response.status ∈ p.refreshing ∧
    ∃ fault refresh, p.classify d response = .failed (.retry fault refresh)

theorem Client.signalDue_iff {c : Client} {d : Descriptor} {r : Http.Response} :
    c.signalDue d (.ok r) = true ↔ Prompts c.settings.statuses d r := by
  have asks : r.asksRefresh = true ↔ ∃ value,
      r.headers.find? Http.Field.refreshTopology = some value ∧
        Text.sameAscii (Text.trim value) "true" = true := by
    unfold Http.Response.asksRefresh
    cases r.headers.find? Http.Field.refreshTopology <;> simp
  rw [signalDue, Bool.or_eq_true, asks, Prompts]
  refine or_congr Iff.rfl ?_
  cases disposition : c.settings.statuses.classify d r with
  | success => simp
  | notFound => simp
  | failed setback =>
      cases setback with
      | terminal fault => simp
      | retry fault refresh => simp [refresh_iff_mem_refreshing disposition]

/-- Whether a call has come to something that makes the held snapshot suspect. -/
def Suspects (p : StatusPolicy) (d : Descriptor) (course : List Stage) (turns : List Turn) : Prop :=
  (∃ response ∈ received course turns, Prompts p d response) ∨
    ∃ t failures, course.findSome? (·.progress.outcome?) = some (.error (.unreachable t failures))

theorem Call.isUnreachable_iff {outcome : Except Fault Execution} :
    Call.isUnreachable outcome = true ↔
      ∃ t failures, outcome = .error (.unreachable t failures) := by
  unfold Call.isUnreachable
  split
  · simp
  · rename_i other
    simp only [Bool.false_eq_true, false_iff]
    rintro ⟨t, failures, rfl⟩
    exact other t failures rfl

theorem Client.signalsDue_iff {c : Client} {d : Descriptor} {course : List Stage}
    {turns : List Turn} :
    c.signalsDue d course turns = true ↔ Suspects c.settings.statuses d course turns := by
  simp only [signalsDue, Bool.or_eq_true, List.any_eq_true, signalDue_iff, Option.any_eq_true,
    Call.isUnreachable_iff, Suspects]
  refine or_congr Iff.rfl ?_
  constructor
  · rintro ⟨outcome, ended, t, failures, rfl⟩
    exact ⟨t, failures, ended⟩
  · rintro ⟨t, failures, ended⟩
    exact ⟨_, ended, t, failures, rfl⟩

def Fault.isRejection : Fault → Bool
  | .config _ | .emptyTopology => true
  | _ => false

theorem Searches.not_isRejection {c : Client} {t : Topology} {call : Call}
    {earlier : List NodeFailure} {nodes : List Node} {replies : List Http.Reply}
    {course : List Stage} (search : Searches c t call earlier nodes replies course) {fault : Fault}
    (ended : course.findSome? (·.progress.outcome?) = some (.error fault)) :
    fault.isRejection = false := by
  rw [search.outcome] at ended
  rcases c.searchOutcome_cases t call earlier nodes replies with
    ⟨-, eq⟩ | ⟨-, node, response, eq⟩ | ⟨-, -, eq⟩
  · rw [eq] at ended
    cases ended
    rfl
  · rw [eq, Option.some.injEq] at ended
    have refusal := Client.conclude_isRefusal ended
    cases fault <;> first | rfl | cases refusal
  · rw [eq] at ended
    cases ended

theorem signals_rejected (w : Workload) (now : Nat) (d : Descriptor) (seed : UInt64)
    (turns : List Turn) {fault : Fault} (rejection : fault.isRejection = true)
    (ended : (w.course now d seed turns).findSome? (·.progress.outcome?) = some (.error fault)) :
    w.signals (w.client.startCall now d seed) turns = 0 := by
  by_cases outside : d.scope = .database ∧ w.client.database? = none
  · rw [Client.startCall, if_pos outside, Workload.signals_done]
    exact Int.sub_self _
  · rcases w.client.startCall_inScope now seed outside with
      ⟨c', request, r, next, -, first, -⟩ | ⟨c', next, follows, -⟩
    · rw [signals_startCall, first, Bool.not_true, Bool.and_false]
      rfl
    · by_cases empty : c'.topology.size = 0
      · rw [next, Workload.signals_same follows.requests, Client.route_eq,
          Selector.select_eq_error empty, Workload.signals_done]
        exact Int.sub_self _
      · let p : Departure := ⟨{ w with client := c' }, now, w.client.fetchesFirst, turns⟩
        have departs : Departs d seed p (p.course d seed) turns := .here
        obtain ⟨order, -, -, search⟩ := departs.searches empty
        rw [Workload.course, next] at ended
        have other := search.not_isRejection ended
        rw [rejection] at other
        cases other

structure SignalsOnce (w : Workload) (d : Descriptor) (course : List Stage) (turns : List Turn)
    (signals : Int) : Prop where
  fetched : w.client.fetchesFirst = true → signals = 0
  due : w.client.fetchesFirst = false → Suspects w.client.settings.statuses d course turns →
    signals = 1
  idle : ¬Suspects w.client.settings.statuses d course turns → signals = 0
  rejected : ∀ fault, course.findSome? (·.progress.outcome?) = some (.error fault) →
    (∃ cause, fault = .config cause) ∨ fault = .emptyTopology → signals = 0

theorem calls_signal_once (w : Workload) (now : Nat) (d : Descriptor) (seed : UInt64)
    (turns : List Turn) :
    SignalsOnce w d (w.course now d seed turns) turns
      (w.signals (w.client.startCall now d seed) turns) := by
  have given := signals_startCall w now d seed turns
  constructor
  case fetched =>
    intro first
    rw [given, first, Bool.not_true, Bool.and_false]
    rfl
  case due =>
    intro plain suspects
    rw [given, plain, Client.signalsDue_iff.2 suspects]
    rfl
  case idle =>
    intro calm
    have none := Bool.eq_false_iff.2 (mt Client.signalsDue_iff.1 calm)
    rw [given, none, Bool.false_and]
    rfl
  case rejected =>
    rintro fault ended (⟨cause, rfl⟩ | rfl)
    · exact signals_rejected w now d seed turns rfl ended
    · exact signals_rejected w now d seed turns rfl ended

example :
    let turns := [1, 2, 3].map fun now : Nat =>
      ({ now, reply := .ok ⟨410, [(Http.Field.refreshTopology, " True")], []⟩ } : Turn)
    let start := Workload.trio.client.startCall 0 (.new .get "/docs") 7
    Workload.trio.signals start turns = 1 := by
  decide +kernel

end ClusterClient
