import ClusterClient.Proofs.Course
import ClusterClient.Proofs.Search

namespace ClusterClient

theorem Http.Response.isNotModified_of_success {r : Http.Response} (success : r.isSuccess = true) :
    r.isNotModified = false := by
  cases confirmed : r.isNotModified with
  | false => rfl
  | true =>
      have status : r.status = 304 := by simpa [isNotModified] using confirmed
      rw [isSuccess, status] at success
      cases success

namespace Client

theorem signalIf_attempts (c : Client) (due : Bool) (a : Attempts) :
    (c.signalIf due a).2 = { a with claimed := a.claimed || due } := by
  cases due <;> simp [signalIf, Attempts.claim]

theorem signal_once (first second claimed : Bool) :
    (first && !claimed).toNat + (second && !(claimed || first)).toNat =
      ((first || second) && !claimed).toNat := by
  cases first <;> cases second <;> cases claimed <;> rfl

theorem settings_signalIf (c : Client) (due : Bool) (a : Attempts) :
    (c.signalIf due a).1.settings = c.settings := congrArg Prod.fst (frame_signalIf c due a)

theorem onSetback_retry (c : Client) (now : Nat) (a : Attempt) (fault : Fault) (refresh : Bool) :
    ∃ c', c.onSetback now a (.retry fault refresh) = c'.tryNext now a.call
        { a.attempts.recordFailure a.index fault with claimed := a.attempts.claimed || refresh } ∧
      c.Follows c' (refresh && !a.attempts.claimed).toNat := by
  let booked := c.modifyStats (·.recordFailure a.node.url)
  let attempts := a.attempts.recordFailure a.index fault
  have counted : c.Follows booked 0 := ⟨rfl, rfl, rfl, rfl⟩
  have signalled := counted.trans (follows_signalIf booked refresh attempts)
  rw [Nat.zero_add] at signalled
  refine ⟨(booked.signalIf refresh attempts).1, ?_, signalled⟩
  simp only [onSetback, signalIf_attempts]
  rfl

def signalDue (c : Client) (d : Descriptor) : Http.Reply → Bool
  | .error _ => false
  | .ok response =>
      response.asksRefresh ||
        match c.settings.statuses.classify d response with
        | .failed (.retry _ refresh) => refresh
        | _ => false

theorem resumeCall_passes (c : Client) (now : Nat) (a : Attempt) {reply : Http.Reply}
    {fault : Fault} (leadsOn : c.passFault? a.call.descriptor a.node reply = some fault) :
    let due := c.signalDue a.call.descriptor reply
    ∃ c', c.resumeCall now (.attempting a) reply = c'.tryNext now a.call
        { a.attempts.recordFailure a.index fault with claimed := a.attempts.claimed || due } ∧
      c.Follows c' (due && !a.attempts.claimed).toNat := by
  cases reply with
  | error cause =>
      cases leadsOn
      exact onSetback_retry c now a _ false
  | ok response =>
      simp only [passFault?] at leadsOn
      split at leadsOn
      · rename_i refresh disposition
        cases leadsOn
        let signalled := c.signalIf response.asksRefresh a.attempts
        obtain ⟨c', next, follows⟩ :=
          onSetback_retry signalled.1 now { a with attempts := signalled.2 } fault refresh
        refine ⟨c', ?_, ?_⟩
        · simp only [resumeCall, onResponse, settings_signalIf, signalDue, disposition]
          rw [next]
          simp only [signalled, signalIf_attempts, Attempts.recordFailure, Bool.or_assoc]
        · have both := (follows_signalIf c response.asksRefresh a.attempts).trans follows
          simp only [signalDue, disposition]
          simp only [signalled, signalIf_attempts, signal_once] at both
          exact both
      · cases leadsOn

theorem resumeCall_ends (c : Client) (now : Nat) (a : Attempt) {reply : Http.Reply}
    (final : c.passFault? a.call.descriptor a.node reply = none) :
    ∃ (c' : Client) (response : Http.Response), reply = .ok response ∧
      c.resumeCall now (.attempting a) reply =
        (c', .done (c.conclude a.call a.node a.attempts.nodeFailures response)) ∧
      c'.watch.requests = c.watch.requests +
        (c.signalDue a.call.descriptor reply && !a.attempts.claimed).toNat := by
  cases reply with
  | error cause => cases final
  | ok response =>
      have signalled := (follows_signalIf c response.asksRefresh a.attempts).requests
      refine ⟨_, response, rfl, Prod.ext rfl ?_, ?_⟩
      all_goals
        simp only [passFault?] at final
        simp only [resumeCall, onResponse, settings_signalIf, signalIf_attempts, conclude,
          signalDue]
      · cases disposition : c.settings.statuses.classify a.call.descriptor response with
        | success =>
            simp only [onSuccess]
            split
            · cases a.call.cached <;> rfl
            · rfl
        | notFound =>
            simp only [onNotFound]
            split <;> rfl
        | failed setback =>
            cases setback with
            | terminal fault => rfl
            | retry fault refresh => simp [disposition] at final
      · cases disposition : c.settings.statuses.classify a.call.descriptor response with
        | success =>
            simp only [onSuccess, Bool.or_false]
            split
            · cases a.call.cached <;> exact signalled
            · exact signalled
        | notFound =>
            simp only [onNotFound, Bool.or_false]
            split <;> exact signalled
        | failed setback =>
            cases setback with
            | terminal fault =>
                simp only [onSetback, Bool.or_false]
                exact signalled
            | retry fault refresh => simp [disposition] at final

section
variable (c : Client) (now : Nat) (a : Attempt) {response : Http.Response}

theorem resumeCall_success (success : response.isSuccess = true) :
    (c.resumeCall now (.attempting a) (.ok response)).2 = .done (.ok {
      payload := if response.status = 204 then none else some response.body
      node := a.node
      failures := a.attempts.nodeFailures }) := by
  have disposition := classify_of_success c.settings.statuses a.call.descriptor success
  have final : c.passFault? a.call.descriptor a.node (.ok response) = none := by
    simp [passFault?, disposition]
  obtain ⟨c', response', eq, next, -⟩ := resumeCall_ends c now a final
  cases eq
  rw [next, conclude, disposition]
  simp [Http.Response.isNotModified_of_success success]

theorem resumeCall_notModified (confirmed : response.isNotModified = true) :
    (c.resumeCall now (.attempting a) (.ok response)).2 = .done (.ok {
      payload := a.call.cached.map (·.payload)
      node := a.node
      failures := a.attempts.nodeFailures
      fromCache := a.call.cached.isSome }) := by
  have disposition : c.settings.statuses.classify a.call.descriptor response = .success := by
    simp [StatusPolicy.classify, confirmed]
  have final : c.passFault? a.call.descriptor a.node (.ok response) = none := by
    simp [passFault?, disposition]
  obtain ⟨c', response', eq, next, -⟩ := resumeCall_ends c now a final
  cases eq
  rw [next, conclude, disposition]
  simp [confirmed]

end

theorem tryNext_cases (c : Client) (now : Nat) (call : Call) (a : Attempts) :
    (∃ index node rest, rest ⊆ a.remaining ∧
      c.tryNext now call a = (c, .asking (c.request call a.topology.etag node)
        (.attempting { call, attempts := { a with remaining := rest }, index, node,
                       sentAt := now }))) ∨
    c.tryNext now call a = ((c.signalIf true a).1, .done (.error a.unreachable)) ∨
    ∃ i ∈ a.remaining, a.topology.size ≤ i ∧
      c.tryNext now call a = (c, .done (.error a.unreachable)) := by
  have suffix := List.dropWhile_suffix a.hasFailed (l := a.remaining)
  cases left : a.remaining.dropWhile a.hasFailed with
  | nil =>
      refine .inr (.inl ?_)
      simp only [tryNext, Attempts.next, left]
      unfold signalIf
      cases a.claimed <;> rfl
  | cons i rest =>
      rw [left] at suffix
      have member : i ∈ a.remaining := suffix.subset List.mem_cons_self
      cases located : a.topology.nodes[i]? with
      | some node =>
          have later (j : Nat) (left : j ∈ rest) : j ∈ a.remaining :=
            suffix.subset (List.mem_cons_of_mem i left)
          refine .inl ⟨i, node, rest, later, ?_⟩
          simp only [tryNext, Attempts.next, left, located]
      | none =>
          refine .inr (.inr ⟨i, member, List.getElem?_eq_none_iff.1 located, ?_⟩)
          simp only [tryNext, Attempts.next, left, located]
          rfl

theorem tryNext_nil (c : Client) (now : Nat) (call : Call) {a : Attempts}
    (remaining : a.remaining = []) :
    ∃ c', c.tryNext now call a = (c', .done (.error (.unreachable a.topology a.nodeFailures))) := by
  simp only [tryNext, Attempts.next, remaining, List.dropWhile_nil]
  exact ⟨_, rfl⟩

theorem tryNext_cons {c : Client} {now : Nat} {call : Call} {a : Attempts} {i : Nat}
    {rest : List Nat} {node : Node} (remaining : a.remaining = i :: rest)
    (fresh : a.hasFailed i = false) (located : a.topology.nodes[i]? = some node) :
    c.tryNext now call a = (c, .asking (c.request call a.topology.etag node) (.attempting
      { call, attempts := { a with remaining := rest }, index := i, node, sentAt := now })) := by
  simp [tryNext, Attempts.next, remaining, fresh, located]

end Client

structure Attempts.Untried (a : Attempts) : Prop where
  known : ∀ i ∈ a.remaining, i < a.topology.size
  fresh : ∀ i ∈ a.remaining, a.hasFailed i = false
  nodup : a.remaining.Nodup

theorem Attempts.Untried.recordFailure {a : Attempts} {i : Nat} {rest : List Nat}
    (untried : a.Untried) (remaining : a.remaining = i :: rest) (fault : Fault) (claimed : Bool) :
    Untried { { a with remaining := rest }.recordFailure i fault with claimed } := by
  obtain ⟨known, fresh, nodup⟩ := untried
  rw [remaining] at known fresh nodup
  refine ⟨fun j member => known j (List.mem_cons_of_mem _ member), fun j member => ?_,
    nodup.of_cons⟩
  have other : j ≠ i := fun eq => (List.nodup_cons.1 nodup).1 (eq ▸ member)
  have before := fresh j (List.mem_cons_of_mem _ member)
  change (Attempts.recordFailure { a with remaining := rest } i fault).hasFailed j = false
  rw [hasFailed_recordFailure, beq_eq_false_iff_ne.2 other, Bool.or_false]
  exact before

theorem Attempts.nodeFailures_recordFailure {a : Attempts} {i : Nat} {node : Node}
    (located : a.topology.nodes[i]? = some node) (rest : List Nat) (fault : Fault)
    (claimed : Bool) :
    nodeFailures { { a with remaining := rest }.recordFailure i fault with claimed } =
      a.nodeFailures ++ [(node, fault)] := by
  simp [recordFailure, located]

/-- A course that asks these nodes one after the other until a reply does not lead on, and comes to
what the search comes to. -/
structure Searches (c : Client) (t : Topology) (call : Call) (earlier : List NodeFailure)
    (nodes : List Node) (replies : List Http.Reply) (course : List Stage) : Prop where
  requests : course.filterMap (·.progress.dataRequest?) =
    (nodes.take ((c.passed call.descriptor nodes replies).length + 1)).map (c.request call t.etag)
  outcome : course.findSome? (·.progress.outcome?) = c.searchOutcome t call earlier nodes replies

namespace Searches

variable {c : Client} {t : Topology} {call : Call} {earlier : List NodeFailure} {node : Node}
  {nodes : List Node} {replies : List Http.Reply} {s : Stage}

theorem exhausted (done : s.progress = .done (.error (.unreachable t earlier))) :
    Searches c t call earlier [] replies [s] := by
  constructor <;> simp [done, Client.passed, Client.searchOutcome]

variable {a : Attempt}

theorem unanswered
    (asking : s.progress = .asking (c.request call t.etag node) (.attempting a)) :
    Searches c t call earlier (node :: nodes) [] [s] := by
  constructor <;> simp [asking, Client.passed, Client.searchOutcome]

theorem passes {reply : Http.Reply} {fault : Fault} {course : List Stage}
    (asking : s.progress = .asking (c.request call t.etag node) (.attempting a))
    (leadsOn : c.passFault? call.descriptor node reply = some fault)
    (later : Searches c t call (earlier ++ [(node, fault)]) nodes replies course) :
    Searches c t call earlier (node :: nodes) (reply :: replies) (s :: course) := by
  obtain ⟨requests, outcome⟩ := later
  constructor
  · simp [asking, Client.passed, leadsOn, requests]
  · simp [asking, Client.passed, Client.searchOutcome, leadsOn, outcome]

theorem ends {response : Http.Response} {last : Stage}
    (asking : s.progress = .asking (c.request call t.etag node) (.attempting a))
    (final : c.passFault? call.descriptor node (.ok response) = none)
    (done : last.progress = .done (c.conclude call node earlier response)) :
    Searches c t call earlier (node :: nodes) (.ok response :: replies) [s, last] := by
  constructor
  · simp [asking, done, Client.passed, final]
  · simp [asking, done, Client.passed, Client.searchOutcome, final]

end Searches

theorem course_tryNext (c : Client) (call : Call) (turns : List Turn) (w : Workload)
    (same : w.client.settings = c.settings) (now : Nat) (a : Attempts) (untried : a.Untried) :
    Searches c a.topology call a.nodeFailures (a.topology.inOrder a.remaining)
      (turns.map (·.reply)) ((w.stage (w.client.tryNext now call a)).course turns) := by
  generalize remaining : a.remaining = indices
  -- The client may have become another one between two attempts; that its settings are still those
  -- of `c` is all that the attempts need.
  induction indices generalizing turns w now a with
  | nil =>
      obtain ⟨c', done⟩ := Client.tryNext_nil w.client now call remaining
      rw [done, course_done]
      exact .exhausted rfl
  | cons i rest ih =>
      have known : i < a.topology.nodes.length := untried.known i (remaining ▸ List.mem_cons_self)
      have fresh := untried.fresh i (remaining ▸ List.mem_cons_self)
      have located := List.getElem?_eq_getElem known
      generalize a.topology.nodes[i] = node at located
      have nodes : a.topology.inOrder (i :: rest) = node :: a.topology.inOrder rest := by
        simp [Topology.inOrder, located]
      rw [Client.tryNext_cons remaining fresh located, nodes, Client.request_congr same]
      cases turns with
      | nil => exact .unanswered rfl
      | cons turn turns =>
          rw [course_asking]
          let beside := w.run turn.others
          have kept : beside.client.settings = c.settings := (w.settings_run turn.others).trans same
          let attempt : Attempt :=
            { call, attempts := { a with remaining := rest }, index := i, node, sentAt := now }
          have judgement := Client.passFault?_congr kept call.descriptor node turn.reply
          cases judged : c.passFault? call.descriptor node turn.reply with
          | some fault =>
              obtain ⟨c', next, follows⟩ :=
                Client.resumeCall_passes beside.client turn.now attempt (judgement.trans judged)
              let claimed := a.claimed || beside.client.signalDue call.descriptor turn.reply
              have later := ih turns { beside with client := c' }
                (follows.settings.trans kept) turn.now
                { attempt.attempts.recordFailure i fault with claimed }
                (untried.recordFailure remaining fault claimed) rfl
              rw [Attempts.nodeFailures_recordFailure located] at later
              refine .passes rfl judged ?_
              simp only [beside, attempt] at next
              simp only [next]
              exact later
          | none =>
              obtain ⟨c', response, reply, next, -⟩ :=
                Client.resumeCall_ends beside.client turn.now attempt (judgement.trans judged)
              rw [Client.conclude_congr kept] at next
              simp only [beside, attempt] at next
              simp only [next, course_done, List.map_cons]
              rw [reply] at judged ⊢
              exact .ends rfl judged rfl

end ClusterClient
