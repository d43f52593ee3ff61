import ClusterClient.Proofs.Replies
import ClusterClient.Proofs.Skipping

namespace ClusterClient

open Attempts

def Call.Progress.index? : Progress → Option Nat
  | .asking _ (.attempting a) => some a.index
  | _ => none

def asked (course : List Stage) : List Nat := course.filterMap (·.progress.index?)

def GivesUp (t : Topology) (course : List Stage) : Prop :=
  ∃ s ∈ course, ∃ failures, s.progress.outcome? = some (.error (.unreachable t failures))

variable {t : Topology} {candidates : List Nat}

theorem Attempts.Runs.claimed {log : List Event} {a : Attempts} (runs : Runs t candidates log a)
    (due : Bool) : Runs t candidates log { a with claimed := a.claimed || due } := by
  cases due with
  | true =>
      have claims := runs.claim
      simpa [Attempts.claim] using claims
  | false => simpa using runs

theorem Attempts.Runs.tryNext {log : List Event} {a : Attempts} (runs : Runs t candidates log a)
    (driven : Driven log) (spent : Spent log) (known : ∀ i ∈ a.remaining, i < t.size)
    (c : Client) (now : Nat) (call : Call) :
    (∃ i node rest, rest ⊆ a.remaining ∧ Driven (log ++ [.asked (some i)]) ∧
      Runs t candidates (log ++ [.asked (some i)]) { a with remaining := rest } ∧
      c.tryNext now call a = (c, .asking (c.request call a.topology.etag node) (.attempting
        { call, attempts := { a with remaining := rest }, index := i, node, sentAt := now }))) ∨
    Driven (log ++ [.asked none]) ∧ Runs t candidates (log ++ [.asked none]) a.next.2 ∧
      ∃ c' fault, c.tryNext now call a = (c', .done (.error fault)) := by
  have asks := runs.ask
  have goes_on := driven.ask spent a.next.1
  rcases next_cases a with ⟨skipped, i, rest, left, -, -, next⟩ | ⟨-, next⟩
  · have here : i ∈ a.remaining := by simp [left]
    have later : rest ⊆ a.remaining := fun j member => by simp [left, member]
    obtain ⟨node, located⟩ : ∃ node, a.topology.nodes[i]? = some node :=
      ⟨_, List.getElem?_eq_getElem (runs.topology ▸ known i here)⟩
    rw [next] at asks goes_on
    refine .inl ⟨i, node, rest, later, goes_on, asks, ?_⟩
    simp only [Client.tryNext, next, located]
  · simp only [next] at asks goes_on ⊢
    refine .inr ⟨goes_on, asks, ?_⟩
    simp only [Client.tryNext, next]
    exact ⟨_, _, rfl⟩

/-- A course beside which a driven run goes on from a log. -/
def Drives (t : Topology) (candidates : List Nat) (log : List Event) (course : List Stage) : Prop :=
  ∃ log' a', Runs t candidates log' a' ∧ Driven log' ∧
    handedOut log' = handedOut log ++ asked course ∧ (GivesUp t course → .asked none ∈ log')

namespace Drives

variable {log : List Event} {a : Attempts} {s : Stage} {i : Nat} {course : List Stage}

theorem exhausted (runs : Runs t candidates (log ++ [.asked none]) a)
    (driven : Driven (log ++ [.asked none])) (nobody : s.progress.index? = none) :
    Drives t candidates log [s] := by
  refine ⟨_, _, runs, driven, ?_, fun _ => List.mem_append_right _ (List.mem_singleton_self _)⟩
  simp [asked, nobody]

theorem stops (runs : Runs t candidates (log ++ [.asked (some i)]) a)
    (driven : Driven (log ++ [.asked (some i)])) (index : s.progress.index? = some i)
    (nobody : asked course = []) (holds : ¬GivesUp t (s :: course)) :
    Drives t candidates log (s :: course) := by
  refine ⟨_, _, runs, driven, ?_, fun givesUp => absurd givesUp holds⟩
  simp only [asked] at nobody
  simp [asked, index, nobody]

theorem passes (fault : Fault) (index : s.progress.index? = some i)
    (waits : s.progress.outcome? = none)
    (later : Drives t candidates (log ++ [.asked (some i)] ++ [.failed i fault]) course) :
    Drives t candidates log (s :: course) := by
  obtain ⟨log', a', runs, driven, handed, ends⟩ := later
  refine ⟨log', a', runs, driven, ?_, ?_⟩
  · rw [handed, handedOut_failed, handedOut_asked]
    simp [asked, index]
  · rintro ⟨stage, member, failures, outcome⟩
    rcases List.mem_cons.1 member with rfl | member
    · rw [waits] at outcome
      cases outcome
    · exact ends ⟨stage, member, failures, outcome⟩

end Drives

theorem course_drives (call : Call) (turns : List Turn) (w : Workload) (now : Nat)
    {log : List Event} {a : Attempts} (runs : Runs t candidates log a) (driven : Driven log)
    (spent : Spent log) (known : ∀ i ∈ a.remaining, i < t.size) :
    Drives t candidates log ((w.stage (w.client.tryNext now call a)).course turns) := by
  induction turns generalizing w now log a with
  | nil =>
      rcases runs.tryNext driven spent known w.client now call with
        ⟨i, node, rest, -, goes_on, asks, next⟩ | ⟨goes_on, asks, c', fault, next⟩
      · rw [next]
        exact .stops asks goes_on rfl rfl (by simp [GivesUp, Workload.stage])
      · rw [next]
        exact .exhausted asks goes_on rfl
  | cons turn turns ih =>
      rcases runs.tryNext driven spent known w.client now call with
        ⟨i, node, rest, fewer, goes_on, asks, next⟩ | ⟨goes_on, asks, c', fault, next⟩
      · rw [next, course_asking]
        let beside := w.run turn.others
        let attempt : Attempt :=
          { call, attempts := { a with remaining := rest }, index := i, node, sentAt := now }
        cases judged : beside.client.passFault? call.descriptor node turn.reply with
        | some fault =>
            obtain ⟨c', passes, -⟩ :=
              Client.resumeCall_passes beside.client turn.now attempt judged
            have handed : i ∈ handedOut (log ++ [.asked (some i)]) := by simp
            have failed := (asks.fail handed fault).claimed
              (beside.client.signalDue call.descriptor turn.reply)
            have later := ih { beside with client := c' } turn.now failed
              (goes_on.fail i fault) (spent.spend i fault) fun j member => known j (fewer member)
            refine .passes fault rfl rfl ?_
            simp only [beside, attempt] at passes
            simp only [passes]
            exact later
        | none =>
            obtain ⟨c', response, -, ends, -⟩ :=
              Client.resumeCall_ends beside.client turn.now attempt judged
            simp only [beside, attempt] at ends
            simp only [ends, course_done]
            refine .stops asks goes_on rfl rfl ?_
            simp [GivesUp, Workload.stage, Client.conclude_ne_unreachable]
      · rw [next, course_done]
        exact .exhausted asks goes_on rfl

theorem course_asks_firsts (inRange : ∀ i ∈ candidates, i < t.size) (w : Workload) (now : Nat)
    (call : Call) (claimed : Bool) (turns : List Turn) :
    let course := (w.stage (w.client.tryNext now call
      { start t candidates with claimed })).course turns
    asked course <+: candidates.eraseDups ∧
      (GivesUp t course → asked course = candidates.eraseDups) := by
  intro course
  have began := (Runs.start : Runs t candidates [] (start t candidates)).claimed claimed
  have undriven : Driven [] := fun before answer start => by simp at start
  have unspent : Spent [] := fun i member => nomatch member
  have claims : (false || claimed) = claimed := Bool.false_or claimed
  obtain ⟨log, a, runs, driven, handed, ends⟩ :=
    course_drives call turns w now began undriven unspent inRange
  simp only [start, claims] at handed ends
  obtain ⟨firsts, all⟩ := (runs.neverRevisits inRange).driven driven
  rw [handed] at firsts all
  exact ⟨firsts, fun givesUp => all (ends givesUp)⟩

theorem failed_candidates_are_never_revisited (inRange : ∀ i ∈ candidates, i < t.size) :
    (∀ log a, Runs t candidates log a → NeverRevisits t candidates log a) ∧
      (∀ faults : Nat → Fault, ∃ a,
        Runs t candidates (trail faults candidates.eraseDups ++ [.asked none]) a) ∧
      ∀ (w : Workload) (now : Nat) (call : Call) (claimed : Bool) (turns : List Turn),
        let course := (w.stage (w.client.tryNext now call
          { start t candidates with claimed })).course turns
        asked course <+: candidates.eraseDups ∧
          (GivesUp t course → asked course = candidates.eraseDups) := by
  refine ⟨fun log a runs => runs.neverRevisits inRange, ?_, course_asks_firsts inRange⟩
  intro faults
  have began : Runs t candidates [] (start t candidates) := .start
  simpa [failed, recorded, start] using began.pursued faults

theorem repeated_neverRevisits :
    let t := Topology.seed ["http://a:8080", "http://b:8080", "http://c:8080"] none
    let log : List Event := [.asked (some 0), .failed 0 .emptyTopology, .asked (some 1),
      .asked (some 2), .asked none]
    (∀ i ∈ [0, 1, 0, 2], i < t.size) ∧
      (∃ a, Runs t [0, 1, 0, 2] log a ∧ NeverRevisits t [0, 1, 0, 2] log a) ∧
      ∃ a, Runs t [0, 1, 0, 2] (trail (fun _ => .emptyTopology) [0, 1, 2] ++ [.asked none]) a := by
  intro t log
  have inRange : ∀ i ∈ [0, 1, 0, 2], i < t.size := by decide
  have began : Runs t [0, 1, 0, 2] [] (start t [0, 1, 0, 2]) := .start
  have known : 0 ∈ handedOut [.asked (some 0)] := by decide
  have runs := (began.ask.fail known .emptyTopology).ask.ask.ask
  obtain ⟨revisits, pursued, -⟩ := failed_candidates_are_never_revisited inRange
  exact ⟨inRange, ⟨_, runs, revisits log _ runs⟩, pursued fun _ => .emptyTopology⟩

end ClusterClient
