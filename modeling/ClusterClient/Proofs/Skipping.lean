import ClusterClient.Attempts
import Mathlib.Algebra.BigOperators.Group.Finset.Basic
import Mathlib.Data.List.Forall2
import Mathlib.Data.List.Infix
import Mathlib.Data.List.TakeWhile

/-!
# Failed candidates are left out

The bookkeeping of a call hands out its candidates in their order and leaves out those that have
failed by the time their turn comes, whatever the list repeats and whenever failures are recorded.
-/

namespace ClusterClient.Attempts

inductive Event
  | asked (answer : Option Nat)
  | failed (i : Nat) (fault : Fault)

namespace Event

def candidate? : Event → Option Nat
  | asked answer => answer
  | failed .. => none

def failure? : Event → Option (Nat × Fault)
  | asked _ => none
  | failed i fault => some (i, fault)

def isAsked : Event → Bool
  | asked _ => true
  | failed .. => false

end Event

def handedOut (log : List Event) : List Nat := log.filterMap Event.candidate?

def recorded (log : List Event) : List (Nat × Fault) := log.filterMap Event.failure?

def failed (log : List Event) : List Nat := (recorded log).map Prod.fst

section
variable (log : List Event)

@[simp] theorem handedOut_asked (answer : Option Nat) :
    handedOut (log ++ [.asked answer]) = handedOut log ++ answer.toList := by
  cases answer <;> simp [handedOut, Event.candidate?]

@[simp] theorem handedOut_failed (i : Nat) (fault : Fault) :
    handedOut (log ++ [.failed i fault]) = handedOut log := by
  simp [handedOut, Event.candidate?]

@[simp] theorem recorded_asked (answer : Option Nat) :
    recorded (log ++ [.asked answer]) = recorded log := by
  simp [recorded, Event.failure?]

@[simp] theorem recorded_failed (i : Nat) (fault : Fault) :
    recorded (log ++ [.failed i fault]) = recorded log ++ [(i, fault)] := by
  simp [recorded, Event.failure?]

@[simp] theorem failed_asked (answer : Option Nat) :
    failed (log ++ [.asked answer]) = failed log := by
  rw [failed, recorded_asked, failed]

@[simp] theorem failed_failed (i : Nat) (fault : Fault) :
    failed (log ++ [.failed i fault]) = failed log ++ [i] := by
  simp [failed]

end

/-- The runs of the bookkeeping, each with a log of what happened. Only a candidate that has been
handed out can fail, and the one signal can be claimed at any time. -/
inductive Runs (t : Topology) (candidates : List Nat) : List Event → Attempts → Prop
  | start : Runs t candidates [] (start t candidates)
  | ask {log : List Event} {a : Attempts} (runs : Runs t candidates log a) :
      Runs t candidates (log ++ [.asked a.next.1]) a.next.2
  | fail {log : List Event} {a : Attempts} {i : Nat} (runs : Runs t candidates log a)
      (known : i ∈ handedOut log) (fault : Fault) :
      Runs t candidates (log ++ [.failed i fault]) (a.recordFailure i fault)
  | claim {log : List Event} {a : Attempts} (runs : Runs t candidates log a) :
      Runs t candidates log a.claim

/-- What is left of the candidates after a log in which each of them, in its turn, was either handed
out or had failed and was left out. -/
inductive Walks (candidates : List Nat) : List Event → List Nat → Prop
  | start : Walks candidates [] candidates
  | handed {log : List Event} {skipped rest : List Nat} {i : Nat}
      (walks : Walks candidates log (skipped ++ i :: rest))
      (left_out : ∀ j ∈ skipped, j ∈ failed log) (fresh : i ∉ failed log) :
      Walks candidates (log ++ [.asked (some i)]) rest
  | usedUp {log : List Event} {skipped : List Nat} (walks : Walks candidates log skipped)
      (left_out : ∀ j ∈ skipped, j ∈ failed log) :
      Walks candidates (log ++ [.asked none]) []
  | failed {log : List Event} {rest : List Nat} {i : Nat} {fault : Fault}
      (walks : Walks candidates log rest) :
      Walks candidates (log ++ [.failed i fault]) rest

def Spent (log : List Event) : Prop := ∀ i ∈ handedOut log, i ∈ failed log

/-- Whenever the next candidate is asked for, all that was handed out before has failed. -/
def Driven (log : List Event) : Prop :=
  ∀ before answer, before ++ [.asked answer] <+: log → Spent before

variable {t : Topology} {candidates : List Nat} {log : List Event} {a : Attempts}

/-! ## One question -/

theorem next_cases (a : Attempts) :
    (∃ skipped i rest, a.remaining = skipped ++ i :: rest ∧ (∀ j ∈ skipped, a.hasFailed j) ∧
      a.hasFailed i = false ∧ a.next = (some i, { a with remaining := rest })) ∨
    (∀ j ∈ a.remaining, a.hasFailed j) ∧ a.next = (none, { a with remaining := [] }) := by
  have split := List.takeWhile_append_dropWhile (p := a.hasFailed) (l := a.remaining)
  have skipped : ∀ j ∈ a.remaining.takeWhile a.hasFailed, a.hasFailed j := fun j member =>
    List.mem_takeWhile_imp member
  rw [next]
  cases left : a.remaining.dropWhile a.hasFailed with
  | nil => exact .inr ⟨List.dropWhile_eq_nil_iff.1 left, rfl⟩
  | cons i rest =>
      have fresh := List.head?_dropWhile_not a.hasFailed a.remaining
      rw [left] at split fresh
      exact .inl ⟨_, i, rest, split.symm, skipped, by simpa using fresh, rfl⟩

theorem next_keeps (a : Attempts) : ∃ rest, a.next.2 = { a with remaining := rest } := by
  rcases a.next_cases with ⟨_, _, rest, -, -, -, next⟩ | ⟨-, next⟩
  · exact ⟨rest, by rw [next]⟩
  · exact ⟨[], by rw [next]⟩

/-! ## Whole runs -/

namespace Runs

theorem topology (runs : Runs t candidates log a) : a.topology = t := by
  induction runs with
  | start => rfl
  | @ask _ a _ ih =>
      obtain ⟨rest, next⟩ := a.next_keeps
      rwa [next]
  | fail _ _ _ ih => exact ih
  | claim _ ih => exact ih

theorem hasFailed_iff (runs : Runs t candidates log a) {i : Nat} :
    a.hasFailed i ↔ i ∈ failed log := by
  induction runs with
  | start => simp [Attempts.start, hasFailed, failed, recorded]
  | @ask _ a _ ih =>
      obtain ⟨rest, next⟩ := a.next_keeps
      rw [failed_asked, next]
      exact ih
  | fail _ _ _ ih => simp [ih]
  | claim _ ih => exact ih

theorem errorCount (runs : Runs t candidates log a) (i : Nat) :
    a.errorCount i = (failed log).count i := by
  induction runs with
  | start => rfl
  | @ask _ a _ ih =>
      obtain ⟨rest, next⟩ := a.next_keeps
      rw [failed_asked, next]
      exact ih
  | fail _ _ _ ih => simp [ih, List.count_singleton]
  | claim _ ih => exact ih

theorem walks (runs : Runs t candidates log a) : Walks candidates log a.remaining := by
  induction runs with
  | start => exact .start
  | @ask log a runs ih =>
      rcases next_cases a with ⟨skipped, i, rest, split, all, fresh, next⟩ | ⟨all, next⟩
      · rw [split] at ih
        rw [next]
        refine .handed ih (fun j member => runs.hasFailed_iff.1 (all j member)) ?_
        rw [← runs.hasFailed_iff, fresh]
        exact Bool.false_ne_true
      · rw [next]
        exact .usedUp ih fun j member => runs.hasFailed_iff.1 (all j member)
  | fail _ _ _ ih => exact .failed ih
  | claim _ ih => exact ih

theorem handedOut_of_failed (runs : Runs t candidates log a) {i : Nat} (failure : i ∈ failed log) :
    i ∈ handedOut log := by
  induction runs with
  | start => cases failure
  | ask _ ih =>
      rw [failed_asked] at failure
      rw [handedOut_asked]
      exact List.mem_append_left _ (ih failure)
  | fail _ known _ ih =>
      rw [handedOut_failed]
      rw [failed_failed] at failure
      rcases List.mem_append.1 failure with old | new
      · exact ih old
      · rwa [List.mem_singleton.1 new]
  | claim _ ih => exact ih failure

end Runs

theorem prefix_concat {before log : List Event} {event last : Event}
    (start : before ++ [event] <+: log ++ [last]) :
    before = log ∧ event = last ∨ before ++ [event] <+: log := by
  rcases List.prefix_concat_iff.1 start with whole | earlier
  · exact .inl (by simpa using List.append_inj' whole rfl)
  · exact .inr earlier

namespace Walks
variable {rest : List Nat}

theorem sublist (walks : Walks candidates log rest) :
    (handedOut log ++ rest).Sublist candidates := by
  induction walks with
  | start => exact List.Sublist.refl _
  | @handed log skipped rest i _ _ _ ih =>
      rw [handedOut_asked, List.append_assoc]
      exact ((List.sublist_append_right skipped _).append_left _).trans ih
  | usedUp _ _ ih =>
      rw [handedOut_asked]
      simpa using (List.sublist_append_left _ _).trans ih
  | failed _ ih => rwa [handedOut_failed]

theorem fresh (walks : Walks candidates log rest) {before : List Event} {i : Nat}
    (start : before ++ [.asked (some i)] <+: log) : i ∉ Attempts.failed before := by
  induction walks with
  | start => simp at start
  | handed _ _ fresh ih =>
      rcases prefix_concat start with ⟨rfl, same⟩ | earlier
      · cases same
        exact fresh
      · exact ih earlier
  | usedUp _ _ ih =>
      rcases prefix_concat start with ⟨-, other⟩ | earlier
      · cases other
      · exact ih earlier
  | failed _ ih =>
      rcases prefix_concat start with ⟨-, other⟩ | earlier
      · cases other
      · exact ih earlier

theorem ended (walks : Walks candidates log rest) {before : List Event}
    (start : before ++ [.asked none] <+: log) : rest = [] ∧ handedOut log = handedOut before := by
  induction walks with
  | start => simp at start
  | handed _ _ _ ih =>
      rcases prefix_concat start with ⟨-, other⟩ | earlier
      · cases other
      -- Nothing was left, so that this candidate cannot have been.
      · cases (List.append_eq_nil_iff.1 (ih earlier).1).2
  | usedUp _ _ ih =>
      rw [handedOut_asked]
      rcases prefix_concat start with ⟨rfl, -⟩ | earlier
      · exact ⟨rfl, List.append_nil _⟩
      · exact ⟨rfl, (List.append_nil _).trans (ih earlier).2⟩
  | failed _ ih =>
      rw [handedOut_failed]
      rcases prefix_concat start with ⟨-, other⟩ | earlier
      · cases other
      · exact ih earlier

end Walks

/-! ## What failed -/

def IsFailureOf (t : Topology) (failure : Nat × Fault) (reported : NodeFailure) : Prop :=
  t.nodes[failure.1]? = some reported.1 ∧ failure.2 = reported.2

namespace Runs

theorem handedOut_subset (runs : Runs t candidates log a) : handedOut log ⊆ candidates :=
  fun _ member => runs.walks.sublist.subset (List.mem_append_left _ member)

theorem failures (runs : Runs t candidates log a) (inRange : ∀ i ∈ candidates, i < t.size) :
    List.Forall₂ (IsFailureOf t) (recorded log) a.nodeFailures := by
  induction runs with
  | start => exact .nil
  | @ask _ a _ ih =>
      obtain ⟨rest, next⟩ := a.next_keeps
      rw [recorded_asked, next]
      exact ih
  | @fail _ _ i runs known fault ih =>
      have located := List.getElem?_eq_getElem (inRange i (runs.handedOut_subset known))
      simp only [recorded_failed, recordFailure, runs.topology, located]
      exact List.rel_append ih (.cons ⟨located, rfl⟩ .nil)
  | claim _ ih => exact ih

theorem count (runs : Runs t candidates log a) (inRange : ∀ i ∈ candidates, i < t.size) :
    a.count = (failed log).length := by
  rw [failed, List.length_map]
  exact (runs.failures inRange).length_eq.symm

theorem total (runs : Runs t candidates log a) (inRange : ∀ i ∈ candidates, i < t.size) :
    ∑ i ∈ Finset.range t.size, a.errorCount i = a.count := by
  have all : ∀ i ∈ (failed log : Multiset Nat), i ∈ Finset.range t.size := fun i failure =>
    Finset.mem_range.2 (inRange i (runs.handedOut_subset (runs.handedOut_of_failed failure)))
  simpa [runs.errorCount, runs.count inRange] using Multiset.sum_count_eq_card all

end Runs

/-! ## Each candidate fails before the next one is asked for -/

theorem Driven.ask (driven : Driven log) (spent : Spent log) (answer : Option Nat) :
    Driven (log ++ [.asked answer]) := by
  intro before answer' start
  rcases prefix_concat start with ⟨rfl, -⟩ | earlier
  · exact spent
  · exact driven before answer' earlier

theorem Driven.fail (driven : Driven log) (i : Nat) (fault : Fault) :
    Driven (log ++ [.failed i fault]) := by
  intro before answer start
  rcases prefix_concat start with ⟨-, other⟩ | earlier
  · cases other
  · exact driven before answer earlier

theorem Spent.spend (spent : Spent log) (i : Nat) (fault : Fault) :
    Spent (log ++ [.asked (some i)] ++ [.failed i fault]) := by
  intro j member
  rw [handedOut_failed, handedOut_asked] at member
  rw [failed_failed, failed_asked]
  rcases List.mem_append.1 member with old | new
  · exact List.mem_append_left _ (spent j old)
  · exact List.mem_append_right _ new

theorem Driven.of_concat {event : Event} (driven : Driven (log ++ [event])) : Driven log :=
  fun before answer start => driven before answer (start.trans (List.prefix_append log [event]))

theorem removeAll_eq_nil {skipped used : List Nat} (old : ∀ j ∈ skipped, j ∈ used) :
    skipped.removeAll used = [] := List.filter_eq_nil_iff.2 (by simpa using old)

theorem eraseDups_append_old {used skipped : List Nat} (old : ∀ j ∈ skipped, j ∈ used) :
    (used ++ skipped).eraseDups = used.eraseDups := by
  rw [List.eraseDups_append, removeAll_eq_nil old]
  exact List.append_nil _

theorem eraseDups_append_new {used : List Nat} {i : Nat} (new : i ∉ used) :
    (used ++ [i]).eraseDups = used.eraseDups ++ [i] := by
  have alone : [i].removeAll used = [i] := List.filter_eq_self.2 (by simpa using new)
  rw [List.eraseDups_append, alone]
  rfl

theorem Runs.firsts (runs : Runs t candidates log a) (driven : Driven log) :
    ∃ used, candidates = used ++ a.remaining ∧ handedOut log = used.eraseDups := by
  induction runs with
  | start => exact ⟨[], rfl, rfl⟩
  | @ask log a runs ih =>
      obtain ⟨used, split, firsts⟩ := ih driven.of_concat
      -- Only what was handed out can fail, and all of it has failed by now.
      have hasFailed_iff {i : Nat} : a.hasFailed i ↔ i ∈ used := by
        rw [runs.hasFailed_iff, ← List.mem_eraseDups (l := used), ← firsts]
        exact ⟨runs.handedOut_of_failed, driven log a.next.1 List.prefix_rfl i⟩
      rcases next_cases a with ⟨skipped, i, rest, left, all, fresh, next⟩ | ⟨all, next⟩
      · have old : ∀ j ∈ skipped, j ∈ used := fun j member => hasFailed_iff.1 (all j member)
        have new : i ∉ used ++ skipped := by
          rw [← List.mem_eraseDups, eraseDups_append_old old, List.mem_eraseDups, ← hasFailed_iff,
            fresh]
          exact Bool.false_ne_true
        refine ⟨used ++ skipped ++ [i], by simp [split, left, next], ?_⟩
        rw [next, handedOut_asked, firsts, eraseDups_append_new new, eraseDups_append_old old]
        rfl
      · refine ⟨used ++ a.remaining, by simp [split, next], ?_⟩
        rw [next, handedOut_asked, firsts,
          eraseDups_append_old fun j member => hasFailed_iff.1 (all j member)]
        exact List.append_nil _
  | fail _ _ _ ih =>
      rw [handedOut_failed]
      exact ih driven.of_concat
  | claim _ ih => exact ih driven

def trail (faults : Nat → Fault) (order : List Nat) : List Event :=
  order.flatMap fun i => [.asked (some i), .failed i (faults i)]

theorem eraseDups_removeAll {passed skipped rest : List Nat} {i : Nat}
    (old : ∀ j ∈ skipped, j ∈ passed) (new : i ∉ passed) :
    ((skipped ++ i :: rest).removeAll passed).eraseDups =
      i :: (rest.removeAll (passed ++ [i])).eraseDups := by
  have split : (skipped ++ i :: rest).removeAll passed =
      skipped.removeAll passed ++ (i :: rest).removeAll passed := List.filter_append ..
  have others : (rest.removeAll passed).filter (fun j => !j == i) =
      rest.removeAll (passed ++ [i]) := by
    simp only [List.removeAll, List.filter_filter]
    apply List.filter_congr
    intro j _
    rw [Bool.eq_iff_iff]
    simp [and_comm]
  rw [split, removeAll_eq_nil old, List.nil_append, List.cons_removeAll,
    if_pos (by simpa using new), List.eraseDups_cons, others]

theorem Runs.pursued (runs : Runs t candidates log a) (faults : Nat → Fault) :
    ∃ a', Runs t candidates (log ++ (trail faults (a.remaining.removeAll (failed log)).eraseDups ++
      [.asked none])) a' := by
  generalize size : a.remaining.length = n
  induction n using Nat.strongRecOn generalizing log a with
  | ind n ih =>
      have asked := runs.ask
      rcases next_cases a with ⟨skipped, i, rest, left, all, fresh, next⟩ | ⟨all, next⟩
      · rw [next] at asked
        have shorter : rest.length < n := by
          rw [← size, left, List.length_append, List.length_cons]
          omega
        have known : i ∈ handedOut (log ++ [.asked (some i)]) := by simp
        obtain ⟨a', later⟩ := ih rest.length shorter (asked.fail known (faults i)) rfl
        have new : i ∉ failed log := by simp [← runs.hasFailed_iff, fresh]
        refine ⟨a', ?_⟩
        rw [failed_failed, failed_asked] at later
        rw [left, eraseDups_removeAll (fun j member => runs.hasFailed_iff.1 (all j member)) new]
        simpa [trail, recordFailure] using later
      · rw [next] at asked
        rw [removeAll_eq_nil fun j member => runs.hasFailed_iff.1 (all j member)]
        exact ⟨_, asked⟩

/-! ## What holds of every run -/

theorem Walks.length_handedOut {rest : List Nat} (walks : Walks candidates log rest)
    (unended : .asked none ∉ log) : (handedOut log).length = log.countP Event.isAsked := by
  induction walks with
  | start => rfl
  | handed _ _ _ ih =>
      have earlier := ih fun member => unended (List.mem_append_left _ member)
      simp [earlier, Event.isAsked]
  | usedUp => exact absurd (List.mem_append_right _ (List.mem_singleton_self _)) unended
  | failed _ ih =>
      have earlier := ih fun member => unended (List.mem_append_left _ member)
      simp [earlier, Event.isAsked]

/-- What holds of the bookkeeping after a run: every candidate had its turn in order, none was
handed out again after it had failed, nothing was once there was nothing left, and the counts and
failures are those that were recorded. If all that was handed out had failed whenever the next one
was asked for then each candidate was handed out once. -/
structure NeverRevisits (t : Topology) (candidates : List Nat) (log : List Event) (a : Attempts) :
    Prop where
  inTurn : Walks candidates log a.remaining
  fresh : ∀ before i, before ++ [.asked (some i)] <+: log → i ∉ failed before
  inOrder : (handedOut log).Sublist candidates
  atMost : (handedOut log).length ≤ candidates.length
  ends : candidates.length < log.countP Event.isAsked → .asked none ∈ log
  ended : ∀ before, before ++ [.asked none] <+: log → handedOut log = handedOut before
  hasFailed : ∀ i, a.hasFailed i ↔ i ∈ failed log
  errorCount : ∀ i, a.errorCount i = (failed log).count i
  total : ∑ i ∈ Finset.range t.size, a.errorCount i = a.count
  count : a.count = (failed log).length
  failures : List.Forall₂ (IsFailureOf t) (recorded log) a.nodeFailures
  unreachable : a.unreachable = .unreachable t a.nodeFailures
  driven : Driven log → handedOut log <+: candidates.eraseDups ∧
    (.asked none ∈ log → handedOut log = candidates.eraseDups)

theorem Runs.neverRevisits (runs : Runs t candidates log a)
    (inRange : ∀ i ∈ candidates, i < t.size) : NeverRevisits t candidates log a := by
  have walks := runs.walks
  have inOrder := (List.sublist_append_left _ _).trans walks.sublist
  constructor
  case inTurn => exact walks
  case fresh => exact fun before i start => walks.fresh start
  case inOrder => exact inOrder
  case atMost => exact inOrder.length_le
  case ends =>
    intro more
    by_contra unended
    have few := inOrder.length_le
    rw [walks.length_handedOut unended] at few
    exact Nat.not_lt.2 few more
  case ended => exact fun before start => (walks.ended start).2
  case hasFailed => exact fun i => runs.hasFailed_iff
  case errorCount => exact runs.errorCount
  case total => exact runs.total inRange
  case count => exact runs.count inRange
  case failures => exact runs.failures inRange
  case unreachable => rw [unreachable, runs.topology]
  case driven =>
    intro driven
    obtain ⟨used, split, firsts⟩ := runs.firsts driven
    refine ⟨?_, ?_⟩
    · rw [split, firsts, List.eraseDups_append]
      exact List.prefix_append _ _
    · intro spent
      obtain ⟨before, after, rfl⟩ := List.append_of_mem spent
      have start : before ++ [.asked none] <+: before ++ .asked none :: after := ⟨after, by simp⟩
      rw [split, (walks.ended start).1, List.append_nil, firsts]

end ClusterClient.Attempts
