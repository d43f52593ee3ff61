import ClusterClient.Fault

namespace ClusterClient

/-- How often each candidate has failed; one that never has does not occur. A count does not come
to the end of a word, for each failure is kept in full as well. -/
abbrev ErrorCounts := List (Nat × Nat)

namespace ErrorCounts

def increment (i : Nat) : ErrorCounts → ErrorCounts
  | [] => [(i, 1)]
  | (j, n) :: rest => if i = j then (j, n + 1) :: rest else (j, n) :: increment i rest

theorem lookup_cons (i j n : Nat) (rest : ErrorCounts) :
    List.lookup j ((i, n) :: rest) = if i = j then some n else List.lookup j rest := by
  by_cases same : i = j
  · simp [same]
  · rw [List.lookup_cons, beq_eq_false_iff_ne.2 (Ne.symm same), if_neg same]

theorem lookup_increment (counts : ErrorCounts) (i j : Nat) :
    (counts.increment i).lookup j =
      if i = j then some ((counts.lookup i).getD 0 + 1) else counts.lookup j := by
  induction counts with
  | nil => exact lookup_cons i j 1 []
  | cons entry rest ih =>
      obtain ⟨k, n⟩ := entry
      by_cases found : i = k
      · subst found
        by_cases same : i = j <;> simp [increment, lookup_cons, same]
      · by_cases here : k = j
        · subst here
          simp [increment, found]
        · simp [increment, lookup_cons, found, here, Ne.symm found, ih]

end ErrorCounts

structure Attempts where
  topology : Topology
  remaining : List Nat
  errorCounts : ErrorCounts := []
  nodeFailures : List NodeFailure := []
  claimed : Bool := false
deriving Repr, Inhabited

namespace Attempts

def start (topology : Topology) (candidates : List Nat) : Attempts :=
  { topology, remaining := candidates }

def hasFailed (a : Attempts) (i : Nat) : Bool := (a.errorCounts.lookup i).isSome

def errorCount (a : Attempts) (i : Nat) : Nat := (a.errorCounts.lookup i).getD 0

def count (a : Attempts) : Nat := a.nodeFailures.length

def next (a : Attempts) : Option Nat × Attempts :=
  match a.remaining.dropWhile a.hasFailed with
  | [] => (none, { a with remaining := [] })
  | i :: rest => (some i, { a with remaining := rest })

theorem length_remaining_next {a : Attempts} {i : Nat} (h : a.next.1 = some i) :
    a.next.2.remaining.length < a.remaining.length := by
  unfold next at h ⊢
  split at h
  · simp at h
  · rename_i rest eq
    have suffix := List.dropWhile_suffix a.hasFailed (l := a.remaining)
    have := suffix.length_le
    simp only [eq, List.length_cons] at this
    show rest.length < a.remaining.length
    omega

def recordFailure (a : Attempts) (i : Nat) (fault : Fault) : Attempts :=
  { a with
    errorCounts := a.errorCounts.increment i
    nodeFailures := a.nodeFailures ++ (a.topology.nodes[i]?.map (·, fault)).toList }

@[simp] theorem errorCount_recordFailure (a : Attempts) (i j : Nat) (fault : Fault) :
    (a.recordFailure i fault).errorCount j = a.errorCount j + if i = j then 1 else 0 := by
  simp only [errorCount, recordFailure, ErrorCounts.lookup_increment]
  split
  · next same => simp [same]
  · rfl

@[simp] theorem hasFailed_recordFailure (a : Attempts) (i j : Nat) (fault : Fault) :
    (a.recordFailure i fault).hasFailed j = (a.hasFailed j || j == i) := by
  simp only [hasFailed, recordFailure, ErrorCounts.lookup_increment]
  split
  · next same => simp [same]
  · next other => simp [Ne.symm other]

def unreachable (a : Attempts) : Fault := .unreachable a.topology a.nodeFailures

def claim (a : Attempts) : Attempts := { a with claimed := true }

end Attempts

end ClusterClient
