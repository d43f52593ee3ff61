import ClusterClient.Proofs.Indifference
import ClusterClient.Proofs.Provenance

namespace ClusterClient.Workload

structure ServesConfirmed (w : Workload) (events : Run) : Prop where
  confirmed : ∀ (i : Nat) (execution : Execution),
    (w.run events).tasks[i]? = some (.call (.done (.ok execution))) →
    execution.fromCache = true → w.Confirmed events i execution
  indifferent : ∀ (before after : Run) (w' : Workload), events = before ++ after →
    w'.bare = (w.run before).bare →
    ∀ (i : Nat) (outcome : Except Fault Execution),
    (w.run events).tasks[i]? = some (.call (.done outcome)) →
    (∀ execution, outcome = .ok execution → execution.fromCache = false) →
    (w'.run after).tasks[i]? = some (.call (.done outcome))

theorem runs_serve_confirmed (w : Workload) (events : Run) (fresh : w.Fresh)
    (fills : events.FillsByCalls) : ServesConfirmed w events := by
  constructor
  case confirmed =>
    intro i execution ended fromCache
    exact fresh.confirmed fills ended fromCache
  case indifferent =>
    intro before after w' split alike i outcome ended own
    rw [split, run_append] at ended
    exact outcome_alike (run_alike alike after) ended own

def revalidation : Run :=
  [(0, .call (.new .get "/docs") (some 7)),
   (1, .reply 0 (.ok ⟨200, [(Http.Field.etag, "A:1")], [49]⟩)),
   (40, .call (.new .get "/docs") (some 7)),
   (41, .reply 1 (.error .timeout)),
   (42, .reply 1 (.ok ⟨304, [], []⟩))]

theorem revalidation_servesConfirmed :
    trio.Fresh ∧ revalidation.FillsByCalls ∧ ServesConfirmed trio revalidation ∧
      ∃ execution, (trio.run revalidation).tasks[1]? = some (.call (.done (.ok execution))) ∧
        execution.fromCache = true ∧ execution.payload = some [49] := by
  have fresh : trio.Fresh := ⟨rfl, rfl⟩
  have fills : revalidation.FillsByCalls := by simp [Run.FillsByCalls, revalidation]
  exact ⟨fresh, fills, runs_serve_confirmed trio revalidation fresh fills, _, rfl, rfl, rfl⟩

end ClusterClient.Workload
