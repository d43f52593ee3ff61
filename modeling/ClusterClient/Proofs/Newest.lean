import ClusterClient.Proofs.Replies

namespace ClusterClient

namespace Topology

theorem isSeed_iff {t : Topology} : t.isSeed = true ↔ t.etag = seedEtag := by
  simp only [isSeed, beq_iff_eq]

theorem offer_of_lt {held offered : Topology} (newer : held.etag < offered.etag) :
    (held.offer offered).1 = offered := by
  simp [offer, supersedes, newer]

theorem offer_of_not_lt {held offered : Topology} (stale : ¬held.etag < offered.etag) :
    (held.offer offered).1 = held := by
  simp [offer, supersedes, stale]

theorem etag_offer (held offered : Topology) :
    (held.offer offered).1.etag.toInt = max held.etag.toInt offered.etag.toInt := by
  by_cases newer : held.etag < offered.etag
  · rw [offer_of_lt newer]
    rw [Int64.lt_iff_toInt_lt] at newer
    omega
  · rw [offer_of_not_lt newer]
    rw [Int64.lt_iff_toInt_lt] at newer
    omega

theorem etag_heldAfter (held : Topology) (offers : List Topology) :
    (held.heldAfter offers).etag.toInt = (offers.map (·.etag.toInt)).foldl max held.etag.toInt := by
  induction offers generalizing held with
  | nil => rfl
  | cons offered rest ih =>
      rw [List.map_cons, List.foldl_cons, ← etag_offer]
      exact ih (held.offer offered).1

theorem etag_le_heldAfter (held : Topology) (offers : List Topology) :
    held.etag ≤ (held.heldAfter offers).etag := by
  induction offers generalizing held with
  | nil => exact Int64.le_refl _
  | cons offered rest ih =>
      have offer_le : held.etag ≤ (held.offer offered).1.etag := by
        rw [Int64.le_iff_toInt_le, etag_offer]
        omega
      exact Int64.le_trans offer_le (ih (held.offer offered).1)

theorem find?_heldAfter (held : Topology) (offers : List Topology) :
    (held :: offers).find? (·.etag = (held.heldAfter offers).etag) =
      some (held.heldAfter offers) := by
  induction offers generalizing held with
  | nil => simp [heldAfter]
  | cons offered rest ih =>
      have later := ih (held.offer offered).1
      have above := etag_le_heldAfter (held.offer offered).1 rest
      have next : held.heldAfter (offered :: rest) = (held.offer offered).1.heldAfter rest := rfl
      rw [next]
      -- If the offer is installed the search goes past the old snapshot, else past the offer.
      by_cases newer : held.etag < offered.etag
      · rw [offer_of_lt newer] at later above ⊢
        have passed : held.etag ≠ (offered.heldAfter rest).etag := by
          intro same
          rw [same] at newer
          exact Int64.lt_irrefl (Int64.lt_of_lt_of_le newer above)
        rw [List.find?_cons_of_neg (by simpa using passed)]
        exact later
      · rw [offer_of_not_lt newer] at later above ⊢
        by_cases same : held.etag = (held.heldAfter rest).etag
        · rw [List.find?_cons_of_pos (by simpa using same)] at later ⊢
          exact later
        · have passed : offered.etag ≠ (held.heldAfter rest).etag := by
            intro reached
            rw [Int64.lt_iff_toInt_lt] at newer
            rw [Int64.le_iff_toInt_le] at above
            rw [← Int64.toInt_inj] at same reached
            omega
          rw [List.find?_cons_of_neg (by simpa using same)] at later ⊢
          rw [List.find?_cons_of_neg (by simpa using passed)]
          exact later

def reports (held : Topology) : List Topology → List Bool
  | [] => []
  | offered :: rest => (held.offer offered).2 :: (held.offer offered).1.reports rest

theorem getElem?_reports (held : Topology) (offers : List Topology) (i : Nat) :
    (held.reports offers)[i]? =
      offers[i]?.map fun t => decide ((held.heldAfter (offers.take i)).etag < t.etag) := by
  induction offers generalizing held i with
  | nil => rfl
  | cons offered rest ih =>
      cases i with
      | zero => simp [reports, heldAfter, offer, supersedes, apply_ite]
      | succ i => exact ih (held.offer offered).1 i

theorem heldAfter_lt_iff {held t : Topology} {offers : List Topology} :
    (held.heldAfter offers).etag < t.etag ↔ ∀ t' ∈ held :: offers, t'.etag < t.etag := by
  induction offers generalizing held with
  | nil => simp [heldAfter]
  | cons offered rest ih =>
      have both : (held.offer offered).1.etag < t.etag ↔
          held.etag < t.etag ∧ offered.etag < t.etag := by
        simp only [Int64.lt_iff_toInt_lt, etag_offer]
        omega
      have later := @ih (held.offer offered).1
      rw [List.forall_mem_cons, both, and_assoc] at later
      rw [List.forall_mem_cons, List.forall_mem_cons]
      exact later

theorem isSeed_heldAfter {held : Topology} (seed : held.isSeed = true) (offers : List Topology) :
    (held.heldAfter offers).isSeed = true ↔ true ∉ held.reports offers := by
  induction offers generalizing held with
  | nil => simp [heldAfter, reports, seed]
  | cons offered rest ih =>
      have next : held.heldAfter (offered :: rest) = (held.offer offered).1.heldAfter rest := rfl
      rw [next, reports]
      by_cases newer : held.etag < offered.etag
      · have above := etag_le_heldAfter (held.offer offered).1 rest
        rw [offer_of_lt newer] at above ⊢
        have lost : ¬(offered.heldAfter rest).isSeed = true := by
          intro kept
          rw [isSeed_iff] at seed kept
          rw [kept, ← seed] at above
          exact Int64.lt_irrefl (Int64.lt_of_lt_of_le newer above)
        simp [installed_iff.2 newer, lost]
      · have ignored : (held.offer offered).2 = false := by
          rw [← Bool.not_eq_true, installed_iff]
          exact newer
        rw [offer_of_not_lt newer, ignored, ih seed]
        simp

end Topology

def Call.Progress.Holds (t : Topology) : Call.Progress → Prop
  | .asking _ (.attempting a) => a.attempts.topology = t
  | .asking _ (.bootstrapping ..) => False
  | .done outcome => ∀ t' failures, outcome = .error (.unreachable t' failures) → t' = t

def Task.Holds (t : Topology) : Task → Prop
  | .call progress => progress.Holds t
  | .queued .. => False
  | .refresh _ => False
  | .dropped => True

theorem Attempts.topology_next (a : Attempts) : a.next.2.topology = a.topology := by
  unfold next
  split <;> rfl

namespace Client

theorem holds_tryNext (c : Client) (now : Nat) (call : Call) (a : Attempts) :
    (c.tryNext now call a).2.Holds a.topology := by
  have kept := a.topology_next
  unfold tryNext
  split
  · rename_i index rest eq
    rw [eq] at kept
    split
    · exact kept
    · intro t' failures unreachable
      cases unreachable
      exact kept
  · rename_i rest eq
    rw [eq] at kept
    intro t' failures unreachable
    cases unreachable
    exact kept

theorem holds_route (c : Client) (now : Nat) (d : Descriptor) (seed : UInt64) (claimed : Bool) :
    (c.route now d seed claimed).2.Holds c.topology := by
  unfold route
  dsimp only
  split
  · rename_i fault selected
    intro t' failures unreachable
    cases unreachable
    unfold Selector.select at selected
    split at selected <;> cases selected
  · exact holds_tryNext _ now _ _

theorem holds_resumeCall (c : Client) (now : Nat) (a : Attempt) (reply : Http.Reply) :
    (c.resumeCall now (.attempting a) reply).2.Holds a.attempts.topology := by
  cases judged : c.passFault? a.call.descriptor a.node reply with
  | some fault =>
      obtain ⟨c', next, -⟩ := resumeCall_passes c now a judged
      rw [next]
      exact holds_tryNext c' now a.call _
  | none =>
      obtain ⟨c', response, -, next, -⟩ := resumeCall_ends c now a judged
      rw [next]
      intro t' failures unreachable
      exact absurd unreachable (conclude_ne_unreachable c _ _ _ _ t' failures)

end Client

namespace Task

variable {t : Topology} {task : Task}

theorem Holds.resume (c : Client) (now : Nat) (reply : Http.Reply) (holds : task.Holds t) :
    (resume c now reply task).2.Holds t := by
  cases task with
  | call progress =>
      cases progress with
      | asking request waiting =>
          cases waiting with
          | bootstrapping d seed r => exact holds.elim
          | attempting a =>
              cases holds
              exact Client.holds_resumeCall c now a reply
      | done outcome => exact holds
  | queued d seed => exact holds.elim
  | refresh progress => exact holds.elim
  | dropped => exact holds

theorem Holds.proceed (c : Client) (fetching : Bool) (now : Nat) (holds : task.Holds t) :
    (proceed c fetching now task).2.Holds t := by
  cases task with
  | queued d seed => exact holds.elim
  | _ => exact holds

theorem Holds.drop (c : Client) (holds : task.Holds t) : (drop c task).2.Holds t := by
  cases task with
  | call progress =>
      cases progress with
      | asking request waiting => trivial
      | done outcome => exact holds
  | queued d seed => exact holds.elim
  | refresh progress => exact holds.elim
  | dropped => exact holds

end Task

namespace Workload

def HoldsAt (w : Workload) (t : Topology) (i : Nat) : Prop :=
  ∃ task, w.tasks[i]? = some task ∧ task.Holds t

theorem HoldsAt.updateTask {w : Workload} {t : Topology} {i : Nat} (holds : w.HoldsAt t i)
    (j : Nat) {f : Task → Client × Task} (keeps : ∀ task, task.Holds t → (f task).2.Holds t) :
    (w.updateTask j f).HoldsAt t i := by
  obtain ⟨task, located, holdsTask⟩ := holds
  unfold Workload.updateTask
  cases other : w.tasks[j]? with
  | none => exact ⟨task, located, holdsTask⟩
  | some changed =>
      by_cases same : j = i
      · subst same
        rw [located] at other
        cases other
        obtain ⟨inside, -⟩ := List.getElem?_eq_some_iff.1 located
        exact ⟨_, List.getElem?_set_self inside, keeps task holdsTask⟩
      · refine ⟨task, ?_, holdsTask⟩
        rw [← located]
        exact List.getElem?_set_ne same

theorem HoldsAt.of_append {w : Workload} {t : Topology} {i : Nat} (holds : w.HoldsAt t i)
    (c : Client) (more : List Task) : HoldsAt ⟨c, w.tasks ++ more⟩ t i := by
  obtain ⟨task, located, holdsTask⟩ := holds
  obtain ⟨inside, -⟩ := List.getElem?_eq_some_iff.1 located
  exact ⟨task, (List.getElem?_append_left inside).trans located, holdsTask⟩

theorem HoldsAt.step {w : Workload} {t : Topology} {i : Nat} (holds : w.HoldsAt t i)
    (now : Nat) (event : Event) : (w.step now event).HoldsAt t i := by
  cases event with
  | perform op => exact holds
  | call d seed => exact holds.of_append _ _
  | proceed j => exact holds.updateTask j fun _ kept => kept.proceed w.client w.isFetching now
  | refresh => exact holds.of_append _ _
  | reply j reply => exact holds.updateTask j fun _ kept => kept.resume w.client now reply
  | drop j => exact holds.updateTask j fun _ kept => kept.drop w.client
  | wake id =>
      simp only [Workload.step, updateLoop]
      split <;> exact holds
  | loopReply id reply =>
      simp only [Workload.step, updateLoop]
      split <;> exact holds

theorem HoldsAt.run {w : Workload} {t : Topology} {i : Nat} (holds : w.HoldsAt t i)
    (events : Run) : (w.run events).HoldsAt t i := by
  induction events generalizing w with
  | nil => exact holds
  | cons event rest ih => exact ih (holds.step event.1 event.2)

def offers (w : Workload) : Run → List Topology
  | [] => []
  | event :: rest => w.offered event.2 ++ (w.step event.1 event.2).offers rest

def Tops (w : Workload) (events : Run) (t : Topology) : Prop :=
  ∀ before, before <+: events → (w.run before).client.topology.etag < t.etag

theorem topology_run (w : Workload) (events : Run) :
    (w.run events).client.topology = w.client.topology.heldAfter (w.offers events) := by
  induction events generalizing w with
  | nil => rfl
  | cons event rest ih =>
      have next := ih (w.step event.1 event.2)
      rw [topology_step] at next
      rw [offers, Topology.heldAfter, List.foldl_append]
      exact next

theorem etag_le_run (w : Workload) (events : Run) :
    w.client.topology.etag ≤ (w.run events).client.topology.etag := by
  rw [topology_run]
  exact Topology.etag_le_heldAfter _ _

theorem tops_iff {w : Workload} {events : Run} {t : Topology} :
    w.Tops events t ↔ (w.run events).client.topology.etag < t.etag := by
  constructor
  · intro tops
    exact tops events (List.prefix_refl events)
  · rintro newer before ⟨after, rfl⟩
    have grown := etag_le_run (w.run before) after
    rw [← run_append] at grown
    exact Int64.lt_of_le_of_lt grown newer

theorem updates_report (w : Workload) (events : Run) (now : Nat) (t : Topology) :
    ∃ installed, ((w.run events).client.perform now (.offer t)).2 = .installed installed ∧
      (installed = true ↔ w.Tops events t) := by
  refine ⟨_, rfl, ?_⟩
  rw [tops_iff]
  exact Topology.installed_iff

theorem refreshes_report (w : Workload) (events : Run) {i : Nat} {request : Http.Request}
    {r : Refresh} {reply : Http.Reply} {t : Topology} (now : Nat)
    (waits : (w.run events).tasks[i]? = some (.refresh (.asking request r)))
    (fetched : (w.run events).client.fetched r.asked reply = .ok t) :
    ∃ installed,
      ((w.run events).step now (.reply i reply)).tasks[i]? =
        some (.refresh (.done (.ok installed))) ∧
      (installed = true ↔ w.Tops events t) := by
  obtain ⟨inside, -⟩ := List.getElem?_eq_some_iff.1 waits
  refine ⟨((w.run events).client.topology.offer t).2, ?_, ?_⟩
  · simp only [step, updateTask, waits, Task.resume, Client.resumeRefresh, fetched]
    exact List.getElem?_set_self inside
  · rw [tops_iff]
    exact Topology.installed_iff

/-- What holds of the snapshot of a client after a run, whatever has been offered in it. -/
structure KeepsNewest (w : Workload) (events : Run) : Prop where
  newest : (w.run events).client.topology.etag.toInt =
    ((w.offers events).map (·.etag.toInt)).foldl max w.client.topology.etag.toInt
  first : (w.client.topology :: w.offers events).find?
    (·.etag = (w.run events).client.topology.etag) = some (w.run events).client.topology
  reports : ∀ (i : Nat) (t : Topology), (w.offers events)[i]? = some t →
    ((w.client.topology.reports (w.offers events))[i]? = some true ↔
      ∀ t' ∈ w.client.topology :: (w.offers events).take i, t'.etag < t.etag)
  updates : ∀ now t, ∃ installed,
    ((w.run events).client.perform now (.offer t)).2 = .installed installed ∧
      (installed = true ↔ w.Tops events t)
  refreshes : ∀ (i : Nat) request r now reply t,
    (w.run events).tasks[i]? = some (.refresh (.asking request r)) →
    (w.run events).client.fetched r.asked reply = .ok t → ∃ installed,
      ((w.run events).step now (.reply i reply)).tasks[i]? =
        some (.refresh (.done (.ok installed))) ∧
      (installed = true ↔ w.Tops events t)
  seed : (w.run events).client.topology.isSeed = true ↔
    true ∉ w.client.topology.reports (w.offers events)
  taken : ∀ now d seed claimed, ((w.run events).client.route now d seed claimed).2.Holds
    (w.run events).client.topology
  kept : ∀ t i, (w.run events).HoldsAt t i → ∀ later, (w.run (events ++ later)).HoldsAt t i

theorem runs_keep_newest (w : Workload) (seed : w.client.topology.isSeed = true) (events : Run) :
    w.KeepsNewest events := by
  constructor
  case newest =>
    rw [topology_run]
    exact Topology.etag_heldAfter _ _
  case first =>
    rw [topology_run]
    exact Topology.find?_heldAfter _ _
  case reports =>
    intro i t offered
    rw [Topology.getElem?_reports, offered, Option.map_some, Option.some.injEq, decide_eq_true_iff]
    exact Topology.heldAfter_lt_iff
  case updates => exact w.updates_report events
  case refreshes =>
    intro i request r now reply t waits fetched
    exact w.refreshes_report events now waits fetched
  case seed =>
    rw [topology_run]
    exact Topology.isSeed_heldAfter seed _
  case taken =>
    intro now d seed claimed
    exact Client.holds_route _ now d seed claimed
  case kept =>
    intro t i holds later
    rw [run_append]
    exact holds.run later

def seeded : Workload := { trio with client.topology := .seed ["http://a"] (some "shop") }

def crossing : Run :=
  let report (etag : Int64) : Http.Reply :=
    .ok { status := 200, body := Text.Utf8.encode (DatabaseReport.toValue ⟨[], etag⟩).compact }
  [(0, .refresh), (1, .refresh), (2, .reply 1 (report 7)), (3, .reply 0 (report 3))]

theorem seeded_keepsNewest :
    seeded.client.topology.isSeed = true ∧ seeded.KeepsNewest crossing := by
  have seed : seeded.client.topology.isSeed = true := by decide
  exact ⟨seed, runs_keep_newest seeded seed crossing⟩

example : (seeded.offers crossing).map (·.etag) = [7, 3] := by decide +kernel

end Workload

end ClusterClient
