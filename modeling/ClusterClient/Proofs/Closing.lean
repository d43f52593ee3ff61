import ClusterClient.Proofs.FirstUse

/-!
# What a close holds for

A close ends the loop in force and keeps no later one from being started. The first use of a client
starts its loop where it ends, also if the client has been closed by then; every other close holds.
-/

namespace ClusterClient.Workload

/-- No loop is in force from here on, and none is started. -/
def StaysClosed (w : Workload) (events : Run) : Prop :=
  ∀ before, before <+: events → (w.run before).client.isRunning = false ∧
    (w.run before).client.watch.started = w.client.watch.started

variable {w : Workload} {events : Run}

theorem IsIn.eq_used {p : Phase} (isIn : w.IsIn p) (booted : w.client.isBootstrapped = true) :
    p = .used := by
  cases p with
  | unused => exact absurd booted (by simp [isIn.1])
  | fetching i r => exact absurd booted (by simp [isIn.1])
  | used => rfl

theorem IsIn.used_of_booted {p : Phase} (isIn : w.IsIn p)
    (booted : w.client.isBootstrapped = true) : w.IsIn .used :=
  isIn.eq_used booted ▸ isIn

theorem IsIn.run {p : Phase} (isIn : w.IsIn p) (ownLoop : events.StartsNone) :
    ∃ p', (w.run events).IsIn p' := by
  induction events generalizing w p with
  | nil => exact ⟨p, isIn⟩
  | cons event rest ih =>
      obtain ⟨p', -, next⟩ := isIn.advance event.1 (ownLoop event List.mem_cons_self)
      exact ih next ownLoop.tail

theorem used_run (used : w.IsIn .used) (ownLoop : events.StartsNone) :
    w.client.Rests (w.run events).client ∧ (w.run events).IsIn .used := by
  induction events generalizing w with
  | nil => exact ⟨.refl _, used⟩
  | cons event rest ih =>
      obtain ⟨p', advance, next⟩ := used.advance event.1 (ownLoop event List.mem_cons_self)
      cases advance with
      | rests rests =>
          obtain ⟨after, isIn⟩ := ih next ownLoop.tail
          exact ⟨rests.trans after, isIn⟩

theorem unused_run (off : w.client.settings.topologyUpdates = false) (unused : w.IsIn .unused)
    (ownLoop : events.StartsNone) :
    w.client.Rests (w.run events).client ∧ (w.run events).IsIn .unused := by
  induction events generalizing w with
  | nil => exact ⟨.refl _, unused⟩
  | cons event rest ih =>
      obtain ⟨now, event⟩ := event
      have noFirst (d : Descriptor) : ¬w.client.Opens d := by
        rintro ⟨-, updates, -⟩
        rw [off] at updates
        cases updates
      obtain ⟨p', advance, next⟩ := unused.advance now (ownLoop _ List.mem_cons_self)
      cases advance with
      | rests rests =>
          obtain ⟨after, isIn⟩ := ih (by rw [rests.settings, off]) next ownLoop.tail
          exact ⟨rests.trans after, isIn⟩
      | begins _ opens => exact absurd opens (noFirst _)
      | skips _ opens => exact absurd opens (noFirst _)

theorem closed_run {p : Phase} (isIn : w.IsIn p) (closed : w.client.watch.active = none)
    (ownLoop : events.StartsNone) :
    ((w.run events).client.isBootstrapped = w.client.isBootstrapped ∧
      (w.run events).client.watch.active = none ∧
      (w.run events).client.watch.started = w.client.watch.started) ∨
    ((w.run events).client.isBootstrapped ≠ w.client.isBootstrapped ∧
      (w.run events).client.watch.started = w.client.watch.started + 1 ∧
      ∃ before, before <+: events ∧ (w.run before).client.isRunning = true) := by
  induction events generalizing w p with
  | nil => exact .inl ⟨rfl, closed, rfl⟩
  | cons event rest ih =>
      have extend {before : Run} (start : before <+: rest) : event :: before <+: event :: rest :=
        List.cons_prefix_cons.2 ⟨rfl, start⟩
      obtain ⟨p', advance, next⟩ := isIn.advance event.1 (ownLoop event List.mem_cons_self)
      rcases advance.rests_or_launches with rests | ⟨unused, used, launches⟩
      · rw [← rests.booted, ← rests.started]
        rcases ih next (rests.active_none closed) ownLoop.tail with
          same | ⟨ended, started, before, start, running⟩
        · exact .inl same
        · exact .inr ⟨ended, started, event :: before, extend start, running⟩
      · -- The first use is over here, and nothing after it starts a loop.
        subst used
        obtain ⟨rests, after⟩ := used_run next ownLoop.tail
        refine .inr ⟨?_, ?_, [event], extend List.nil_prefix, ?_⟩
        · intro same
          exact unused (isIn.eq_used (same.symm.trans after.1))
        · exact rests.started.trans (launches.started closed)
        · have active : (w.run [event]).client.watch.active = _ := launches.active closed
          rw [Client.isRunning, active]
          rfl

theorem booted_prefix {p : Phase} (isIn : w.IsIn p) {before after : Run}
    (ownLoop : (before ++ after).StartsNone)
    (same : (w.run (before ++ after)).client.isBootstrapped = w.client.isBootstrapped) :
    (w.run before).client.isBootstrapped = w.client.isBootstrapped := by
  obtain ⟨p', next⟩ := isIn.run ownLoop.left
  cases booted : (w.run before).client.isBootstrapped with
  | true =>
      have later := (used_run (next.used_of_booted booted) ownLoop.right).2.1
      rw [← run_append, same] at later
      exact later.symm
  | false =>
      cases first : w.client.isBootstrapped with
      | false => rfl
      | true =>
          have kept := (used_run (isIn.used_of_booted first) ownLoop.left).2.1
          rw [booted] at kept
          cases kept

theorem staysClosed_iff {p : Phase} (isIn : w.IsIn p) (closed : w.client.watch.active = none)
    (ownLoop : events.StartsNone) :
    w.StaysClosed events ↔ (w.run events).client.isBootstrapped = w.client.isBootstrapped := by
  constructor
  · intro stays
    rcases closed_run isIn closed ownLoop with ⟨same, -, -⟩ | ⟨-, -, before, start, running⟩
    · exact same
    · rw [(stays before start).1] at running
      cases running
  · rintro same before ⟨after, rfl⟩
    have kept := booted_prefix isIn ownLoop same
    rcases closed_run isIn closed ownLoop.left with ⟨-, idle, started⟩ | ⟨ended, -, -⟩
    · refine ⟨?_, started⟩
      rw [Client.isRunning, idle]
      rfl
    · exact absurd kept ended

/-- What a close comes to: it holds unless the first use ends after it, and then one loop is
started. -/
structure CloseHolds (w : Workload) (now : Nat) (after : Run) : Prop where
  used : w.client.isBootstrapped = true → (w.step now (.perform .close)).StaysClosed after
  off : w.client.settings.topologyUpdates = false →
    (w.step now (.perform .close)).StaysClosed after
  exactly : (w.step now (.perform .close)).StaysClosed after ↔
    ((w.step now (.perform .close)).run after).client.isBootstrapped = w.client.isBootstrapped
  once : ((w.step now (.perform .close)).run after).client.watch.started ≤
    w.client.watch.started + 1

theorem close_holds_unless_first_use_follows {w : Workload} (untouched : w.tasks = [])
    {before after : Run} (ownLoop : (before ++ after).StartsNone) (now : Nat) :
    (w.run before).CloseHolds now after := by
  let closed := (w.run before).step now (.perform .close)
  have kept {p : Phase} (isIn : (w.run before).IsIn p) : closed.IsIn p := by
    cases p <;> exact isIn
  obtain ⟨p, isIn⟩ : ∃ p, (w.run before).IsIn p :=
    (isIn_untouched untouched).elim (·.run ownLoop.left) (·.run ownLoop.left)
  have closes := staysClosed_iff (kept isIn) rfl ownLoop.right
  constructor
  case used =>
    intro booted
    have used := kept (isIn.used_of_booted booted)
    exact closes.2 (used_run used ownLoop.right).1.booted
  case off =>
    intro off
    have off' : w.client.settings.topologyUpdates = false := by rwa [settings_run] at off
    rcases isIn_untouched untouched with unused | used
    · have still := kept (unused_run off' unused ownLoop.left).2
      exact closes.2 (unused_run (w := closed) off still ownLoop.right).1.booted
    · have still := kept (used_run used ownLoop.left).2
      exact closes.2 (used_run still ownLoop.right).1.booted
  case exactly => exact closes
  case once =>
    rcases closed_run (kept isIn) rfl ownLoop.right with ⟨-, -, started⟩ | ⟨-, started, -⟩
    · exact Nat.le_trans (Nat.le_of_eq started) (Nat.le_succ _)
    · exact Nat.le_of_eq started

theorem closeHolds_newcomer :
    newcomer.tasks = [] ∧ (opening ++ opened).StartsNone ∧
      (newcomer.run opening).CloseHolds 1 opened := by
  have ownLoop : (opening ++ opened).StartsNone := by
    simp [Run.StartsNone, opening, opened]
  exact ⟨rfl, ownLoop, close_holds_unless_first_use_follows rfl ownLoop 1⟩

theorem close_is_not_final :
    (opening ++ opened).StartsNone ∧
      ((newcomer.run opening).step 1 (.perform .close)).client.isRunning = false ∧
      (((newcomer.run opening).step 1 (.perform .close)).run opened).client.isRunning = true ∧
      ¬((newcomer.run opening).step 1 (.perform .close)).StaysClosed opened ∧
      ¬(newcomer.step 0 (.perform .close)).StaysClosed (opening ++ opened) := by
  have ownLoop : (opening ++ opened).StartsNone := by
    simp [Run.StartsNone, opening, opened]
  refine ⟨ownLoop, rfl, rfl, fun stays => ?_, fun stays => ?_⟩
  · cases (stays opened (List.prefix_refl _)).1
  · cases (stays (opening ++ opened) (List.prefix_refl _)).1

end ClusterClient.Workload
