import ClusterClient.Proofs.Moves

/-!
# Signals and the refreshes they lead to

A signal is handed to the loop that waits for it; while none does, one is stored at most. A loop
goes on with each of these in one refresh, so no signal is lost, and none leads to more than one.
-/

namespace ClusterClient.Workload

variable {w : Workload} {now : Nat} {m : Move} {moves rest : Play}

def signalled (w : Workload) (moves : Play) : List Taken :=
  (w.takes moves).filter (·.wake = .signal)

structure Spends (w : Workload) (now : Nat) (m : Move) (l : Loop) : Prop where
  wakes : w.Wakes now m l .signal
  requests : (w.move now m).client.watch.requests = w.client.watch.requests
  notify : (w.move now m).client.watch.notify = w.client.watch.notify.take l.id

structure Saves (w : Workload) (now : Nat) (m : Move) : Prop where
  other : ∀ l, w.taken? now m ≠ some (l, .signal)
  signals : ∃ k, (w.move now m).client.watch.requests = w.client.watch.requests + k ∧
    w.client.watch.notify.Keeps k (w.move now m).client.watch.notify

theorem spends_or_saves (w : Workload) (now : Nat) (m : Move) :
    (∃ l, w.Spends now m l) ∨ w.Saves now m := by
  rcases w.move_cases now m with ⟨l, wake, wakes⟩ | ⟨asleep, -, passes⟩
  · have client := wakes.client
    cases wake with
    | signal =>
        have spent := w.client.takeUp_signal now l
        refine .inl ⟨l, wakes, ?_, ?_⟩
        · rw [client, spent.requests]
          rfl
        · rw [client, spent.notify]
          rfl
    | tick =>
        have ticked := w.client.takeUp_tick now l
        refine .inr ⟨by simp [wakes.taken], 0, ?_, ?_⟩
        · rw [client, ticked.requests, Client.watch_ticked]
          rfl
        · rw [client, ticked.notify, Client.watch_ticked]
          exact .left l.id
    | stop =>
        rw [Client.takeUp_stop] at client
        refine .inr ⟨by simp [wakes.taken], 0, by rw [client]; rfl, ?_⟩
        rw [client]
        exact .left l.id
  · refine .inr ⟨by simp [asleep], ?_⟩
    rcases passes with ⟨-, client⟩ | ⟨l, parks⟩ | attends
    · exact ⟨0, by rw [client]; rfl, by rw [client]; exact .notified 0⟩
    · refine ⟨0, by rw [parks.client]; rfl, ?_⟩
      rw [parks.client]
      exact .joined (Bool.eq_false_iff.2 (parks.unready .signal))
    · obtain ⟨k, requests, notify⟩ := attends.signals
      exact ⟨k, requests, notify ▸ .notified k⟩

theorem requests_play (w : Workload) (moves : Play) :
    w.client.watch.requests ≤ (w.play moves).client.watch.requests := by
  induction moves generalizing w with
  | nil => exact Nat.le_refl _
  | cons m rest ih =>
      refine Nat.le_trans ?_ (ih (w.move m.1 m.2))
      rcases w.spends_or_saves m.1 m.2 with ⟨l, spends⟩ | saves
      · exact Nat.le_of_eq spends.requests.symm
      · obtain ⟨k, requests, -⟩ := saves.signals
        exact Nat.le.intro requests.symm

/-- Whether nobody but the loop in force waits for signals, and it only while it is idle. -/
structure Attentive (w : Workload) : Prop where
  heard : ∀ id, w.client.watch.active = some id → w.client.watch.notify.Hears id
  unheard : w.client.watch.active = none → w.client.watch.notify.Alone
  busy : ∀ id, w.client.Busy id → w.client.watch.notify.Alone

theorem Wakes.alone {l : Loop} {wake : Loop.Wake} (wakes : w.Wakes now m l wake)
    (sole : w.client.Sole) (attentive : w.Attentive) :
    (w.move now m).client.watch.notify.Alone := by
  have hears := attentive.heard l.id (active_of_loop? sole wakes.located)
  rw [wakes.client]
  cases wake with
  | signal =>
      rw [(w.client.takeUp_signal now l).notify]
      exact hears.take wakes.ready
  | tick =>
      rw [(w.client.takeUp_tick now l).notify, Client.watch_ticked]
      exact hears.leave
  | stop => exact hears.leave

theorem Parks.attentive {l : Loop} (parks : w.Parks now m l) (sole : w.client.Sole)
    (attentive : w.Attentive) : (w.move now m).Attentive := by
  have active := active_of_loop? sole parks.located
  have unready := Bool.eq_false_iff.2 (parks.unready .signal)
  constructor
  case heard =>
    intro id active'
    rw [parks.client] at active' ⊢
    obtain rfl : l.id = id := Option.some.inj (active.symm.trans active')
    exact (attentive.heard l.id active).wait unready
  case unheard =>
    intro idle
    rw [parks.client] at idle
    exact absurd (active.symm.trans idle) (Option.some_ne_none _)
  case busy =>
    rintro id ⟨l', located, refreshes⟩
    rw [parks.client] at located
    obtain rfl : l.id = id := Option.some.inj (active.symm.trans (active_of_loop? sole located))
    obtain rfl : l = l' := Option.some.inj (parks.located.symm.trans located)
    rw [parks.idle] at refreshes
    cases refreshes

def Refreshes (w : Workload) (id : Nat) : Prop :=
  ∃ l, w.loop? id = some l ∧ l.refresh.isSome = true

theorem Refreshes.saves (sole : w.client.Sole) {id : Nat} (refreshes : w.Refreshes id)
    (now : Nat) (m : Move) : w.Saves now m := by
  rcases w.spends_or_saves now m with ⟨l, spends⟩ | saves
  · obtain ⟨l', located, busy⟩ := refreshes
    have active := active_of_loop? sole located
    have active' := active_of_loop? sole spends.wakes.located
    obtain rfl : l.id = id := Option.some.inj (active'.symm.trans active)
    obtain rfl : l = l' := Option.some.inj (spends.wakes.located.symm.trans located)
    rw [spends.wakes.idle] at busy
    cases busy
  · exact saves

end ClusterClient.Workload
