import ClusterClient.Notify
import Mathlib.Logic.Function.Iterate

namespace ClusterClient.Notify

def stored : Notify := { isStored := true }

structure Alone (n : Notify) : Prop where
  waiting : n.waiting = []
  handed : n.handed = []

theorem iterate_stored (k : Nat) : notify^[k] stored = stored := Function.iterate_fixed rfl k

theorem Alone.iterate {n : Notify} (alone : n.Alone) (k : Nat) :
    notify^[k] n = if k = 0 then n else stored := by
  obtain ⟨isStored, waiting, handed⟩ := n
  obtain rfl : waiting = [] := alone.waiting
  obtain rfl : handed = [] := alone.handed
  cases k with
  | zero => rfl
  | succ k => exact iterate_stored k

theorem Alone.notified {n : Notify} (alone : n.Alone) (k : Nat) : (notify^[k] n).Alone := by
  rw [alone.iterate]
  split
  · exact alone
  · exact ⟨rfl, rfl⟩

inductive Keeps (n : Notify) : Nat → Notify → Prop
  | notified (signals : Nat) : Keeps n signals (notify^[signals] n)
  | left (id : Nat) : Keeps n 0 (n.leave id)
  | joined {id : Nat} (unready : n.isReady id = false) : Keeps n 0 (n.wait id)

variable {n n' : Notify} {signals : Nat}

theorem Keeps.stored (keeps : Notify.stored.Keeps signals n') : n' = Notify.stored := by
  cases keeps with
  | notified => exact iterate_stored signals
  | left => rfl
  | joined unready => cases unready

theorem Keeps.stores (keeps : n.Keeps signals n') (alone : n.Alone) (comes : 0 < signals) :
    n' = Notify.stored := by
  cases keeps with
  | notified => rw [alone.iterate, if_neg (Nat.ne_of_gt comes)]
  | left => cases comes
  | joined => cases comes

inductive Hears (id : Nat) : Notify → Prop
  | away (isStored : Bool) : Hears id { isStored }
  | waiting : Hears id { waiting := [id] }
  | handed (isStored : Bool) : Hears id { isStored, handed := [id] }

variable {id : Nat}

theorem Alone.hears (alone : n.Alone) (id : Nat) : n.Hears id := by
  obtain ⟨isStored, waiting, handed⟩ := n
  obtain rfl : waiting = [] := alone.waiting
  obtain rfl : handed = [] := alone.handed
  exact .away isStored

theorem Hears.notify (hears : n.Hears id) : n.notify.Hears id := by
  cases hears with
  | away => exact .away true
  | waiting => exact .handed false
  | handed => exact .handed true

theorem Hears.iterate (hears : n.Hears id) (k : Nat) : (Notify.notify^[k] n).Hears id := by
  induction k with
  | zero => exact hears
  | succ k ih =>
      rw [Function.iterate_succ_apply']
      exact ih.notify

theorem Hears.wait (hears : n.Hears id) (unready : n.isReady id = false) :
    (n.wait id).Hears id := by
  cases hears with
  | away isStored =>
      cases isStored with
      | false => exact .waiting
      | true => cases unready
  | waiting => simpa [Notify.wait] using Hears.waiting
  | handed isStored => simp [isReady] at unready

theorem Hears.take (hears : n.Hears id) (ready : n.isReady id = true) : (n.take id).Alone := by
  cases hears with
  | away => exact ⟨rfl, rfl⟩
  | waiting => simp [isReady] at ready
  | handed => simp [Notify.take, Alone.mk]

theorem Hears.leave (hears : n.Hears id) : (n.leave id).Alone := by
  cases hears with
  | away => exact ⟨rfl, rfl⟩
  | waiting => simp [Notify.leave, Alone.mk]
  | handed => simp [Notify.leave, Notify.notify, Alone.mk]

end ClusterClient.Notify
