import ClusterClient.Proofs.Moves
import ClusterClient.Proofs.RefreshSearch

namespace ClusterClient

namespace Refresh

inductive Record
  | begun
  | answered (time : Nat)
  | ended (outcome : Except Fault Bool)
  | dropped

namespace Record

def isBegun : Record → Bool
  | begun => true
  | _ => false

def isOver : Record → Bool
  | ended _ | dropped => true
  | _ => false

def time? : Record → Option Nat
  | answered time => some time
  | _ => none

def outcome? : Record → Option (Except Fault Bool)
  | ended outcome => some outcome
  | _ => none

end Record

def fault? : Except Fault Bool → Option Fault
  | .error fault => some fault
  | .ok _ => none

def latestOutcome? (records : List Record) : Option (Except Fault Bool) :=
  (records.filterMap Record.outcome?).getLast?

def latestTime? (records : List Record) : Option Nat := (records.filterMap Record.time?).getLast?

theorem latestOutcome?_append (first second : List Record) :
    latestOutcome? (first ++ second) = (latestOutcome? second).or (latestOutcome? first) := by
  rw [latestOutcome?, List.filterMap_append, List.getLast?_append]
  rfl

theorem latestTime?_append (first second : List Record) :
    latestTime? (first ++ second) = (latestTime? second).or (latestTime? first) := by
  rw [latestTime?, List.filterMap_append, List.getLast?_append]
  rfl

theorem latestOutcome?_eq_none_iff {records : List Record} :
    latestOutcome? records = none ↔ ∀ outcome, .ended outcome ∉ records := by
  rw [latestOutcome?, List.getLast?_eq_none_iff, List.filterMap_eq_nil_iff]
  constructor
  · intro none outcome member
    cases none _ member
  · intro none record member
    cases record with
    | ended outcome => exact absurd member (none outcome)
    | _ => rfl

theorem latestTime?_eq_none_iff {records : List Record} :
    latestTime? records = none ↔ ∀ time, .answered time ∉ records := by
  rw [latestTime?, List.getLast?_eq_none_iff, List.filterMap_eq_nil_iff]
  constructor
  · intro none time member
    cases none _ member
  · intro none record member
    cases record with
    | answered time => exact absurd member (none time)
    | _ => rfl

def Balances (before : Nat) (records : List Record) (after : Nat) : Prop :=
  before + records.countP Record.isBegun = after + records.countP Record.isOver

theorem Balances.trans {before between after : Nat} {first second : List Record}
    (earlier : Balances before first between) (later : Balances between second after) :
    Balances before (first ++ second) after := by
  simp only [Balances, List.countP_append] at *
  omega

theorem Balances.add {before after : Nat} {records : List Record}
    (balances : Balances before records after) (others : Nat) :
    Balances (others + before) records (others + after) := by
  simp only [Balances] at *
  omega

theorem Balances.none (n : Nat) : Balances n [] n := rfl

def Progress.refresh? : Progress → Option Refresh
  | .asking _ r => some r
  | .done _ => none

def Progress.endings (progress : Progress) : List Record :=
  progress.outcome?.toList.map .ended

theorem Progress.balances (progress : Progress) :
    Balances 1 progress.endings progress.refresh?.isSome.toNat := by
  cases progress <;> rfl

end Refresh

open Refresh (Record Balances latestOutcome? latestTime?)

namespace Client

structure Logs (c c' : Client) (records : List Record) : Prop where
  flights : Balances c.watch.inFlight records c'.watch.inFlight
  fault : c'.watch.lastFault = (latestOutcome? records).elim c.watch.lastFault Refresh.fault?
  time : c'.watch.lastRefresh = (latestTime? records).or c.watch.lastRefresh

variable {c c' c'' : Client}

theorem Logs.trans {first second : List Record} (earlier : c.Logs c' first)
    (later : c'.Logs c'' second) : c.Logs c'' (first ++ second) where
  flights := earlier.flights.trans later.flights
  fault := by
    rw [later.fault, earlier.fault, Refresh.latestOutcome?_append]
    cases latestOutcome? second <;> rfl
  time := by
    rw [later.time, earlier.time, Refresh.latestTime?_append, Option.or_assoc]

theorem logs_of_books (same : c'.books = c.books) : c.Logs c' [] := by
  obtain ⟨flights, rest⟩ := Prod.mk.inj same
  obtain ⟨fault, time⟩ := Prod.mk.inj rest
  exact ⟨flights.symm, fault, time⟩

def snapshot? (c : Client) : Http.Reply → Option Topology
  | .error _ => none
  | .ok response =>
      match c.settings.statuses.classify c.settings.source.descriptor response with
      | .success => c.settings.source.parse? response.body
      | _ => none

theorem snapshot?_eq_some_iff {reply : Http.Reply} {t : Topology} :
    c.snapshot? reply = some t ↔ c.Yields reply t := by
  cases reply with
  | error cause => exact ⟨nofun, nofun⟩
  | ok response =>
      simp only [snapshot?, Yields]
      split <;> simp_all

theorem snapshot?_eq_none {node : Node} {reply : Http.Reply} {fault : Fault}
    (fails : c.fetched node reply = .error fault) : c.snapshot? reply = none := by
  apply Option.eq_none_iff_forall_ne_some.2
  intro t brought
  have yields : c.fetched node reply = .ok t :=
    fetched_eq_ok_iff.2 (snapshot?_eq_some_iff.1 brought)
  rw [fails] at yields
  cases yields

def beginnings (c : Client) : List Record := .begun :: c.startRefresh.2.endings

def advances (c : Client) (now : Nat) (r : Refresh) (reply : Http.Reply) : List Record :=
  ((c.snapshot? reply).toList.map fun _ => .answered now) ++ (c.resumeRefresh now r reply).2.endings

theorem logs_finishRefresh (flying : 0 < c.watch.inFlight) (outcome : Except Fault Bool) :
    c.Logs (c.finishRefresh outcome).1 [.ended outcome] where
  flights := (Nat.sub_add_cancel flying).symm
  fault := by cases outcome <;> rfl
  time := rfl

theorem logs_askNext (flying : 0 < c.watch.inFlight) (snapshot : Topology) (places : List Node)
    (failures : List NodeFailure) : c.Logs (c.askNext snapshot places failures).1
      (c.askNext snapshot places failures).2.endings := by
  cases places with
  | nil => exact logs_finishRefresh flying _
  | cons node rest => exact logs_of_books rfl

theorem logs_startRefresh (c : Client) : c.Logs c.startRefresh.1 c.beginnings := by
  let counted := c.modifyWatch fun w => { w with inFlight := w.inFlight + 1 }
  have enters : c.Logs counted [.begun] := ⟨rfl, rfl, rfl⟩
  exact enters.trans (logs_askNext (Nat.succ_pos _) c.topology (c.refreshTargets c.topology) [])

theorem logs_resumeRefresh (flying : 0 < c.watch.inFlight) (now : Nat) (r : Refresh)
    (reply : Http.Reply) : c.Logs (c.resumeRefresh now r reply).1 (c.advances now r reply) := by
  unfold advances
  cases answer : c.fetched r.asked reply with
  | ok t =>
      let stamped := c.modifyWatch fun w => { w with lastRefresh := some now }
      have answered : c.Logs (stamped.offer t).1 [.answered now] := ⟨rfl, rfl, rfl⟩
      have ended := logs_finishRefresh (c := (stamped.offer t).1) flying (.ok (stamped.offer t).2)
      rw [snapshot?_eq_some_iff.2 (fetched_eq_ok_iff.1 answer), resumeRefresh, answer]
      exact answered.trans ended
  | error fault =>
      rw [snapshot?_eq_none answer, resumeRefresh_fails answer]
      exact logs_askNext flying r.snapshot r.remaining _

theorem logs_dropRefresh (flying : 0 < c.watch.inFlight) : c.Logs c.dropRefresh [.dropped] :=
  ⟨(Nat.sub_add_cancel flying).symm, rfl, rfl⟩

theorem balances_beginnings (c : Client) :
    Balances 0 c.beginnings c.startRefresh.2.refresh?.isSome.toNat := by
  have enters : Balances 0 [.begun] 1 := rfl
  exact enters.trans c.startRefresh.2.balances

theorem balances_advances (c : Client) (now : Nat) (r : Refresh) (reply : Http.Reply) :
    Balances 1 (c.advances now r reply) (c.resumeRefresh now r reply).2.refresh?.isSome.toNat := by
  have answered : Balances 1 ((c.snapshot? reply).toList.map fun _ => .answered now) 1 := by
    cases c.snapshot? reply <;> rfl
  exact answered.trans (c.resumeRefresh now r reply).2.balances

theorem beginnings_congr (same : c'.frame = c.frame) : c'.beginnings = c.beginnings := by
  obtain ⟨settings, topology⟩ := Prod.mk.inj same
  have targets : c'.refreshTargets c'.topology = c.refreshTargets c.topology := by
    simp only [refreshTargets, database?, settings, topology]
  simp only [beginnings, startRefresh, modifyWatch, refreshTargets, database?] at targets ⊢
  rw [targets, topology]
  cases withSeeds c.topology.nodes _ <;> rfl

theorem books_startLoop (c : Client) (now interval : Nat) (evicts : Bool) :
    (c.startLoop now interval evicts).books = c.books := by
  simp only [startLoop, modifyWatch]
  split <;> rfl

theorem books_finishBootstrap (c : Client) (now : Nat) (d : Descriptor) (seed : UInt64)
    (claimed : Bool) : (c.finishBootstrap now d seed claimed).1.books = c.books := by
  rw [finishBootstrap, (aside_route _ now d seed claimed).books, books_startLoop]
  rfl

end Client

end ClusterClient
