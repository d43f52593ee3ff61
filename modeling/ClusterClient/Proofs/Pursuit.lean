import ClusterClient.Proofs.Records
import Mathlib.Data.List.Nodup

/-!
Who pursues refreshes: loops and tasks, each one at a time at most. What their steps enter in the
books and how many go on pursuing one is said once here, for a loop and for a task.
-/

namespace ClusterClient

open Refresh (Record Balances)

theorem countP_replace {α : Type} (before after : List α) (a a' : α) (p : α → Bool) :
    (before ++ a' :: after).countP p + (p a).toNat =
      (before ++ a :: after).countP p + (p a').toNat := by
  simp only [List.countP_append, List.countP_cons]
  cases p a <;> cases p a' <;> simp <;> omega

namespace Client

/-! ## The refreshes of the loops -/

def loopIds (c : Client) : List Nat := c.watch.loops.map (·.id)

def pursuing (c : Client) : Nat := c.watch.loops.countP (·.refresh.isSome)

structure Numbered (c : Client) : Prop where
  distinct : c.loopIds.Nodup
  below : ∀ id ∈ c.loopIds, id < c.watch.started

variable {c c' c'' : Client}

theorem Numbered.of_sublist (numbered : c.Numbered) (ids : c'.loopIds.Sublist c.loopIds)
    (started : c'.watch.started = c.watch.started) : c'.Numbered where
  distinct := ids.nodup numbered.distinct
  below id member := started ▸ numbered.below id (ids.subset member)

theorem Numbered.of_started (numbered : c.Numbered)
    (ids : c'.loopIds.Sublist (c.loopIds ++ [c.watch.started]))
    (started : c'.watch.started = c.watch.started + 1) : c'.Numbered := by
  have fresh : c.watch.started ∉ c.loopIds := fun member =>
    Nat.lt_irrefl _ (numbered.below _ member)
  constructor
  case distinct =>
    apply ids.nodup
    apply numbered.distinct.append (List.nodup_singleton _)
    simpa using fresh
  case below =>
    intro id member
    rw [started]
    rcases List.mem_append.1 (ids.subset member) with old | new
    · exact Nat.lt_succ_of_lt (numbered.below id old)
    · rw [List.mem_singleton.1 new]
      exact Nat.lt_succ_self _

theorem Numbered.eq_of_id (numbered : c.Numbered) {l l' : Loop} (member : l ∈ c.watch.loops)
    (member' : l' ∈ c.watch.loops) (same : l'.id = l.id) : l' = l :=
  List.inj_on_of_nodup_map numbered.distinct member' member same

structure Enrolls (c c' : Client) : Prop where
  numbered : c.Numbered → c'.Numbered
  pursuing : c'.pursuing = c.pursuing

theorem Enrolls.trans (first : c.Enrolls c') (second : c'.Enrolls c'') : c.Enrolls c'' where
  numbered numbered := second.numbered (first.numbered numbered)
  pursuing := second.pursuing.trans first.pursuing

theorem enrolls_of_loops (loops : c'.watch.loops = c.watch.loops)
    (started : c'.watch.started = c.watch.started) : c.Enrolls c' where
  numbered numbered := by
    refine numbered.of_sublist ?_ started
    rw [loopIds, loops]
    exact .refl _
  pursuing := by rw [Client.pursuing, loops, Client.pursuing]

theorem Beside.enrolls (beside : c.Beside c') : c.Enrolls c' :=
  enrolls_of_loops beside.loops beside.started

theorem enrolls_startLoop (c : Client) (now interval : Nat) (evicts : Bool) :
    c.Enrolls (c.startLoop now interval evicts) := by
  cases active : c.watch.active with
  | some id =>
      apply enrolls_of_loops <;> simp [startLoop, modifyWatch, active]
  | none =>
      rw [startLoop_idle active]
      constructor
      case numbered =>
        intro numbered
        apply numbered.of_started ?_ rfl
        simp only [loopIds, modifyWatch]
        split
        · exact List.sublist_append_left _ _
        · rw [List.map_append]
          exact .refl _
      case pursuing =>
        simp only [Client.pursuing, modifyWatch]
        split
        · rfl
        · exact List.countP_append

theorem enrolls_boot (c : Client) (now : Nat) : c.Enrolls (c.boot now) := by
  have marked : c.Enrolls { c with isBootstrapped := true } := enrolls_of_loops rfl rfl
  exact marked.trans (enrolls_startLoop _ now _ _)

theorem Numbered.countP_map (numbered : c.Numbered) {l : Loop} (member : l ∈ c.watch.loops)
    (p : Loop → Bool) {f : Loop → Loop} (others : ∀ l', l'.id ≠ l.id → f l' = l') :
    (c.watch.loops.map f).countP p + (p l).toNat = c.watch.loops.countP p + (p (f l)).toNat := by
  obtain ⟨before, after, split⟩ := List.append_of_mem member
  have distinct := numbered.distinct
  rw [loopIds, split, List.map_append, List.map_cons, List.nodup_middle, List.nodup_cons,
    ← List.map_append] at distinct
  have kept {part : List Loop} (within : part ⊆ before ++ after) : part.map f = part := by
    have same : ∀ l' ∈ part, f l' = l' := fun l' there =>
      others l' fun eq => distinct.1 (eq ▸ List.mem_map_of_mem (within there))
    exact (List.map_congr_left same).trans (List.map_id _)
  rw [split, List.map_append, List.map_cons, kept (List.subset_append_left before after),
    kept (List.subset_append_right before after)]
  exact countP_replace before after l (f l) p

theorem loopIds_map (c : Client) {f : Loop → Loop} (same : ∀ l, (f l).id = l.id) :
    (c.modifyWatch fun w => { w with loops := w.loops.map f }).loopIds = c.loopIds := by
  simp [loopIds, modifyWatch, same]

theorem Numbered.setRefresh (numbered : c.Numbered) (id : Nat) (r : Option Refresh) :
    (c.setRefresh id r).Numbered := by
  have ids : (c.setRefresh id r).loopIds = c.loopIds :=
    loopIds_map c fun l => by split <;> rfl
  exact numbered.of_sublist (ids ▸ .refl _) rfl

theorem Numbered.pursuing_setRefresh (numbered : c.Numbered) {l : Loop}
    (member : l ∈ c.watch.loops) (r : Option Refresh) :
    (c.setRefresh l.id r).pursuing + l.refresh.isSome.toNat = c.pursuing + r.isSome.toNat := by
  let f (l' : Loop) : Loop := if l'.id = l.id then { l' with refresh := r } else l'
  have changed := numbered.countP_map member (·.refresh.isSome) (f := f)
    fun l' other => if_neg other
  have changes : f l = { l with refresh := r } := if_pos rfl
  rwa [changes] at changed

structure Turns (c c' : Client) (records : List Record) : Prop where
  logs : c.Logs c' records
  numbered : c'.Numbered
  pursuing : Balances c.pursuing records c'.pursuing

theorem turns_setRefresh {c₁ : Client} {records : List Record} {l : Loop} {r : Option Refresh}
    (numbered : c.Numbered) (member : l ∈ c.watch.loops) (beside : c.Beside c₁)
    (logs : c.Logs c₁ records)
    (balances : Balances l.refresh.isSome.toNat records r.isSome.toNat) :
    c.Turns (c₁.setRefresh l.id r) records := by
  have enrolls := beside.enrolls
  have numbered' := enrolls.numbered numbered
  have member' : l ∈ c₁.watch.loops := beside.loops ▸ member
  constructor
  case logs =>
    have quiet : c₁.Logs (c₁.setRefresh l.id r) [] := logs_of_books rfl
    have entered := logs.trans quiet
    rwa [List.append_nil] at entered
  case numbered => exact numbered'.setRefresh l.id r
  case pursuing =>
    have changed := numbered'.pursuing_setRefresh member' r
    rw [enrolls.pursuing] at changed
    simp only [Balances] at balances ⊢
    omega

theorem resumeLoop_eq {l : Loop} {r : Refresh} (refreshing : l.refresh = some r) (now : Nat)
    (reply : Http.Reply) : c.resumeLoop now l reply =
      (c.resumeRefresh now r reply).1.setRefresh l.id (c.resumeRefresh now r reply).2.refresh? := by
  simp only [resumeLoop, refreshing]
  generalize c.resumeRefresh now r reply = next
  obtain ⟨c', progress⟩ := next
  cases progress <;> rfl

theorem turns_resumeLoop (numbered : c.Numbered) (balanced : c.pursuing ≤ c.watch.inFlight)
    {l : Loop} (member : l ∈ c.watch.loops) {r : Refresh} (refreshing : l.refresh = some r)
    (now : Nat) (reply : Http.Reply) :
    c.Turns (c.resumeLoop now l reply) (c.advances now r reply) := by
  have pursued : 0 < c.pursuing :=
    List.countP_pos_iff.2 ⟨l, member, by rw [refreshing]; rfl⟩
  have flying : 0 < c.watch.inFlight := Nat.lt_of_lt_of_le pursued balanced
  rw [resumeLoop_eq refreshing]
  apply turns_setRefresh numbered member (c.beside_resumeRefresh now r reply)
    (logs_resumeRefresh flying now r reply)
  rw [refreshing]
  exact c.balances_advances now r reply

theorem turns_refreshes {c₀ : Client} {now : Nat} {l : Loop} {wake : Loop.Wake}
    (woken : c.wakeLoop now l wake = (c₀.startRefresh.1, some c₀.startRefresh.2))
    (numbered : c₀.Numbered) {l' : Loop} (member : l' ∈ c₀.watch.loops) (same : l'.id = l.id)
    (idle : l'.refresh = none) : c₀.Turns (c.takeUp now l wake) c₀.beginnings := by
  have beside := c₀.beside_startRefresh
  have logs := c₀.logs_startRefresh
  have balances := c₀.balances_beginnings
  rw [takeUp, woken]
  cases next : c₀.startRefresh.2 with
  | asking request r =>
      rw [next] at balances
      dsimp only
      rw [← same]
      apply turns_setRefresh numbered member beside logs
      rw [idle]
      exact balances
  | done outcome =>
      rw [next] at balances
      have enrolls := beside.enrolls
      refine ⟨logs, enrolls.numbered numbered, ?_⟩
      rw [enrolls.pursuing]
      exact balances.add c₀.pursuing

theorem Turns.after {c₀ : Client} {records : List Record} (turns : c₀.Turns c' records)
    (books : c₀.books = c.books) (pursuing : c₀.pursuing = c.pursuing) : c.Turns c' records where
  logs := (logs_of_books books).trans turns.logs
  numbered := turns.numbered
  pursuing := pursuing ▸ turns.pursuing

theorem numbered_ticked (numbered : c.Numbered) (now : Nat) (l : Loop) :
    (c.ticked now l).Numbered := by
  have ids : (c.ticked now l).loopIds = c.loopIds := by
    rw [loopIds, watch_ticked]
    exact loopIds_map c fun other => by split <;> simp_all
  exact numbered.of_sublist (ids ▸ .refl _) (by rw [watch_ticked]; rfl)

theorem pursuing_ticked (numbered : c.Numbered) {l : Loop} (member : l ∈ c.watch.loops)
    (now : Nat) : (c.ticked now l).pursuing = c.pursuing := by
  let l' : Loop := { l with nextTick := l.followingTick now }
  let f (other : Loop) : Loop := if other.id = l.id then l' else other
  have changed := numbered.countP_map member (·.refresh.isSome) (f := f)
    fun other different => if_neg different
  have changes : f l = l' := if_pos rfl
  rw [changes] at changed
  rw [pursuing, watch_ticked]
  exact Nat.add_right_cancel changed

theorem mem_ticked {l : Loop} (member : l ∈ c.watch.loops) (now : Nat) :
    { l with nextTick := l.followingTick now } ∈ (c.ticked now l).watch.loops := by
  rw [watch_ticked]
  exact List.mem_map.2 ⟨l, member, if_pos rfl⟩

theorem turns_removeLoop (numbered : c.Numbered) {l : Loop} (member : l ∈ c.watch.loops)
    (idle : l.refresh = none) : c.Turns (c.removeLoop l.id) [] := by
  refine ⟨logs_of_books rfl, numbered.of_sublist (List.filter_sublist.map _) rfl, ?_⟩
  have kept : (c.removeLoop l.id).pursuing = c.pursuing := by
    rw [pursuing, removeLoop, modifyWatch, List.countP_filter]
    apply List.countP_congr
    intro other there
    by_cases same : other.id = l.id
    · rw [numbered.eq_of_id member there same, idle]
      simp
    · simp [same]
  rw [kept]
  exact .none _

def wakings (c : Client) : Loop.Wake → List Record
  | .stop => []
  | .tick | .signal => c.beginnings

theorem turns_takeUp (numbered : c.Numbered) {l : Loop} (member : l ∈ c.watch.loops)
    (idle : l.refresh = none) (now : Nat) (wake : Loop.Wake) :
    c.Turns (c.takeUp now l wake) (c.wakings wake) := by
  cases wake with
  | stop =>
      let left := c.modifyNotify (·.leave l.id)
      have enrolls : c.Enrolls left := enrolls_of_loops rfl rfl
      have turns := turns_removeLoop (enrolls.numbered numbered) member idle
      exact turns.after rfl enrolls.pursuing
  | tick =>
      let ticked := c.ticked now l
      have woken : c.wakeLoop now l .tick =
        (ticked.startRefresh.1, some ticked.startRefresh.2) := rfl
      have turns := turns_refreshes woken (numbered_ticked numbered now l)
        (mem_ticked member now) rfl idle
      have frame : ticked.frame = c.frame := by
        simp only [ticked, Client.ticked]
        split <;> rfl
      have books : ticked.books = c.books := by
        rw [Client.books, watch_ticked]
        rfl
      rw [beginnings_congr frame] at turns
      exact turns.after books (pursuing_ticked numbered member now)
  | signal =>
      let taken := c.modifyNotify (·.take l.id)
      have enrolls : c.Enrolls taken := enrolls_of_loops rfl rfl
      have woken : c.wakeLoop now l .signal =
        (taken.startRefresh.1, some taken.startRefresh.2) := rfl
      have turns := turns_refreshes woken (enrolls.numbered numbered) member rfl idle
      have frame : taken.frame = c.frame := rfl
      rw [beginnings_congr frame] at turns
      exact turns.after rfl enrolls.pursuing

/-! ## The refreshes of tasks -/

structure Carries (c : Client) (before : Option Refresh) (c' : Client) (after : Option Refresh)
    (records : List Record) : Prop where
  logs : c.Logs c' records
  enrolls : c.Enrolls c'
  balances : Balances before.isSome.toNat records after.isSome.toNat

theorem carries_nothing (r : Option Refresh) (books : c'.books = c.books)
    (enrolls : c.Enrolls c') : c.Carries r c' r [] :=
  ⟨logs_of_books books, enrolls, .none _⟩

theorem carries_refl (c : Client) (r : Option Refresh) : c.Carries r c r [] :=
  carries_nothing r rfl (Beside.refl c).enrolls

theorem Carries.trans {r r' r'' : Option Refresh} {first second : List Record}
    (earlier : c.Carries r c' r' first) (later : c'.Carries r' c'' r'' second) :
    c.Carries r c'' r'' (first ++ second) :=
  ⟨earlier.logs.trans later.logs, earlier.enrolls.trans later.enrolls,
    earlier.balances.trans later.balances⟩

theorem carries_startRefresh (c : Client) :
    c.Carries none c.startRefresh.1 c.startRefresh.2.refresh? c.beginnings :=
  ⟨c.logs_startRefresh, c.beside_startRefresh.enrolls, c.balances_beginnings⟩

theorem carries_resumeRefresh (flying : 0 < c.watch.inFlight) (now : Nat) (r : Refresh)
    (reply : Http.Reply) : c.Carries (some r) (c.resumeRefresh now r reply).1
      (c.resumeRefresh now r reply).2.refresh? (c.advances now r reply) :=
  ⟨logs_resumeRefresh flying now r reply, (c.beside_resumeRefresh now r reply).enrolls,
    c.balances_advances now r reply⟩

theorem enrolls_finishBootstrap (c : Client) (now : Nat) (d : Descriptor) (seed : UInt64)
    (claimed : Bool) : c.Enrolls (c.finishBootstrap now d seed claimed).1 :=
  (c.enrolls_boot now).trans (aside_route _ now d seed claimed).enrolls

def openings (c : Client) (d : Descriptor) : List Record :=
  if c.Opens d ∧ c.topology.isSeed = true then c.beginnings else []

theorem openings_congr (same : c'.frame = c.frame) (booted : c'.isBootstrapped = c.isBootstrapped)
    (d : Descriptor) : c'.openings d = c.openings d := by
  have began := beginnings_congr same
  obtain ⟨settings, topology⟩ := Prod.mk.inj same
  have opens : c'.Opens d ↔ c.Opens d := by
    rw [opens_iff, opens_iff, rejects_congr settings, settings, booted]
  simp only [openings, opens, topology, began]

theorem carries_finishBootstrap (c : Client) (now : Nat) (d : Descriptor) (seed : UInt64)
    (claimed : Bool) : c.Carries none (c.finishBootstrap now d seed claimed).1
      (c.finishBootstrap now d seed claimed).2.fetch? [] := by
  have routed : (c.finishBootstrap now d seed claimed).2.fetch? = none :=
    fetch?_route _ now d seed claimed
  rw [routed]
  exact carries_nothing none (books_finishBootstrap c now d seed claimed)
    (c.enrolls_finishBootstrap now d seed claimed)

theorem Carries.fetchOn {before : Option Refresh} {step : Client × Refresh.Progress}
    {records : List Record} (carries : c.Carries before step.1 step.2.refresh? records)
    (now : Nat) (d : Descriptor) (seed : UInt64) :
    c.Carries before (fetchOn now d seed step).1 (fetchOn now d seed step).2.fetch? records := by
  obtain ⟨c', progress⟩ := step
  cases progress with
  | asking request r => exact carries
  | done outcome =>
      have routed := carries.trans (c'.carries_finishBootstrap now d seed true)
      rwa [List.append_nil] at routed

theorem carries_route (c : Client) (now : Nat) (d : Descriptor) (seed : UInt64)
    (claimed : Bool) : c.Carries none (c.route now d seed claimed).1
      (c.route now d seed claimed).2.fetch? [] := by
  rw [fetch?_route]
  have routed := aside_route c now d seed claimed
  exact carries_nothing none routed.books routed.enrolls

theorem carries_attempting (c : Client) (now : Nat) (a : Attempt) (reply : Http.Reply) :
    c.Carries none (c.resumeCall now (.attempting a) reply).1
      (c.resumeCall now (.attempting a) reply).2.fetch? [] := by
  rw [fetch?_resumeCall]
  have resumed := aside_resumeCall c now a reply
  exact carries_nothing none resumed.books resumed.enrolls

theorem carries_startCall (c : Client) (now : Nat) (d : Descriptor) (seed : UInt64) :
    c.Carries none (c.startCall now d seed).1 (c.startCall now d seed).2.fetch?
      (c.openings d) := by
  by_cases rejected : c.Rejects d
  · have closed : ¬c.Opens d := fun opens => opens.inScope rejected
    rw [startCall_rejected rejected, openings, if_neg fun fetches => closed fetches.1]
    exact c.carries_refl none
  · by_cases opens : c.Opens d
    · rw [startCall_first opens]
      by_cases seeded : c.topology.isSeed = true
      · have fetches : c.Opens d ∧ c.topology.isSeed = true := ⟨opens, seeded⟩
        rw [openings, if_pos fetches, if_pos seeded]
        exact c.carries_startRefresh.fetchOn now d seed
      · have held : ¬(c.Opens d ∧ c.topology.isSeed = true) := fun fetches => seeded fetches.2
        rw [openings, if_neg held, if_neg seeded]
        exact c.carries_finishBootstrap now d seed false
    · rw [startCall_routes rejected opens, openings, if_neg fun fetches => opens fetches.1]
      exact c.carries_route now d seed false

end Client

namespace Task

def refresh? : Task → Option Refresh
  | .call progress => progress.fetch?
  | .queued .. => none
  | .refresh progress => progress.refresh?
  | .dropped => none

def advances (c : Client) (now : Nat) (reply : Http.Reply) (task : Task) : List Record :=
  task.refresh?.elim [] (c.advances now · reply)

def droppings (task : Task) : List Record := task.refresh?.elim [] fun _ => [.dropped]

variable {c : Client} {task : Task}

def openings (c : Client) (fetching : Bool) (d : Descriptor) : List Record :=
  if fetching then [] else c.openings d

theorem carries_enter (c : Client) (fetching : Bool) (now : Nat) (d : Descriptor)
    (seed : UInt64) :
    c.Carries none (enter c fetching now d seed).1 (enter c fetching now d seed).2.refresh?
      (openings c fetching d) := by
  rcases enter_cases c fetching now d seed with ⟨⟨fetches, -⟩, entered⟩ | ⟨other, entered⟩
  · rw [entered, openings, if_pos fetches]
    exact c.carries_refl none
  · have began := c.carries_startCall now d seed
    rw [entered, openings]
    split
    · rename_i fetches
      have later : ¬(c.Opens d ∧ c.topology.isSeed = true) :=
        fun opens => other ⟨fetches, opens.1⟩
      rwa [Client.openings, if_neg later] at began
    · exact began

def proceedings (c : Client) (fetching : Bool) : Task → List Record
  | .queued d _ => openings c fetching d
  | _ => []

theorem carries_proceed (c : Client) (fetching : Bool) (now : Nat) (task : Task) :
    c.Carries task.refresh? (proceed c fetching now task).1 (proceed c fetching now task).2.refresh?
      (task.proceedings c fetching) := by
  cases task with
  | queued d seed => exact carries_enter c fetching now d seed
  | _ => exact c.carries_refl _

theorem carries_resume (flying : task.refresh?.isSome = true → 0 < c.watch.inFlight) (now : Nat)
    (reply : Http.Reply) : c.Carries task.refresh? (resume c now reply task).1
      (resume c now reply task).2.refresh? (task.advances c now reply) := by
  cases task with
  | call progress =>
      cases progress with
      | done outcome => exact c.carries_refl none
      | asking request waiting =>
          cases waiting with
          | bootstrapping d seed r =>
              have fetched := Client.carries_resumeRefresh (flying rfl) now r reply
              exact fetched.fetchOn now d seed
          | attempting a => exact c.carries_attempting now a reply
  | queued d seed => exact c.carries_refl none
  | refresh progress =>
      cases progress with
      | done outcome => exact c.carries_refl none
      | asking request r => exact Client.carries_resumeRefresh (flying rfl) now r reply
  | dropped => exact c.carries_refl none

theorem carries_drop (flying : task.refresh?.isSome = true → 0 < c.watch.inFlight) :
    c.Carries task.refresh? (drop c task).1 (drop c task).2.refresh? task.droppings := by
  have dropped (flying : 0 < c.watch.inFlight) (r : Refresh) :
      c.Carries (some r) c.dropRefresh none [.dropped] :=
    ⟨Client.logs_dropRefresh flying, Client.enrolls_of_loops rfl rfl, rfl⟩
  cases task with
  | call progress =>
      cases progress with
      | done outcome => exact c.carries_refl none
      | asking request waiting =>
          cases waiting with
          | bootstrapping d seed r => exact dropped (flying rfl) r
          | attempting a => exact c.carries_refl none
  | queued d seed => exact c.carries_refl none
  | refresh progress =>
      cases progress with
      | done outcome => exact c.carries_refl none
      | asking request r => exact dropped (flying rfl) r
  | dropped => exact c.carries_refl none

end Task

end ClusterClient
