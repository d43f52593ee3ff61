import ClusterClient.Proofs.Steering
import Mathlib.Data.Int.CardIntervalMod

/-!
# Rotating reads take turns

Every call that has no seed of its own takes the next turn of one counter, whatever it is for. A
rotating read begins at the node whose turn it has taken, so that reads are spread evenly but for
the turns that other calls have taken.
-/

namespace ClusterClient

/-! ## Counting turns -/

/-- How many turns at a node go to calls that do not begin to read there. -/
def idleTurns (size node : Nat) : Nat → List (Option Nat) → Nat
  | _, [] => 0
  | turn, start :: rest =>
      (if start = none ∧ turn % size = node then 1 else 0) + idleTurns size node (turn + 1) rest

def InTurn (size turn : Nat) (starts : List (Option Nat)) : Prop :=
  ∀ k node, starts[k]? = some (some node) → node = (turn + k) % size

theorem InTurn.tail {size turn : Nat} {start : Option Nat} {rest : List (Option Nat)}
    (inTurn : InTurn size turn (start :: rest)) : InTurn size (turn + 1) rest := by
  intro k node located
  have later := inTurn (k + 1) node (by simpa using located)
  rwa [Nat.add_comm k 1, ← Nat.add_assoc] at later

theorem InTurn.count_add_idleTurns {size turn : Nat} {starts : List (Option Nat)}
    (inTurn : InTurn size turn starts) (node : Nat) :
    starts.count (some node) + idleTurns size node turn starts =
      Nat.count (fun k => (turn + k) % size = node) starts.length := by
  induction starts generalizing turn with
  | nil => rfl
  | cons start rest ih =>
      have later := ih inTurn.tail
      have shifted : (fun k => (turn + (k + 1)) % size = node) =
          fun k => (turn + 1 + k) % size = node := by
        funext k
        rw [Nat.add_comm k 1, Nat.add_assoc]
      have first : (if start = some node then 1 else 0) +
          (if start = none ∧ turn % size = node then 1 else 0) =
          if turn % size = node then 1 else 0 := by
        cases start with
        | none => simp
        | some began =>
            have here : began = turn % size := inTurn 0 began rfl
            simp [here]
      rw [List.length_cons, Nat.count_succ', List.count_cons, idleTurns]
      simp only [shifted, ← later, Nat.add_zero, beq_iff_eq]
      omega

theorem count_turns_le {size i j : Nat} (lowI : i < size) (lowJ : j < size) (turn n : Nat) :
    Nat.count (fun k => (turn + k) % size = i) n ≤
      Nat.count (fun k => (turn + k) % size = j) n + 1 := by
  have positive : 0 < size := by omega
  -- The turns of a node from one turn on are those from zero on, less the ones before.
  have counted (node : Nat) (low : node < size) :
      (turn / size + if node < turn % size then 1 else 0) +
          Nat.count (fun k => (turn + k) % size = node) n =
        (turn + n) / size + if node < (turn + n) % size then 1 else 0 := by
    have upTo (b : Nat) : Nat.count (fun k => k % size = node) b =
        b / size + if node < b % size then 1 else 0 := by
      have card := Nat.count_modEq_card b positive node
      simpa only [Nat.ModEq, Nat.mod_eq_of_lt low] using card
    rw [← upTo, ← upTo, Nat.count_add]
  have ofI := counted i lowI
  have ofJ := counted j lowJ
  split_ifs at ofI ofJ <;> omega

theorem InTurn.count_le {size turn : Nat} {starts : List (Option Nat)}
    (inTurn : InTurn size turn starts) {i j : Nat} (lowI : i < size) (lowJ : j < size) :
    starts.count (some i) ≤ starts.count (some j) + 1 + idleTurns size j turn starts := by
  have ofI := inTurn.count_add_idleTurns i
  have ofJ := inTurn.count_add_idleTurns j
  have turns := count_turns_le lowI lowJ turn starts.length
  omega

theorem idleTurns_eq_zero {starts : List (Option Nat)} (busy : none ∉ starts)
    (size node turn : Nat) : idleTurns size node turn starts = 0 := by
  induction starts generalizing turn with
  | nil => rfl
  | cons start rest ih =>
      rw [List.mem_cons, not_or] at busy
      rw [idleTurns, ih busy.2, if_neg fun idle => busy.1 idle.1.symm]

/-! ## One call -/

/-- Where a call stands that began with a seed: it keeps the seed until it is routed, and its first
attempt is at the node that the seed gives. -/
def Call.Progress.TakesTurn (d : Descriptor) (seed : UInt64) (size : Nat) : Call.Progress → Prop
  | .asking _ (.bootstrapping d' seed' _) => d' = d ∧ seed' = seed
  | .asking _ (.attempting a) => a.index = seed.toNat % size
  | .done _ => True

def Task.TakesTurn (d : Descriptor) (seed : UInt64) (size : Nat) : Task → Prop
  | .call progress => progress.TakesTurn d seed size
  | .queued d' seed' => d' = d ∧ seed' = seed
  | _ => True

namespace Client

variable {c : Client} {d : Descriptor}

theorem takesTurn_route (isRead : d.isRead = true)
    (rotates : c.selector.readBalance = .roundRobin) (now : Nat) (seed : UInt64)
    (claimed : Bool) :
    (c.route now d seed claimed).2.TakesTurn d seed
      (c.route now d seed claimed).1.topology.size := by
  have topology : (c.route now d seed claimed).1.topology = c.topology :=
    congrArg Prod.snd (frame_route c now d seed claimed)
  rw [topology, route_eq]
  by_cases empty : c.topology.size = 0
  · rw [Selector.select, if_pos empty]
    trivial
  · simp only [Selector.select, if_neg empty, isRead, if_true, Selector.firstForRead, rotates]
    generalize turn : seed.toNat % c.topology.size = first
    have next (rest : List Nat) : Attempts.next
        { Attempts.start c.topology (first :: rest) with claimed } =
          (some first, { Attempts.start c.topology rest with claimed }) := by
      simp [Attempts.next, Attempts.start, Attempts.hasFailed]
    simp only [tryNext, next]
    split
    · exact turn.symm
    · trivial

theorem takesTurn_startCall (isRead : d.isRead = true)
    (rotates : c.selector.readBalance = .roundRobin) (now : Nat) (seed : UInt64) :
    (c.startCall now d seed).2.TakesTurn d seed (c.startCall now d seed).1.topology.size := by
  by_cases rejected : d.scope = .database ∧ c.database? = none
  · rw [startCall, if_pos rejected]
    trivial
  · have kept := congrArg Prod.fst (steering_startCall c now d seed)
    rcases c.startCall_inScope now seed rejected with
      ⟨c', request, r, next, -, -, -⟩ | ⟨c', next, -, -⟩
    · rw [next]
      exact ⟨rfl, rfl⟩
    · rw [next, steering_route] at kept
      rw [next]
      have rotates : c'.selector.readBalance = .roundRobin := by
        rw [← rotates]
        exact congrArg Selector.readBalance kept
      exact takesTurn_route isRead rotates now seed _

theorem takesTurn_resumeCall (isRead : d.isRead = true)
    (rotates : c.selector.readBalance = .roundRobin) (now : Nat) (seed : UInt64) (r : Refresh)
    (reply : Http.Reply) :
    (c.resumeCall now (.bootstrapping d seed r) reply).2.TakesTurn d seed
      (c.resumeCall now (.bootstrapping d seed r) reply).1.topology.size := by
  have kept := congrArg Prod.fst (steering_bootstrapping c now d seed r reply)
  rcases c.resumeCall_bootstrapping now d seed r reply with
    ⟨c', request, r', next, -, -⟩ | ⟨c', next, -⟩
  · rw [next]
    exact ⟨rfl, rfl⟩
  · rw [next, steering_route] at kept
    rw [next]
    have rotates : c'.selector.readBalance = .roundRobin := by
      rw [← rotates]
      exact congrArg Selector.readBalance kept
    exact takesTurn_route isRead rotates now seed true

end Client

namespace Workload

def TakesTurn (w : Workload) (i : Nat) (d : Descriptor) (seed : UInt64) (size : Nat) : Prop :=
  ∃ task, w.tasks[i]? = some task ∧ task.TakesTurn d seed size

theorem TakesTurn.step {w : Workload} {now : Nat} {event : Event} {i size : Nat}
    {d : Descriptor} {seed : UInt64} (takesTurn : w.TakesTurn i d seed size)
    (waits : w.attempt? i = none) (isRead : d.isRead = true)
    (rotates : w.client.selector.readBalance = .roundRobin)
    (steady : (w.step now event).client.topology.size = size) :
    (w.step now event).TakesTurn i d seed size := by
  obtain ⟨task, located, takesTurn⟩ := takesTurn
  obtain ⟨inside, -⟩ := List.getElem?_eq_some_iff.1 located
  have after := Nat.lt_of_lt_of_le inside (w.length_tasks_step now event)
  obtain ⟨task', found⟩ : ∃ task', (w.step now event).tasks[i]? = some task' :=
    ⟨_, List.getElem?_eq_getElem after⟩
  refine ⟨task', found, ?_⟩
  rcases task_step found with
    same | ⟨rotation, d', seed', awaits, client, rfl⟩ |
      ⟨reply, request, waiting, rfl, asking, rfl⟩ | other
  · rw [located, Option.some.injEq] at same
    exact same ▸ takesTurn
  · rcases awaits with new | queued
    · simp [located] at new
    · rw [located, Option.some.injEq] at queued
      subst queued
      obtain ⟨rfl, rfl⟩ := takesTurn
      rw [← steady, client]
      exact Client.takesTurn_startCall (c := { w.client with rotation }) isRead rotates now seed'
  · cases waiting with
    | attempting a => simp [attempt?, asking] at waits
    | bootstrapping d' seed' r =>
        rw [located, Option.some.injEq] at asking
        subst asking
        obtain ⟨rfl, rfl⟩ := takesTurn
        simp only [Workload.step, updateTask, located, Task.resume] at steady
        rw [← steady]
        exact Client.takesTurn_resumeCall isRead rotates now seed' r reply
  · cases task' with
    | call progress => exact (other.1 progress rfl).elim
    | queued d' seed' =>
        rw [(other.2 d' seed' rfl).1] at located
        cases located
    | refresh progress => trivial
    | dropped => trivial

def Steady (w : Workload) : Run → Prop
  | [] => True
  | event :: rest =>
      (w.step event.1 event.2).client.topology = w.client.topology ∧
        (w.step event.1 event.2).Steady rest

def firstAttempt? (w : Workload) (i : Nat) : Run → Option Attempt
  | [] => none
  | event :: rest =>
      match (w.step event.1 event.2).attempt? i with
      | some (_, a) => some a
      | none => (w.step event.1 event.2).firstAttempt? i rest

theorem TakesTurn.attempt {w : Workload} {i size : Nat} {d : Descriptor} {seed : UInt64}
    {request : Http.Request} {a : Attempt} (takesTurn : w.TakesTurn i d seed size)
    (sent : w.attempt? i = some (request, a)) : a.index = seed.toNat % size := by
  obtain ⟨task, located, takesTurn⟩ := takesTurn
  rw [attempt?_eq_some_iff, located, Option.some.injEq] at sent
  subst sent
  exact takesTurn

theorem TakesTurn.first {w : Workload} {i size : Nat} {d : Descriptor} {seed : UInt64}
    {events : Run} {a : Attempt} (takesTurn : w.TakesTurn i d seed size)
    (waits : w.attempt? i = none) (isRead : d.isRead = true)
    (rotates : w.client.selector.readBalance = .roundRobin)
    (size_eq : w.client.topology.size = size) (steady : w.Steady events)
    (first : w.firstAttempt? i events = some a) : a.index = seed.toNat % size := by
  induction events generalizing w with
  | nil => cases first
  | cons event rest ih =>
      obtain ⟨same, later⟩ := steady
      have size_eq := (congrArg Topology.size same).trans size_eq
      have next := takesTurn.step waits isRead rotates size_eq
      rw [firstAttempt?] at first
      split at first
      · rename_i request a' sent
        cases first
        exact next.attempt sent
      · rename_i none
        exact ih next none ((readBalance_step w event.1 event.2).trans rotates) size_eq later first

/-! ## All calls -/

def begun (w : Workload) : Event → List (Nat × Descriptor)
  | .call d none => [(w.tasks.length, d)]
  | _ => []

def calls (w : Workload) : Run → List (Nat × Descriptor)
  | [] => []
  | event :: rest => w.begun event.2 ++ (w.step event.1 event.2).calls rest

def readsFrom (w : Workload) (events : Run) (call : Nat × Descriptor) : Option Nat :=
  if call.2.isRead then (w.firstAttempt? call.1 events).map (·.index) else none

theorem le_of_mem_calls {w : Workload} {events : Run} {call : Nat × Descriptor}
    (member : call ∈ w.calls events) : w.tasks.length ≤ call.1 := by
  induction events generalizing w with
  | nil => cases member
  | cons event rest ih =>
      rw [calls, List.mem_append] at member
      rcases member with now | later
      · unfold begun at now
        split at now
        · rw [List.mem_singleton.1 now]
        · cases now
      · exact Nat.le_trans (w.length_tasks_step event.1 event.2) (ih later)

theorem begun_cases (w : Workload) (event : Event) :
    (event.draws = false ∧ w.begun event = []) ∨
      ∃ d, event = .call d none ∧ w.begun event = [(w.tasks.length, d)] := by
  cases event with
  | call d seed =>
      cases seed with
      | some seed => exact .inl ⟨rfl, rfl⟩
      | none => exact .inr ⟨d, rfl, rfl⟩
  | _ => exact .inl ⟨rfl, rfl⟩

theorem takesTurn_begun {w : Workload} (now : Nat) {d : Descriptor} (isRead : d.isRead = true)
    (rotates : w.client.selector.readBalance = .roundRobin) :
    (w.step now (.call d none)).TakesTurn w.tasks.length d w.client.rotation
      (w.step now (.call d none)).client.topology.size := by
  let drawn := w.client.drawSeed.1
  have begun : w.step now (.call d none) =
      (let entry := Task.enter drawn w.isFetching now d w.client.rotation
      ⟨entry.1, w.tasks ++ [entry.2]⟩) := rfl
  rw [begun]
  refine ⟨_, List.getElem?_concat_length, ?_⟩
  rcases Task.enter_cases drawn w.isFetching now d w.client.rotation with
    ⟨-, entered⟩ | ⟨-, entered⟩
  · rw [entered]
    exact ⟨rfl, rfl⟩
  · rw [entered]
    exact Client.takesTurn_startCall (c := drawn) isRead rotates now _

theorem firstAttempt?_calls {w : Workload} {events : Run} {k i : Nat} {d : Descriptor}
    {a : Attempt} (located : (w.calls events)[k]? = some (i, d)) (isRead : d.isRead = true)
    (rotates : w.client.selector.readBalance = .roundRobin) (steady : w.Steady events)
    (first : w.firstAttempt? i events = some a) :
    a.index = (w.client.rotation + .ofNat k).toNat % w.client.topology.size := by
  induction events generalizing w k with
  | nil => simp [calls] at located
  | cons event rest ih =>
      obtain ⟨now, event⟩ := event
      obtain ⟨same, later⟩ := steady
      have size_eq := congrArg Topology.size same
      have rotates' := (readBalance_step w now event).trans rotates
      have turned := w.rotation_step now event
      -- A call that takes a later turn has not begun in this event.
      have next {k : Nat} (located : ((w.step now event).calls rest)[k]? = some (i, d)) :
          a.index = ((w.step now event).client.rotation + .ofNat k).toNat %
            w.client.topology.size := by
        have beyond := le_of_mem_calls (List.mem_of_getElem? located)
        simp only [firstAttempt?, attempt?_of_le beyond] at first
        rw [← size_eq]
        exact ih located rotates' later first
      rcases w.begun_cases event with ⟨idle, none⟩ | ⟨d', rfl, one⟩
      · rw [calls, none, List.nil_append] at located
        simpa [turned, idle] using next located
      · rw [calls, one] at located
        cases k with
        | zero =>
            cases located
            have begins := takesTurn_begun now isRead rotates
            rw [size_eq] at begins
            rw [firstAttempt?] at first
            have turn : a.index = w.client.rotation.toNat % w.client.topology.size := by
              split at first
              · rename_i request a' sent
                cases first
                exact begins.attempt sent
              · rename_i none
                exact begins.first none isRead rotates' size_eq later first
            simpa using turn
        | succ k =>
            have rest := next (k := k) (by simpa using located)
            have turn : (1 : UInt64) + .ofNat k = .ofNat (k + 1) := by
              rw [UInt64.ofNat_add, UInt64.add_comm]
              rfl
            rw [rest, turned, Event.draws, if_pos rfl, UInt64.add_assoc, turn]

theorem inTurn_calls {w : Workload} {events : Run}
    (rotates : w.client.selector.readBalance = .roundRobin) (steady : w.Steady events)
    (few : w.client.rotation.toNat + (w.calls events).length ≤ 2 ^ 64) :
    InTurn w.client.topology.size w.client.rotation.toNat
      ((w.calls events).map (w.readsFrom events)) := by
  intro k node located
  rw [List.getElem?_map, Option.map_eq_some_iff] at located
  obtain ⟨⟨i, d⟩, located, reads⟩ := located
  obtain ⟨low, -⟩ := List.getElem?_eq_some_iff.1 located
  have exact : (w.client.rotation + UInt64.ofNat k).toNat = w.client.rotation.toNat + k := by
    rw [UInt64.toNat_add, UInt64.toNat_ofNat', Nat.mod_eq_of_lt (by omega),
      Nat.mod_eq_of_lt (by omega)]
  rw [readsFrom] at reads
  split at reads
  · rename_i isRead
    rw [Option.map_eq_some_iff] at reads
    obtain ⟨a, first, rfl⟩ := reads
    rw [firstAttempt?_calls located isRead rotates steady first, exact]
  · cases reads

/-- The calls of a run take turns, and a read begins where its turn is. So one node gets at most
one more of the reads than another, and those whose turns at the other went to other calls; just one
more if all calls are reads that make an attempt. -/
theorem rotating_reads_take_turns (w : Workload) (events : Run)
    (rotates : w.client.selector.readBalance = .roundRobin) (steady : w.Steady events)
    (few : w.client.rotation.toNat + (w.calls events).length ≤ 2 ^ 64) :
    let size := w.client.topology.size
    let turn := w.client.rotation.toNat
    let starts := (w.calls events).map (w.readsFrom events)
    InTurn size turn starts ∧
      ∀ i j, i < size → j < size →
        starts.count (some i) ≤ starts.count (some j) + 1 + idleTurns size j turn starts ∧
        (none ∉ starts → starts.count (some i) ≤ starts.count (some j) + 1) := by
  intro size turn starts
  have inTurn : InTurn size turn starts := inTurn_calls rotates steady few
  refine ⟨inTurn, fun i j lowI lowJ => ?_⟩
  have bound := inTurn.count_le lowI lowJ
  refine ⟨bound, fun busy => ?_⟩
  rwa [idleTurns_eq_zero busy, Nat.add_zero] at bound

def pair : Workload where
  client := { trio.client with
    topology := ⟨[{ url := "http://a", tag := "A" }, { url := "http://b", tag := "B" }], 5, none⟩
    selector := ⟨.roundRobin, .singleLeader, []⟩ }

def readWriteRead : Run :=
  [(0, .call (.new .get "/docs") none), (1, .reply 0 (.ok ⟨200, [], []⟩)),
   (2, .call (.new .put "/docs") none), (3, .reply 1 (.ok ⟨200, [], []⟩)),
   (4, .call (.new .get "/docs") none), (5, .reply 2 (.ok ⟨200, [], []⟩))]

theorem pair_takes_turns :
    pair.client.selector.readBalance = .roundRobin ∧ pair.Steady readWriteRead ∧
      pair.client.rotation.toNat + (pair.calls readWriteRead).length ≤ 2 ^ 64 ∧
      [some 0, none, some 0].count (some 0) ≤
        [some 0, none, some 0].count (some 1) + 1 + idleTurns 2 1 0 [some 0, none, some 0] := by
  have steady : pair.Steady readWriteRead := ⟨rfl, rfl, rfl, rfl, rfl, rfl, trivial⟩
  have few : pair.client.rotation.toNat + (pair.calls readWriteRead).length ≤ 2 ^ 64 := by
    decide +kernel
  have starts : (pair.calls readWriteRead).map (pair.readsFrom readWriteRead) =
      [some 0, none, some 0] := by
    decide +kernel
  have turns := rotating_reads_take_turns pair readWriteRead rfl steady few
  rw [starts] at turns
  exact ⟨rfl, steady, few, (turns.2 0 1 (by decide) (by decide)).1⟩

theorem rotating_reads_unbalanced :
    let starts := (pair.calls readWriteRead).map (pair.readsFrom readWriteRead)
    pair.client.selector.readBalance = .roundRobin ∧ pair.Steady readWriteRead ∧
      pair.client.rotation = 0 ∧ starts.length < 2 ^ 64 ∧
      ¬starts.count (some 0) ≤ starts.count (some 1) + 1 := by
  -- The write between two reads has taken the turn of the other node.
  have starts : (pair.calls readWriteRead).map (pair.readsFrom readWriteRead) =
      [some 0, none, some 0] := by
    decide +kernel
  rw [starts]
  exact ⟨rfl, ⟨rfl, rfl, rfl, rfl, rfl, rfl, trivial⟩, rfl, by decide, by decide⟩

end Workload

end ClusterClient
