import ClusterClient.Proofs.Pursuit

namespace ClusterClient

open Refresh (Record Balances latestOutcome? latestTime?)

namespace Workload

def pursuits (w : Workload) : Nat :=
  w.client.pursuing + w.tasks.countP (·.refresh?.isSome)

structure Logs (w w' : Workload) (records : List Record) : Prop where
  client : w.client.Logs w'.client records
  numbered : w'.client.Numbered
  pursuits : Balances w.pursuits records w'.pursuits

structure Counted (w : Workload) : Prop where
  flights : w.client.watch.inFlight = w.pursuits
  numbered : w.client.Numbered

variable {w w' w'' : Workload}

theorem Logs.trans {first second : List Record} (earlier : w.Logs w' first)
    (later : w'.Logs w'' second) : w.Logs w'' (first ++ second) :=
  ⟨earlier.client.trans later.client, later.numbered, earlier.pursuits.trans later.pursuits⟩

theorem Logs.counted {records : List Record} (logs : w.Logs w' records) (counted : w.Counted) :
    w'.Counted where
  flights := by
    have flights := logs.client.flights
    have pursuits := logs.pursuits
    rw [counted.flights] at flights
    exact Nat.add_right_cancel (flights.symm.trans pursuits)
  numbered := logs.numbered

theorem Counted.still (counted : w.Counted) : w.Logs w [] :=
  ⟨Client.logs_of_books rfl, counted.numbered, .none _⟩

theorem logs_of_turns {c' : Client} {records : List Record} (turns : w.client.Turns c' records) :
    w.Logs { w with client := c' } records where
  client := turns.logs
  numbered := turns.numbered
  pursuits := by
    have pursuing := turns.pursuing.add (w.tasks.countP (·.refresh?.isSome))
    simpa only [Workload.pursuits, Nat.add_comm] using pursuing

theorem Counted.logs_append (counted : w.Counted) {c' : Client} {task : Task}
    {records : List Record} (carries : w.client.Carries none c' task.refresh? records) :
    w.Logs ⟨c', w.tasks ++ [task]⟩ records where
  client := carries.logs
  numbered := carries.enrolls.numbered counted.numbered
  pursuits := by
    have balances := carries.balances
    simp only [Balances, Workload.pursuits, carries.enrolls.pursuing, List.countP_append,
      List.countP_singleton] at balances ⊢
    cases pursued : task.refresh?.isSome <;> simp [pursued] at balances ⊢ <;> omega

theorem Counted.flying (counted : w.Counted) {i : Nat} {task : Task}
    (located : w.tasks[i]? = some task) (pursued : task.refresh?.isSome = true) :
    0 < w.client.watch.inFlight := by
  have some : 0 < w.tasks.countP (·.refresh?.isSome) :=
    List.countP_pos_iff.2 ⟨task, List.mem_of_getElem? located, pursued⟩
  rw [counted.flights, pursuits]
  omega

theorem Counted.logs_updateTask (counted : w.Counted) {i : Nat} {f : Task → Client × Task}
    {records : Task → List Record}
    (carries : ∀ task, (task.refresh?.isSome = true → 0 < w.client.watch.inFlight) →
      w.client.Carries task.refresh? (f task).1 (f task).2.refresh? (records task)) :
    w.Logs (w.updateTask i f) (w.tasks[i]?.elim [] records) := by
  unfold updateTask
  cases located : w.tasks[i]? with
  | none => exact counted.still
  | some task =>
      have carries := carries task (counted.flying located)
      obtain ⟨inside, there⟩ := List.getElem?_eq_some_iff.1 located
      obtain ⟨before, after, split, -, changed⟩ : ∃ before after,
          w.tasks = before ++ task :: after ∧ before.length = i ∧
            w.tasks.set i (f task).2 = before ++ (f task).2 :: after := by
        rw [← there]
        exact List.exists_of_set inside
      have replaced := countP_replace before after task (f task).2 (·.refresh?.isSome)
      rw [← split, ← changed] at replaced
      have balances := carries.balances
      refine ⟨carries.logs, carries.enrolls.numbered counted.numbered, ?_⟩
      simp only [Balances, pursuits, carries.enrolls.pursuing, Option.elim_some] at balances ⊢
      omega

def records (w : Workload) (now : Nat) : Move → List Record
  | .event (.call d _) => Task.openings w.client w.isFetching d
  | .event (.proceed i) => w.tasks[i]?.elim [] (Task.proceedings w.client w.isFetching)
  | .event .refresh => w.client.beginnings
  | .event (.reply i reply) => w.tasks[i]?.elim [] (Task.advances w.client now reply)
  | .event (.drop i) => w.tasks[i]?.elim [] Task.droppings
  | .event (.loopReply id reply) => (w.loop? id).elim [] fun l =>
      l.refresh.elim [] (w.client.advances now · reply)
  | m => (w.taken? now m).elim [] fun taken => w.client.wakings taken.2

theorem Counted.logs_wakes (counted : w.Counted) {now : Nat} {m : Move} {l : Loop}
    {wake : Loop.Wake} (wakes : w.Wakes now m l wake) (tasks : (w.move now m).tasks = w.tasks) :
    w.Logs (w.move now m) (w.client.wakings wake) := by
  have member := List.mem_of_find?_eq_some wakes.located
  have turns := Client.turns_takeUp counted.numbered member wakes.idle now wake
  have moved : w.move now m = ⟨w.client.takeUp now l wake, w.tasks⟩ := by
    rw [← wakes.client, ← tasks]
  rw [moved]
  exact logs_of_turns turns

theorem Counted.logs_call (counted : w.Counted) (now : Nat) (d : Descriptor)
    (seed : Option UInt64) :
    w.Logs (w.step now (.call d seed)) (w.records now (.event (.call d seed))) := by
  let drawn := (w.client.seedFor seed).1
  have draws : w.client.Carries none drawn none [] := by
    cases seed <;> exact Client.carries_nothing none rfl (Client.enrolls_of_loops rfl rfl)
  have openings : Task.openings drawn w.isFetching d = Task.openings w.client w.isFetching d := by
    cases seed with
    | some seed => rfl
    | none =>
        have frame : drawn.frame = w.client.frame := rfl
        rw [Task.openings, Task.openings, Client.openings_congr frame rfl d]
  have entered := Task.carries_enter drawn w.isFetching now d (w.client.seedFor seed).2
  rw [openings] at entered
  exact counted.logs_append (draws.trans entered)

theorem Counted.logs_quiet (counted : w.Counted) {c : Client} (books : c.books = w.client.books)
    (enrolls : w.client.Enrolls c) : w.Logs { w with client := c } [] :=
  logs_of_turns ⟨Client.logs_of_books books, enrolls.numbered counted.numbered,
    enrolls.pursuing ▸ .none _⟩

theorem Counted.logs_perform (counted : w.Counted) (now : Nat) (op : Client.Operation) :
    w.Logs (w.step now (.perform op)) [] := by
  cases op with
  | start interval evicts =>
      apply counted.logs_quiet
      · exact w.client.books_startLoop now interval evicts
      · exact w.client.enrolls_startLoop now interval evicts
  | _ => exact counted.logs_quiet rfl (Client.enrolls_of_loops rfl rfl)

theorem Counted.logs_loopReply (counted : w.Counted) (now id : Nat) (reply : Http.Reply) :
    w.Logs (w.step now (.loopReply id reply))
      (w.records now (.event (.loopReply id reply))) := by
  simp only [step, updateLoop, records]
  cases located : w.loop? id with
  | none => exact counted.still
  | some l =>
      cases refreshing : l.refresh with
      | none =>
          have same : w.client.resumeLoop now l reply = w.client := by
            simp only [Client.resumeLoop, refreshing]
          simp only [same, refreshing, Option.elim_some, Option.elim_none]
          exact counted.still
      | some r =>
          have member := List.mem_of_find?_eq_some located
          have balanced : w.client.pursuing ≤ w.client.watch.inFlight := by
            rw [counted.flights]
            exact Nat.le_add_right _ _
          simp only [refreshing, Option.elim_some]
          exact logs_of_turns
            (Client.turns_resumeLoop counted.numbered balanced member refreshing now reply)

theorem Counted.logs_move (counted : w.Counted) (now : Nat) (m : Move) :
    w.Logs (w.move now m) (w.records now m) := by
  cases m with
  | take id wake =>
      cases taken : w.taken? now (.take id wake) with
      | some choice =>
          have logs := counted.logs_wakes (wakes_take taken) (by simp only [move, taken])
          simpa only [records, taken, Option.elim_some] using logs
      | none =>
          simp only [records, taken, move_take_asleep taken]
          exact counted.still
  | event event =>
      cases event with
      | perform op => exact counted.logs_perform now op
      | call d seed => exact counted.logs_call now d seed
      | proceed i =>
          exact counted.logs_updateTask fun task _ =>
            Task.carries_proceed w.client w.isFetching now task
      | refresh => exact counted.logs_append w.client.carries_startRefresh
      | reply i reply =>
          exact counted.logs_updateTask fun task flying => Task.carries_resume flying now reply
      | drop i => exact counted.logs_updateTask fun task flying => Task.carries_drop flying
      | wake id =>
          cases taken : w.taken? now (.event (.wake id)) with
          | some choice =>
              have logs := counted.logs_wakes (wakes_wake taken) (tasks_updateLoop w id _)
              simpa only [records, taken, Option.elim_some] using logs
          | none =>
              simp only [records, taken]
              rcases move_wake_asleep taken with same | ⟨l, -, moved⟩
              · rw [same]
                exact counted.still
              · rw [moved]
                exact counted.logs_quiet rfl (Client.enrolls_of_loops rfl rfl)
      | loopReply id reply => exact counted.logs_loopReply now id reply

def history (w : Workload) : Play → List Record
  | [] => []
  | (now, m) :: rest => w.records now m ++ (w.move now m).history rest

theorem Counted.logs_play (counted : w.Counted) (moves : Play) :
    w.Logs (w.play moves) (w.history moves) := by
  induction moves generalizing w with
  | nil => exact counted.still
  | cons m rest ih =>
      have moved := counted.logs_move m.1 m.2
      exact moved.trans (ih (moved.counted counted))

theorem counted_of_fresh (untouched : w.tasks = []) (unwatched : w.client.watch = {}) :
    w.Counted where
  flights := by rw [pursuits, Client.pursuing, untouched, unwatched]; rfl
  numbered := by
    constructor
    · rw [Client.loopIds, unwatched]
      exact List.nodup_nil
    · intro id member
      rw [Client.loopIds, unwatched] at member
      cases member

def Pursues (w : Workload) : Prop :=
  (∃ task ∈ w.tasks, task.refresh?.isSome = true) ∨
    ∃ l ∈ w.client.watch.loops, l.refresh.isSome = true

theorem pursuits_pos_iff : 0 < w.pursuits ↔ w.Pursues := by
  rw [pursuits, Client.pursuing, Nat.add_comm, Nat.add_pos_iff_pos_or_pos, List.countP_pos_iff,
    List.countP_pos_iff]
  rfl

/-- What a watch tells of itself after some moves, told by what has come of refreshes. -/
structure KeepsBooks (w : Workload) (moves : Play) : Prop where
  state : (w.play moves).client.isRefreshing = true ↔
    (w.history moves).countP Record.isOver < (w.history moves).countP Record.isBegun
  pursued : (w.play moves).pursuits + (w.history moves).countP Record.isOver =
    (w.history moves).countP Record.isBegun
  busy : (w.play moves).client.isRefreshing = true ↔ (w.play moves).Pursues
  error : (w.play moves).client.watch.lastFault.map Fault.message =
    (latestOutcome? (w.history moves)).bind fun outcome =>
      (Refresh.fault? outcome).map Fault.message
  clear : (w.play moves).client.watch.lastFault = none ↔
    (∀ outcome, .ended outcome ∉ w.history moves) ∨
      ∃ installed, latestOutcome? (w.history moves) = some (.ok installed)
  time : (w.play moves).client.watch.lastRefresh = latestTime? (w.history moves)
  unanswered : (w.play moves).client.watch.lastRefresh = none ↔
    ∀ time, .answered time ∉ w.history moves

theorem watch_keeps_books (untouched : w.tasks = []) (unwatched : w.client.watch = {})
    (moves : Play) : w.KeepsBooks moves := by
  have fresh := counted_of_fresh untouched unwatched
  have logs := fresh.logs_play moves
  have counted := logs.counted fresh
  have fault : (w.play moves).client.watch.lastFault =
      (latestOutcome? (w.history moves)).bind Refresh.fault? := by
    rw [logs.client.fault, unwatched]
    cases latestOutcome? (w.history moves) <;> rfl
  have time : (w.play moves).client.watch.lastRefresh = latestTime? (w.history moves) := by
    rw [logs.client.time, unwatched]
    exact Option.or_none
  have refreshing : (w.play moves).client.isRefreshing = true ↔ 0 < (w.play moves).pursuits := by
    rw [Client.isRefreshing, decide_eq_true_iff, counted.flights]
  have pursued : (w.play moves).pursuits + (w.history moves).countP Record.isOver =
      (w.history moves).countP Record.isBegun := by
    have pursuits := logs.pursuits
    rw [Balances, ← fresh.flights, unwatched, Nat.zero_add] at pursuits
    exact pursuits.symm
  constructor
  case state =>
    rw [refreshing, ← pursued]
    exact Nat.lt_add_left_iff_pos.symm
  case pursued => exact pursued
  case busy => exact refreshing.trans pursuits_pos_iff
  case error =>
    rw [fault, Option.map_bind]
    rfl
  case clear =>
    rw [fault, ← Refresh.latestOutcome?_eq_none_iff]
    cases latestOutcome? (w.history moves) with
    | none => simp
    | some outcome => cases outcome <;> simp [Refresh.fault?]
  case time => exact time
  case unanswered =>
    rw [time]
    exact Refresh.latestTime?_eq_none_iff

def report : Bytes :=
  "\x7b\"Nodes\":[\x7b\"Url\":\"http://a\",\"ClusterTag\":\"A\"\x7d],\"Etag\":6\x7d".toUTF8.toList

def overlapping : Play :=
  [(0, .event .refresh),
   (1, .event (.call (.new .get "/docs") (some 7))),
   (2, .event (.reply 0 (.error .timeout))),
   (3, .event (.reply 1 (.ok ⟨200, [], report⟩))),
   (4, .event .refresh),
   (5, .event (.perform .requestRefresh)),
   (6, .take 0 .signal),
   (7, .event (.drop 2))]

theorem overlapping_keeps_books :
    newcomer.tasks = [] ∧ newcomer.client.watch = {} ∧
      (newcomer.play overlapping).client.isRefreshing = true ∧
      (newcomer.play overlapping).client.watch.lastRefresh = some 3 ∧
      newcomer.KeepsBooks overlapping :=
  ⟨rfl, rfl, by decide +kernel, by decide +kernel, watch_keeps_books rfl rfl overlapping⟩

end Workload

end ClusterClient
