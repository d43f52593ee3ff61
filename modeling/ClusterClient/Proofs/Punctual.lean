import ClusterClient.Proofs.Moves
import ClusterClient.Proofs.Provenance

namespace ClusterClient

theorem Cache.mem_after {c : Cache} {now : Nat} {ops : List Cache.Operation}
    {e : Cache.Key × Cache.Entry} (stored : e ∈ (c.after now ops).entries) :
    e ∈ c.entries ∨ e.2.storedAt = now := by
  induction ops generalizing c with
  | nil => exact .inl stored
  | cons op rest ih =>
      rcases ih stored with before | later
      · rcases mem_perform before with put | ⟨there, -⟩
        · exact .inr (congrArg Prod.fst put).symm
        · exact .inl there
      · exact .inr later

namespace Workload

structure Runs (w : Workload) (l : Loop) : Prop where
  active : w.client.watch.active = some l.id
  schedule : w.client.schedule = [l]

def sweeper (id start interval : Nat) : Loop :=
  { id, interval, evicts := true, nextTick := start + interval }

variable {w : Workload} {now clock time : Nat} {m : Move} {moves : Play} {l : Loop}

theorem Runs.sole (runs : w.Runs l) : w.client.Sole := by
  intro l' member
  rw [runs.schedule] at member
  rw [List.mem_singleton.1 member, runs.active]

theorem runs_start {c c' : Client} (idle : c.watch.active = none) (sole : c.Sole) {interval : Nat}
    (positive : 0 < interval) {start : Nat}
    (beside : (c.startLoop start interval true).Beside c') (tasks : List Task) :
    Runs ⟨c', tasks⟩ (sweeper c.watch.started start interval) := by
  have launched := Client.startLoop_idle idle start interval true
  refine ⟨?_, ?_⟩
  · rw [beside.active, launched]
    rfl
  · rw [Client.schedule, beside.loops, launched, Client.modifyWatch,
      if_neg (Nat.ne_of_gt positive), List.map_append]
    exact congrArg (· ++ _) (sole.schedule_eq_nil idle)

theorem Runs.eq_of_idle (runs : w.Runs l) {id : Nat} {l' : Loop} (located : w.loop? id = some l')
    (idle : l'.refresh = none) : l' = l := by
  have there : { l' with refresh := none } ∈ w.client.schedule :=
    List.mem_map_of_mem (List.mem_of_find?_eq_some located)
  rw [runs.schedule, ← idle] at there
  exact List.mem_singleton.1 there

/-- Time passes only while the loop waits: fetches take none, and what is due is done at once. -/
def Punctual (w : Workload) (id clock : Nat) (moves : Play) (time : Nat) : Prop :=
  match moves with
  | [] => clock ≤ time ∧ ∀ t, clock ≤ t → t < time → w.Waits id t
  | (now, m) :: rest => (clock ≤ now ∧ ∀ t, clock ≤ t → t < now → w.Waits id t) ∧
      (w.move now m).Punctual id now rest time

theorem Punctual.le {id : Nat} (punctual : w.Punctual id clock moves time) : clock ≤ time := by
  induction moves generalizing w clock with
  | nil => exact punctual.1
  | cons m rest ih => exact Nat.le_trans punctual.1.1 (ih punctual.2)

def ticks (w : Workload) (moves : Play) : List Nat :=
  ((w.takes moves).filter (·.wake = .tick)).map (·.time)

structure OnTime (w : Workload) (clock : Nat) (l : Loop) : Prop where
  runs : w.Runs l
  evicts : l.evicts = true
  due : clock ≤ l.nextTick
  soon : l.nextTick ≤ clock + l.interval

theorem Waits.lt_nextTick (waits : w.Waits l.id time) (runs : w.Runs l) : time < l.nextTick := by
  obtain ⟨l', located, idle, unready⟩ := waits
  obtain rfl := runs.eq_of_idle located idle
  exact Nat.lt_of_not_le (unready .tick)

theorem OnTime.le_nextTick (onTime : w.OnTime clock l) (later : clock ≤ now)
    (waits : ∀ t, clock ≤ t → t < now → w.Waits l.id t) : now ≤ l.nextTick := by
  rcases Nat.eq_or_lt_of_le later with rfl | passed
  · exact onTime.due
  · have before := (waits (now - 1) (by omega) (by omega)).lt_nextTick onTime.runs
    omega

structure Untimed (w : Workload) (now : Nat) (m : Move) (l : Loop) : Prop where
  ticks : w.ticks [(now, m)] = []
  onTime : (w.move now m).OnTime now l
  entries : ∀ e ∈ (w.move now m).client.cache.entries,
    e ∈ w.client.cache.entries ∨ e.2.storedAt = now

structure Timed (w : Workload) (now : Nat) (m : Move) (l : Loop) : Prop where
  ticks : w.ticks [(now, m)] = [now]
  due : now = l.nextTick
  onTime : (w.move now m).OnTime now { l with nextTick := l.nextTick + l.interval }
  entries : ∀ e ∈ (w.move now m).client.cache.entries,
    now - e.2.storedAt < w.client.cache.maxAge

theorem OnTime.signal (onTime : w.OnTime now l) (wakes : w.Wakes now m l .signal) :
    w.Untimed now m l := by
  have client := wakes.client
  have spent := w.client.takeUp_signal now l
  refine ⟨by simp [Workload.ticks, takes, wakes.taken],
    ⟨⟨?_, ?_⟩, onTime.evicts, onTime.due, onTime.soon⟩, ?_⟩
  · rw [client, spent.active]
    exact onTime.runs.active
  · rw [client, spent.schedule]
    exact onTime.runs.schedule
  · intro e stored
    rw [client, spent.cache] at stored
    exact .inl stored

theorem OnTime.tick (onTime : w.OnTime now l) (wakes : w.Wakes now m l .tick) :
    w.Timed now m l := by
  have client := wakes.client
  have ticked := w.client.takeUp_tick now l
  -- Time has not passed the tick, so that it is taken up on its instant and moves none.
  have now_eq : now = l.nextTick := Nat.le_antisymm onTime.due wakes.ready
  have following : l.followingTick now = l.nextTick + l.interval := by
    simp [Loop.followingTick, now_eq]
  have swept : (w.client.ticked now l).cache = (w.client.cache.evictExpired now).1 := by
    rw [Client.ticked, if_pos onTime.evicts]
    rfl
  refine ⟨by simp [Workload.ticks, takes, wakes.taken], now_eq,
    ⟨⟨?_, ?_⟩, onTime.evicts, ?_, ?_⟩, ?_⟩
  · rw [client, ticked.active, Client.watch_ticked]
    exact onTime.runs.active
  · rw [client, ticked.schedule, Client.schedule_ticked, onTime.runs.schedule, following,
      wakes.idle]
    simp
  · exact Nat.le_trans onTime.due (Nat.le_add_right _ _)
  · exact Nat.le_of_eq (by rw [now_eq])
  · intro e stored
    rw [client, ticked.cache, swept] at stored
    exact (Cache.mem_sweep.1 stored).2

theorem OnTime.passes (onTime : w.OnTime now l) (passes : w.Passes now m)
    (unstopped : m = .event (.perform .close) → w.client.isRunning = false) :
    w.Untimed now m l := by
  have keeps := passes.keeps onTime.runs.active unstopped
  refine ⟨by simp [Workload.ticks, takes, passes.asleep],
    ⟨⟨keeps.1, keeps.2.trans onTime.runs.schedule⟩, onTime.evicts, onTime.due, onTime.soon⟩, ?_⟩
  intro e stored
  obtain ⟨ops, cache⟩ := passes.cache
  rw [cache] at stored
  exact Cache.mem_after stored

theorem OnTime.untimed_or_timed (onTime : w.OnTime clock l)
    (unstopped : m = .event (.perform .close) → w.client.isRunning = false)
    (later : clock ≤ now) (waits : ∀ t, clock ≤ t → t < now → w.Waits l.id t) :
    w.Untimed now m l ∨ w.Timed now m l := by
  have soon := Nat.le_trans onTime.soon (Nat.add_le_add_right later _)
  have onTime : w.OnTime now l :=
    ⟨onTime.runs, onTime.evicts, onTime.le_nextTick later waits, soon⟩
  rcases w.move_cases now m with ⟨l', wake, wakes⟩ | passes
  · obtain rfl := onTime.runs.eq_of_idle wakes.located wakes.idle
    cases wake with
    | stop => exact absurd rfl (wakes.ne_stop onTime.runs.sole)
    | signal => exact .inl (onTime.signal wakes)
    | tick => exact .inr (onTime.tick wakes)
  · exact .inl (onTime.passes passes unstopped)

theorem ticks_cons (w : Workload) (now : Nat) (m : Move) (rest : Play) :
    w.ticks ((now, m) :: rest) = w.ticks [(now, m)] ++ (w.move now m).ticks rest := by
  simp only [ticks, takes, List.append_nil, List.filter_append, List.map_append]

def dueTicks (l : Loop) (time : Nat) : List Nat :=
  (List.range ((time + l.interval - l.nextTick) / l.interval)).map fun k =>
    l.nextTick + k * l.interval

theorem dueTicks_of_lt (early : time < l.nextTick) : dueTicks l time = [] := by
  have none : (time + l.interval - l.nextTick) / l.interval = 0 := by
    by_cases positive : 0 < l.interval
    · exact Nat.div_eq_of_lt (by omega)
    · rw [Nat.eq_zero_of_not_pos positive, Nat.div_zero]
  rw [dueTicks, none]
  rfl

theorem dueTicks_of_le (positive : 0 < l.interval) (due : l.nextTick ≤ time) :
    dueTicks l time =
      l.nextTick :: dueTicks { l with nextTick := l.nextTick + l.interval } time := by
  have one : (time + l.interval - l.nextTick) / l.interval =
      (time + l.interval - (l.nextTick + l.interval)) / l.interval + 1 := by
    rw [← Nat.add_div_right _ positive]
    congr 1
    omega
  simp only [dueTicks, one, List.range_succ_eq_map, List.map_cons, List.map_map]
  congr 1
  · simp
  · refine List.map_congr_left fun k _ => ?_
    simp only [Function.comp_apply, Nat.succ_mul]
    omega

theorem OnTime.ticks_eq (onTime : w.OnTime clock l) (positive : 0 < l.interval)
    (unstopped : w.Unstopped moves) (punctual : w.Punctual l.id clock moves time)
    (waits : (w.play moves).Waits l.id time) : w.ticks moves = dueTicks l time := by
  induction moves generalizing w clock l with
  | nil =>
      rw [dueTicks_of_lt (waits.lt_nextTick onTime.runs)]
      rfl
  | cons m rest ih =>
      obtain ⟨now, m⟩ := m
      obtain ⟨⟨later, idle⟩, punctual⟩ := punctual
      rw [ticks_cons]
      rcases onTime.untimed_or_timed unstopped.1 later idle with untimed | timed
      · rw [untimed.ticks, ih untimed.onTime positive unstopped.2 punctual waits]
        rfl
      · have due : l.nextTick ≤ time := timed.due ▸ punctual.le
        rw [timed.ticks, ih timed.onTime positive unstopped.2 punctual waits,
          dueTicks_of_le positive due, timed.due]
        rfl

theorem maxAge_move (w : Workload) (now : Nat) (m : Move) :
    (w.move now m).client.cache.maxAge = w.client.cache.maxAge := by
  rcases w.move_cases now m with ⟨l, wake, wakes⟩ | ⟨-, ⟨ops, cache⟩, -⟩
  · rw [wakes.client]
    cases wake with
    | stop => rfl
    | tick =>
        rw [(w.client.takeUp_tick now l).cache, Client.ticked]
        split <;> rfl
    | signal =>
        rw [(w.client.takeUp_signal now l).cache]
        rfl
  · rw [cache, Cache.after, Cache.maxAge_replay]

/-- Whether no entry outlives its age limit by an interval before the next tick. -/
def Young (w : Workload) (l : Loop) : Prop :=
  ∀ e ∈ w.client.cache.entries,
    l.nextTick < e.2.storedAt + w.client.cache.maxAge + l.interval ∨
      l.nextTick ≤ e.2.storedAt + l.interval

theorem OnTime.young (onTime : w.OnTime clock l) (positive : 0 < l.interval)
    (unstopped : w.Unstopped moves)
    (punctual : w.Punctual l.id clock moves time) (waits : (w.play moves).Waits l.id time)
    (young : l.nextTick ≤ time ∨ w.Young l) :
    ∀ e ∈ (w.play moves).client.cache.entries,
      time - e.2.storedAt < w.client.cache.maxAge + l.interval := by
  induction moves generalizing w clock l with
  | nil =>
      have early := waits.lt_nextTick onTime.runs
      intro e stored
      have bound := young.resolve_left (Nat.not_le_of_lt early) e stored
      omega
  | cons m rest ih =>
      obtain ⟨now, m⟩ := m
      obtain ⟨⟨later, idle⟩, punctual⟩ := punctual
      have maxAge := w.maxAge_move now m
      rw [← maxAge]
      rcases onTime.untimed_or_timed unstopped.1 later idle with untimed | timed
      · refine ih untimed.onTime positive unstopped.2 punctual waits ?_
        refine young.imp_right fun young e stored => ?_
        rw [maxAge]
        rcases untimed.entries e stored with before | new
        · exact young e before
        · -- It is stored after the last tick.
          rw [new]
          exact .inr untimed.onTime.soon
      · refine ih (l := { l with nextTick := l.nextTick + l.interval }) timed.onTime positive
          unstopped.2 punctual waits (.inr fun e stored => ?_)
        have fresh := timed.entries e stored
        have now_eq := timed.due
        rw [maxAge]
        dsimp only
        omega

structure KeepsTime (w : Workload) (moves : Play) (start interval time : Nat) : Prop where
  ticks : w.ticks moves =
    (List.range ((time - start) / interval)).map fun k => start + (k + 1) * interval
  alike : ∀ (w' : Workload) (id' : Nat) (moves' : Play), w'.Runs (sweeper id' start interval) →
    w'.Unstopped moves' → w'.Punctual id' start moves' time → (w'.play moves').Waits id' time →
    w'.ticks moves' = w.ticks moves
  young : start + interval ≤ time → ∀ e ∈ (w.play moves).client.cache.entries,
    time - e.2.storedAt < w.client.cache.maxAge + interval

theorem loop_keeps_time {w : Workload} {id start interval : Nat}
    (runs : w.Runs (sweeper id start interval)) (positive : 0 < interval) {moves : Play}
    {time : Nat} (unstopped : w.Unstopped moves) (punctual : w.Punctual id start moves time)
    (waits : (w.play moves).Waits id time) : w.KeepsTime moves start interval time := by
  have onTime {w : Workload} {id : Nat} (runs : w.Runs (sweeper id start interval)) :
      w.OnTime start (sweeper id start interval) :=
    ⟨runs, rfl, Nat.le_add_right _ _, Nat.le_refl _⟩
  have due (id : Nat) : dueTicks (sweeper id start interval) time =
      (List.range ((time - start) / interval)).map fun k => start + (k + 1) * interval := by
    simp only [dueTicks, sweeper, Nat.add_sub_add_right, Nat.succ_mul]
    refine List.map_congr_left fun k _ => ?_
    omega
  have ticks := (onTime runs).ticks_eq positive unstopped punctual waits
  constructor
  case ticks => exact ticks.trans (due id)
  case alike =>
    intro w' id' moves' runs' unstopped' punctual' waits'
    rw [(onTime runs').ticks_eq positive unstopped' punctual' waits', ticks, due, due]
  case young =>
    intro passed
    exact (onTime runs).young positive unstopped punctual waits (.inl passed)

def ticking : Workload := newcomer.step 0 (.perform (.start 1000 true))

def twoTicks : Play :=
  [(300, .event (.perform .requestRefresh)),
   (300, .event (.wake 0)),
   (300, .event (.loopReply 0 (.ok ⟨404, [], []⟩))),
   (400, .event (.perform (.cache (.put ⟨none, .get, "/docs"⟩ "A:1" [])))),
   (1000, .event (.wake 0)),
   (1000, .event (.loopReply 0 (.ok ⟨404, [], []⟩))),
   (2000, .event (.wake 0)),
   (2000, .event (.loopReply 0 (.ok ⟨404, [], []⟩)))]

theorem twoTicks_keepsTime :
    ticking.Runs (sweeper 0 0 1000) ∧ ticking.Unstopped twoTicks ∧
      ticking.Punctual 0 0 twoTicks 2500 ∧ (ticking.play twoTicks).Waits 0 2500 ∧
      ticking.KeepsTime twoTicks 0 1000 2500 := by
  have runs : ticking.Runs (sweeper 0 0 1000) :=
    runs_start rfl (Client.sole_of_unwatched rfl) (by decide) (.refl _) _
  have unstopped : ticking.Unstopped twoTicks := by simp [twoTicks, Unstopped]
  have waits (t : Nat) (early : t < 3000) : (ticking.play twoTicks).Waits 0 t :=
    waits_of_lt rfl rfl rfl rfl early
  have punctual : ticking.Punctual 0 0 twoTicks 2500 := by
    refine ⟨⟨by decide, fun t _ early => waits_of_lt rfl rfl rfl rfl (Nat.lt_trans early ?_)⟩,
      ⟨by decide, by omega⟩, ⟨by decide, by omega⟩,
      ⟨by decide, fun t _ early => waits_of_lt rfl rfl rfl rfl (Nat.lt_trans early ?_)⟩,
      ⟨by decide, fun t _ early => waits_of_lt rfl rfl rfl rfl early⟩,
      ⟨by decide, by omega⟩,
      ⟨by decide, fun t _ early => waits_of_lt rfl rfl rfl rfl early⟩,
      ⟨by decide, by omega⟩,
      by decide, fun t _ early => waits t (by omega)⟩
    · decide
    · decide
  exact ⟨runs, unstopped, punctual, waits 2500 (by decide),
    loop_keeps_time runs (by decide) unstopped punctual (waits 2500 (by decide))⟩

end Workload

end ClusterClient
