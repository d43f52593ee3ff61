import ClusterClient.Script
import Mathlib.Data.List.DropRight
import Mathlib.Data.List.Induction
import Mathlib.Order.Bounds.Defs

namespace ClusterClient

def Rule.Fits (r : Rule) (request : Http.Request) : Prop :=
  (∀ m, r.method = some m → m = request.method) ∧ r.pattern.matchesUrl request.url

theorem Rule.answers_iff {r : Rule} {request : Http.Request} :
    r.answers request ↔ r.Fits request ∧ ∀ n, r.limit = some n → r.used < n := by
  simp only [answers, Fits, Bool.and_eq_true, Option.all_eq_true, beq_iff_eq, decide_eq_true_eq]
  exact and_right_comm

namespace Script

inductive Move
  | send (request : Http.Request)
  | push (rule : Rule) (unused : rule.used = 0)
  | clear

namespace Move

def request? : Move → Option Http.Request
  | send request => some request
  | _ => none

def rule? : Move → Option Rule
  | push rule _ => some rule
  | _ => none

def isClear : Move → Bool
  | clear => true
  | _ => false

end Move

def step (s : Script) : Move → Script
  | .send request => (s.send request).1
  | .push rule _ => s.push rule
  | .clear => s.clear

def play (s : Script) (moves : List Move) : Script := moves.foldl step s

def sent (moves : List Move) : List Http.Request := moves.filterMap Move.request?

def pushed (moves : List Move) : List Rule := moves.filterMap Move.rule?

variable {rules : List Rule} {log : List (Option Nat)} {request : Http.Request}

def IsReady (rules : List Rule) (log : List (Option Nat)) (request : Http.Request) (i : Nat) :
    Prop :=
  ∃ r, rules[i]? = some r ∧ r.Fits request ∧ ∀ n, r.limit = some n → log.count (some i) < n

/-- Which rule is to answer a request, with the reply and the delay that come of it. -/
inductive Answers (rules : List Rule) (log : List (Option Nat)) (request : Http.Request) :
    Option Nat → Http.Reply × Nat → Prop
  | rule {i : Nat} {r : Rule} (first : IsLeast {i | IsReady rules log request i} i)
      (here : rules[i]? = some r) : Answers rules log request (some i) (r.reply, r.latency)
  | nobody (none_ready : ∀ i, ¬ IsReady rules log request i) :
      Answers rules log request none
        (.error (.unscripted request.method.name request.url), 0)

/-! ## One request -/

def counted (rules : List Rule) (log : List (Option Nat)) : List Rule :=
  rules.mapIdx fun i r => { r with used := log.count (some i) }

theorem getElem?_counted (i : Nat) :
    (counted rules log)[i]? =
      rules[i]?.map fun r => { r with used := log.count (some i) } := List.getElem?_mapIdx

theorem isReady_iff {i : Nat} :
    IsReady rules log request i ↔ ∃ r, (counted rules log)[i]? = some r ∧ r.answers request := by
  simp only [IsReady, getElem?_counted, Option.map_eq_some_iff, Rule.answers_iff]
  constructor
  · rintro ⟨r, here, fits, left⟩
    exact ⟨_, ⟨r, here, rfl⟩, fits, left⟩
  · rintro ⟨_, ⟨r, here, rfl⟩, fits, left⟩
    exact ⟨r, here, fits, left⟩

theorem counted_none : counted rules (log ++ [none]) = counted rules log := by
  simp [counted]

theorem counted_some {i : Nat} :
    counted rules (log ++ [some i]) =
      (counted rules log).modify i fun r => { r with used := r.used + 1 } := by
  apply List.ext_getElem?
  intro j
  rw [List.getElem?_modify, getElem?_counted, getElem?_counted, List.count_append]
  by_cases same : i = j
  · subst same
    cases rules[i]? <;> simp
  · cases rules[j]? <;> simp [same]

theorem take_eq (request : Http.Request) (rules : List Rule) :
    take request rules =
      (rules.findIdx? (·.answers request)).bind fun i =>
        rules[i]?.map fun r => (r, rules.modify i fun r => { r with used := r.used + 1 }) := by
  induction rules with
  | nil => rfl
  | cons r rest ih =>
      rw [take, List.findIdx?_cons]
      cases answers : r.answers request with
      | true => rfl
      | false =>
          rw [ih]
          cases rest.findIdx? (·.answers request) with
          | none => rfl
          | some i => cases here : rest[i]? <;> simp [here]

theorem send_requests (s : Script) (request : Http.Request) :
    (s.send request).1.requests = s.requests ++ [request] := by
  rw [send]
  cases take request s.rules <;> rfl

theorem send_congr {s s' : Script} (same : s.rules = s'.rules) (request : Http.Request) :
    (s.send request).2 = (s'.send request).2 ∧
      (s.send request).1.rules = (s'.send request).1.rules := by
  rw [send, send, same]
  cases take request s'.rules <;> exact ⟨rfl, rfl⟩

theorem send_counted {s : Script} (tallied : s.rules = counted rules log)
    (request : Http.Request) :
    ∃ entry, Answers rules log request entry (s.send request).2 ∧
      (s.send request).1.rules = counted rules (log ++ [entry]) := by
  rw [send, take_eq, tallied]
  cases found : (counted rules log).findIdx? (·.answers request) with
  | none =>
      refine ⟨none, .nobody ?_, counted_none.symm⟩
      intro i ready
      obtain ⟨r, here, answers⟩ := isReady_iff.1 ready
      have refuses := List.findIdx?_eq_none_iff.1 found r (List.mem_of_getElem? here)
      rw [answers] at refuses
      cases refuses
  | some i =>
      obtain ⟨inside, answers, earlier⟩ := List.findIdx?_eq_some_iff_getElem.1 found
      have counted_here := List.getElem?_eq_getElem inside
      have least : IsLeast {i | IsReady rules log request i} i := by
        refine ⟨isReady_iff.2 ⟨_, counted_here, answers⟩, ?_⟩
        intro j ready
        obtain ⟨r, there, answers'⟩ := isReady_iff.1 ready
        by_contra before
        obtain ⟨_, rfl⟩ := List.getElem?_eq_some_iff.1 there
        exact earlier j (Nat.lt_of_not_le before) answers'
      obtain ⟨r, here, -⟩ := least.1
      rw [Option.bind_some, getElem?_counted, here]
      exact ⟨some i, .rule (r := r) least here, counted_some.symm⟩

/-! ## Whole runs -/

inductive Logs : List Move → List (Option Nat) → Prop
  | nil : Logs [] []
  | send {moves : List Move} {log : List (Option Nat)} {request : Http.Request}
      {entry : Option Nat} (logs : Logs moves log)
      (answers : Answers (pushed moves) log request entry ((play {} moves).send request).2) :
      Logs (moves ++ [.send request]) (log ++ [entry])
  | push {moves : List Move} {log : List (Option Nat)} {rule : Rule} {unused : rule.used = 0}
      (logs : Logs moves log) : Logs (moves ++ [.push rule unused]) log
  | clear {moves : List Move} {log : List (Option Nat)} (logs : Logs moves log) :
      Logs (moves ++ [.clear]) log

variable {moves : List Move}

theorem play_concat (s : Script) (moves : List Move) (move : Move) :
    s.play (moves ++ [move]) = (s.play moves).step move := List.foldl_concat ..

@[simp] theorem pushed_send : pushed (moves ++ [.send request]) = pushed moves := by
  simp [pushed, Move.rule?]

@[simp] theorem pushed_clear : pushed (moves ++ [.clear]) = pushed moves := by
  simp [pushed, Move.rule?]

@[simp] theorem pushed_push {rule : Rule} {unused : rule.used = 0} :
    pushed (moves ++ [.push rule unused]) = pushed moves ++ [rule] := by
  simp [pushed, Move.rule?]

theorem Answers.lt {i : Nat} {answer : Http.Reply × Nat}
    (answers : Answers rules log request (some i) answer) : i < rules.length := by
  cases answers with
  | rule _ here => exact (List.getElem?_eq_some_iff.1 here).1

theorem Answers.count_le {entry : Option Nat} {answer : Http.Reply × Nat}
    (answers : Answers rules log request entry answer) {i n : Nat} {r : Rule}
    (here : rules[i]? = some r) (limited : r.limit = some n) (within : log.count (some i) ≤ n) :
    (log ++ [entry]).count (some i) ≤ n := by
  rw [List.count_append]
  cases answers with
  | nobody => simpa using within
  | @rule j _ first =>
      by_cases same : j = i
      · subst same
        obtain ⟨r', here', -, left⟩ := first.1
        obtain rfl := Option.some.inj (here.symm.trans here')
        simpa using Nat.succ_le_of_lt (left n limited)
      · simpa [same] using within

theorem Answers.unscripted_iff {entry : Option Nat} {answer : Http.Reply × Nat}
    (answers : Answers rules log request entry answer)
    (own : ∀ r ∈ rules, r.reply ≠ .error (.unscripted request.method.name request.url)) :
    answer.1 = .error (.unscripted request.method.name request.url) ↔
      ∀ i, ¬ IsReady rules log request i := by
  cases answers with
  | @rule i r first here =>
      constructor
      · intro unscripted
        exact absurd unscripted (own r (List.mem_of_getElem? here))
      · intro none_ready
        exact absurd first.1 (none_ready i)
  | nobody none_ready => exact ⟨fun _ => none_ready, fun _ => rfl⟩

theorem Logs.lt (logs : Logs moves log) {i : Nat} (member : some i ∈ log) :
    i < (pushed moves).length := by
  induction logs with
  | nil => cases member
  | send logs answers ih =>
      rw [pushed_send]
      rcases List.mem_append.1 member with old | new
      · exact ih old
      · obtain rfl := List.mem_singleton.1 new
        exact answers.lt
  | push logs ih =>
      rw [pushed_push, List.length_append]
      exact Nat.lt_add_right _ (ih member)
  | clear logs ih =>
      rw [pushed_clear]
      exact ih member

theorem exists_logs (moves : List Move) :
    ∃ log, Logs moves log ∧ (play {} moves).rules = counted (pushed moves) log := by
  induction moves using List.reverseRecOn with
  | nil => exact ⟨[], .nil, rfl⟩
  | append_singleton moves move ih =>
      obtain ⟨log, logs, tallied⟩ := ih
      rw [play_concat]
      cases move with
      | send request =>
          obtain ⟨entry, answers, tallied'⟩ := send_counted tallied request
          refine ⟨log ++ [entry], .send logs answers, ?_⟩
          rwa [pushed_send]
      | push rule unused =>
          refine ⟨log, .push logs, ?_⟩
          have unlogged : log.count (some (pushed moves).length) = 0 :=
            List.count_eq_zero.2 fun member => Nat.lt_irrefl _ (logs.lt member)
          rw [pushed_push, step, Script.push, tallied, counted, counted, List.mapIdx_append,
            List.mapIdx_singleton, Nat.zero_add, unlogged, ← unused]
      | clear =>
          refine ⟨log, .clear logs, ?_⟩
          rw [pushed_clear]
          exact tallied

theorem Logs.count_le (logs : Logs moves log) {i n : Nat} {r : Rule}
    (here : (pushed moves)[i]? = some r) (limited : r.limit = some n) :
    log.count (some i) ≤ n := by
  induction logs with
  | nil => cases here
  | send logs answers ih =>
      rw [pushed_send] at here
      exact answers.count_le here limited (ih here)
  | @push moves log rule _ logs ih =>
      rw [pushed_push] at here
      by_cases member : some i ∈ log
      · rw [List.getElem?_append_left (logs.lt member)] at here
        exact ih here
      · rw [List.count_eq_zero.2 member]
        exact Nat.zero_le n
  | clear logs ih => exact ih (pushed_clear ▸ here)

theorem Logs.isLeast_iff (logs : Logs moves log) {i : Nat} :
    IsLeast {i | IsReady (pushed moves) log request i} i ↔
      IsReady (pushed moves) log request i ∧
        ∀ j < i, ∀ r, (pushed moves)[j]? = some r → r.Fits request →
          r.limit = some (log.count (some j)) := by
  constructor
  · rintro ⟨ready, least⟩
    refine ⟨ready, ?_⟩
    intro j before r here fits
    have spent : ¬ ∀ n, r.limit = some n → log.count (some j) < n := fun left =>
      Nat.not_le.2 before (least ⟨r, here, fits, left⟩)
    push Not at spent
    obtain ⟨n, limited, reached⟩ := spent
    rw [limited, Nat.le_antisymm reached (logs.count_le here limited)]
  · rintro ⟨ready, spent⟩
    refine ⟨ready, ?_⟩
    rintro j ⟨r, here, fits, left⟩
    by_contra before
    have limited := spent j (Nat.lt_of_not_le before) r here fits
    exact Nat.lt_irrefl _ (left _ limited)

theorem requests_play (moves : List Move) :
    (play {} moves).requests = sent (moves.rtakeWhile fun move => !move.isClear) := by
  induction moves using List.reverseRecOn with
  | nil => rfl
  | append_singleton moves move ih =>
      rw [play_concat, List.rtakeWhile_concat]
      cases move with
      | send request =>
          rw [step, send_requests, ih]
          simp [sent, Move.isClear, Move.request?]
      | push rule unused =>
          rw [step, Script.push, ih]
          simp [sent, Move.isClear, Move.request?]
      | clear => rfl

theorem rules_play_congr {s s' : Script} (same : s.rules = s'.rules) (moves : List Move) :
    (s.play moves).rules = (s'.play moves).rules := by
  induction moves generalizing s s' with
  | nil => exact same
  | cons move rest ih =>
      apply ih
      cases move with
      | send request => exact (send_congr same request).2
      | push rule unused => exact congrArg (· ++ [rule]) same
      | clear => exact same

theorem send_play_clear (before after : List Move) (request : Http.Request) :
    ((play {} (before ++ .clear :: after)).send request).2 =
      ((play {} (before ++ after)).send request).2 := by
  apply And.left
  apply send_congr
  rw [play, play, List.foldl_append, List.foldl_append, List.foldl_cons]
  have same : ((play {} before).step .clear).rules = (play {} before).rules := rfl
  exact rules_play_congr same after

/-! ## What a run keeps to -/

/-- What a script keeps to that was empty before these moves, whatever is sent next. A rule may be
scripted to fail like a request that no rule is for, so that only without such rules the failure
tells that none was ready. -/
structure Keeps (moves : List Move) (log : List (Option Nat)) : Prop where
  logs : Logs moves log
  answers (request : Http.Request) :
    ∃ entry, Answers (pushed moves) log request entry ((play {} moves).send request).2
  unscripted_iff (request : Http.Request)
    (own : ∀ r ∈ pushed moves, r.reply ≠ .error (.unscripted request.method.name request.url)) :
    ((play {} moves).send request).2.1 = .error (.unscripted request.method.name request.url) ↔
      ∀ i, ¬ IsReady (pushed moves) log request i
  limited {i n : Nat} {r : Rule} (here : (pushed moves)[i]? = some r) (limit : r.limit = some n) :
    log.count (some i) ≤ n
  takes_over (request : Http.Request) (i : Nat) :
    IsLeast {i | IsReady (pushed moves) log request i} i ↔
      IsReady (pushed moves) log request i ∧
        ∀ j < i, ∀ r, (pushed moves)[j]? = some r → r.Fits request →
          r.limit = some (log.count (some j))
  cleared (after : List Move) (request : Http.Request) :
    ((play {} (moves ++ .clear :: after)).send request).2 =
      ((play {} (moves ++ after)).send request).2
  recorded : (play {} moves).requests = sent (moves.rtakeWhile fun move => !move.isClear)

theorem every_run_is_answered_in_order (moves : List Move) : ∃ log, Keeps moves log := by
  obtain ⟨log, logs, tallied⟩ := exists_logs moves
  have answered (request : Http.Request) :
      ∃ entry, Answers (pushed moves) log request entry ((play {} moves).send request).2 := by
    obtain ⟨entry, answers, -⟩ := send_counted tallied request
    exact ⟨entry, answers⟩
  refine ⟨log, logs, answered, ?_, logs.count_le, fun _ _ => logs.isLeast_iff,
    send_play_clear moves, requests_play moves⟩
  intro request own
  obtain ⟨entry, answers⟩ := answered request
  exact answers.unscripted_iff own

example :
    let refusing : Rule := { pattern := .any, limit := some 1, reply := .error .refused }
    let serving : Rule := { pattern := .any, reply := .ok (.json 200 .null) }
    let request : Http.Request := ⟨.get, "http://a:8080/docs", [], none⟩
    let moves : List Move := [.push refusing rfl, .push serving rfl]
    ((play {} moves).send request).2.1 = .error .refused ∧
      ((play {} (moves ++ [.send request, .clear])).send request).2.1 =
        .ok (.json 200 .null) :=
  ⟨rfl, rfl⟩

end Script

end ClusterClient
