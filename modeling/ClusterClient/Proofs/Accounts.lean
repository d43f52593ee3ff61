import ClusterClient.Proofs.Steering
import Mathlib.Algebra.Ring.Nat
import Mathlib.Data.List.Induction

namespace ClusterClient

def Verdict.isAnswered : Verdict → Bool
  | .answered _ => true
  | .failed => false

def told (url : String) (log : List (String × Verdict)) : List Verdict :=
  (log.filter (·.1 = url)).map (·.2)

structure NodeStat.Accounts (s : NodeStat) (verdicts : List Verdict) : Prop where
  successes : s.successes = verdicts.countP (·.isAnswered)
  failures : s.failures = verdicts.count .failed
  isFailing : s.isFailing = true ↔ verdicts.getLast? = some .failed
  averageLatency : s.averageLatency.isSome = true ↔ 0 < s.successes

theorem NodeStat.Accounts.learn {s : NodeStat} {verdicts : List Verdict}
    (accounts : s.Accounts verdicts) (verdict : Verdict) :
    (s.learn verdict).Accounts (verdicts ++ [verdict]) := by
  obtain ⟨successes, failures, isFailing, averageLatency⟩ := accounts
  cases verdict with
  | answered latency =>
      exact ⟨by simp [NodeStat.learn, succeed, successes, Verdict.isAnswered],
        by simp [NodeStat.learn, succeed, failures],
        by simp [NodeStat.learn, succeed], by simp [NodeStat.learn, succeed]⟩
  | failed =>
      exact ⟨by simp [NodeStat.learn, fail, successes, Verdict.isAnswered],
        by simp [NodeStat.learn, fail, failures],
        by simp [NodeStat.learn, fail], by simpa [NodeStat.learn, fail] using averageLatency⟩

theorem NodeStat.accounts_foldl (verdicts : List Verdict) :
    (verdicts.foldl NodeStat.learn {}).Accounts verdicts := by
  induction verdicts using List.reverseRecOn with
  | nil => exact ⟨rfl, rfl, by simp, by simp⟩
  | append_singleton verdicts verdict ih =>
      rw [List.foldl_append]
      exact ih.learn verdict

namespace NodeStats

def Distinct (stats : NodeStats) : Prop := (stats.map (·.1)).Nodup

theorem find?_cons (e : String × NodeStat) (stats : NodeStats) (url : String) :
    find? (e :: stats) url = if e.1 = url then some e.2 else stats.find? url := by
  by_cases same : e.1 = url <;> simp [find?, same]

theorem find?_eq_none {stats : NodeStats} {url : String} (absent : url ∉ stats.map (·.1)) :
    stats.find? url = none := by
  rw [find?, Option.map_eq_none_iff, List.find?_eq_none]
  intro e member same
  exact absent (List.mem_map.2 ⟨e, member, of_decide_eq_true same⟩)

theorem update_cons {e : String × NodeStat} {stats : NodeStats} (distinct : Distinct (e :: stats))
    (url : String) (f : NodeStat → NodeStat) :
    update (e :: stats) url f =
      if e.1 = url then (url, f e.2) :: stats else e :: stats.update url f := by
  rw [Distinct, List.map_cons, List.nodup_cons] at distinct
  by_cases same : e.1 = url
  · subst same
    have others : stats.map (fun e' => if e'.1 = e.1 then (e.1, f e'.2) else e') = stats := by
      conv_rhs => rw [← List.map_id stats]
      refine List.map_congr_left fun e' member => if_neg fun eq => ?_
      exact distinct.1 (List.mem_map.2 ⟨e', member, eq⟩)
    simp [update, find?_cons, others]
  · simp only [update, find?_cons, if_neg same, List.map_cons, List.cons_append]
    split <;> rfl

theorem Distinct.tail {e : String × NodeStat} {stats : NodeStats}
    (distinct : Distinct (e :: stats)) : stats.Distinct := by
  rw [Distinct, List.map_cons, List.nodup_cons] at distinct
  exact distinct.2

theorem mem_keys_update {stats : NodeStats} (distinct : stats.Distinct) {url other : String}
    {f : NodeStat → NodeStat} :
    other ∈ (stats.update url f).map (·.1) ↔ other = url ∨ other ∈ stats.map (·.1) := by
  induction stats with
  | nil => simp [update, find?]
  | cons e stats ih =>
      rw [update_cons distinct]
      split
      · rename_i same
        simp [← same]
      · rw [List.map_cons, List.mem_cons, ih distinct.tail, List.map_cons, List.mem_cons]
        tauto

theorem Distinct.update {stats : NodeStats} (distinct : stats.Distinct) (url : String)
    (f : NodeStat → NodeStat) : (stats.update url f).Distinct := by
  induction stats with
  | nil => simp [NodeStats.update, find?, Distinct]
  | cons e stats ih =>
      have ⟨fresh, _⟩ := List.nodup_cons.1 distinct
      rw [update_cons distinct]
      split
      · rename_i same
        subst same
        exact distinct
      · rename_i other
        refine List.nodup_cons.2 ⟨?_, ih distinct.tail⟩
        show e.1 ∉ List.map (·.1) (NodeStats.update stats url f)
        rw [mem_keys_update distinct.tail]
        exact not_or.2 ⟨other, fresh⟩

theorem get_cons (e : String × NodeStat) (stats : NodeStats) (url : String) :
    get (e :: stats) url = if e.1 = url then e.2 else stats.get url := by
  rw [get, find?_cons]
  split <;> rfl

theorem get_update {stats : NodeStats} (distinct : stats.Distinct) (url other : String)
    (f : NodeStat → NodeStat) :
    (stats.update url f).get other =
      if url = other then f (stats.get url) else stats.get other := by
  induction stats with
  | nil =>
      rw [update, if_neg (by simp [find?]), List.nil_append, get_cons]
      rfl
  | cons e stats ih =>
      have later := ih distinct.tail
      rw [update_cons distinct]
      by_cases same : e.1 = url
      · rw [if_pos same]
        by_cases here : url = other <;> simp [get_cons, same, here]
      · rw [if_neg same, get_cons, later]
        simp only [get_cons, if_neg same]
        by_cases here : e.1 = other
        · have apart : url ≠ other := fun eq => same (here.trans eq.symm)
          simp [here, apart]
        · simp [here]

theorem Distinct.learn {stats : NodeStats} (distinct : stats.Distinct)
    (entry : String × Verdict) : (stats.learn entry).Distinct :=
  distinct.update entry.1 _

theorem Distinct.foldl_learn {stats : NodeStats} (distinct : stats.Distinct)
    (log : List (String × Verdict)) : (log.foldl NodeStats.learn stats).Distinct := by
  induction log generalizing stats with
  | nil => exact distinct
  | cons entry log ih => exact ih (distinct.learn entry)

theorem get_foldl_learn {stats : NodeStats} (distinct : stats.Distinct)
    (log : List (String × Verdict)) (url : String) :
    (log.foldl learn stats).get url = (told url log).foldl NodeStat.learn (stats.get url) := by
  induction log generalizing stats with
  | nil => rfl
  | cons entry log ih =>
      rw [List.foldl_cons, ih (distinct.learn entry), learn, get_update distinct]
      by_cases same : entry.1 = url <;> simp [told, same]

theorem mem_iff_find? {stats : NodeStats} (distinct : stats.Distinct) {url : String}
    {s : NodeStat} : (url, s) ∈ stats ↔ stats.find? url = some s := by
  induction stats with
  | nil => simp [find?]
  | cons e stats ih =>
      obtain ⟨key, value⟩ := e
      have ⟨fresh, _⟩ := List.nodup_cons.1 distinct
      rw [find?_cons, List.mem_cons, ih distinct.tail]
      by_cases same : key = url
      · subst same
        simp [find?_eq_none fresh, eq_comm]
      · have apart : url ≠ key := Ne.symm same
        simp [same, apart]

theorem mem_failures {stats : NodeStats} (distinct : stats.Distinct) {url : String} {n : Nat} :
    (url, n) ∈ stats.failures ↔ 0 < n ∧ n = (stats.get url).failures := by
  simp only [failures, List.mem_map, List.mem_filter, decide_eq_true_eq, Prod.mk.injEq]
  constructor
  · rintro ⟨⟨key, s⟩, ⟨member, positive⟩, rfl, rfl⟩
    rw [mem_iff_find? distinct] at member
    simpa [get, member] using positive
  · rintro ⟨positive, rfl⟩
    cases found : stats.find? url with
    | none => simp [get, found] at positive
    | some s =>
        have member := (mem_iff_find? distinct).2 found
        simp only [get, found, Option.getD_some] at positive ⊢
        exact ⟨(url, s), ⟨member, positive⟩, rfl, rfl⟩

theorem keys_failures {stats : NodeStats} (distinct : stats.Distinct) :
    (stats.failures.map (·.1)).Nodup := by
  rw [failures, List.map_map]
  exact distinct.sublist (List.filter_sublist.map _)

theorem sum_failures (stats : NodeStats) :
    (stats.failures.map (·.2)).sum = (stats.map (·.2.failures)).sum := by
  rw [failures, List.map_map]
  induction stats with
  | nil => rfl
  | cons e stats ih =>
      by_cases positive : 0 < e.2.failures
      · rw [List.filter_cons_of_pos (by simpa using positive), List.map_cons, List.sum_cons, ih]
        rfl
      · have zero : e.2.failures = 0 := by omega
        rw [List.filter_cons_of_neg (by simpa using positive), ih, List.map_cons, List.sum_cons,
          zero, Nat.zero_add]

theorem sum_learn {stats : NodeStats} (distinct : stats.Distinct) (entry : String × Verdict) :
    ((stats.learn entry).map (·.2.failures)).sum =
      (stats.map (·.2.failures)).sum + (entry.2 == .failed).toNat := by
  have one (s : NodeStat) :
      (s.learn entry.2).failures = s.failures + (entry.2 == .failed).toNat := by
    cases entry.2 <;> rfl
  rw [learn]
  induction stats with
  | nil => simp [update, find?, one]
  | cons e stats ih =>
      rw [update_cons distinct]
      split
      · simp only [List.map_cons, List.sum_cons, one]
        omega
      · simp only [List.map_cons, List.sum_cons, ih distinct.tail]
        omega

theorem sum_foldl_learn {stats : NodeStats} (distinct : stats.Distinct)
    (log : List (String × Verdict)) :
    ((log.foldl learn stats).map (·.2.failures)).sum =
      (stats.map (·.2.failures)).sum + log.countP (·.2 == .failed) := by
  induction log generalizing stats with
  | nil => rfl
  | cons entry log ih =>
      rw [List.foldl_cons, ih (distinct.learn entry), sum_learn distinct, List.countP_cons]
      cases entry.2 == .failed with
      | true =>
          simp only [Bool.toNat_true, if_true]
          omega
      | false => rfl

/-- Whether the statistics are those of the attempts of a log. -/
structure Accounts (stats : NodeStats) (log : List (String × Verdict)) : Prop where
  node (url : String) : (stats.get url).Accounts (told url log)
  mem_failures {url : String} {n : Nat} :
    (url, n) ∈ stats.failures ↔ 0 < n ∧ n = log.count (url, .failed)
  failures_nodup : (stats.failures.map (·.1)).Nodup
  sum_failures : (stats.failures.map (·.2)).sum = log.countP (·.2 == .failed)

theorem count_told (url : String) (verdict : Verdict) (log : List (String × Verdict)) :
    (told url log).count verdict = log.count (url, verdict) := by
  induction log with
  | nil => rfl
  | cons entry log ih =>
      obtain ⟨key, shown⟩ := entry
      rw [told] at ih ⊢
      by_cases same : key = url
      · simp [same, ih, List.count_cons]
      · simp [same, ih]

theorem accounts_foldl_learn (log : List (String × Verdict)) :
    Accounts (log.foldl learn []) log := by
  have nothing : Distinct [] := List.nodup_nil
  have distinct := nothing.foldl_learn log
  have node (url : String) : ((log.foldl learn []).get url).Accounts (told url log) := by
    rw [get_foldl_learn nothing]
    exact NodeStat.accounts_foldl _
  refine ⟨node, ?_, keys_failures distinct, ?_⟩
  · intro url n
    rw [NodeStats.mem_failures distinct, (node url).failures, count_told]
  · rw [NodeStats.sum_failures, sum_foldl_learn nothing]
    simp

end NodeStats

namespace Workload

def log (w : Workload) : Run → List (String × Verdict)
  | [] => []
  | event :: rest => w.verdicts event.1 event.2 ++ (w.step event.1 event.2).log rest

theorem stats_run {w : Workload} {events : Run}
    (plain : ∀ event ∈ events, event.2.isStat = false) :
    (w.run events).client.selector.stats =
      (w.log events).foldl NodeStats.learn w.client.selector.stats := by
  induction events generalizing w with
  | nil => rfl
  | cons event rest ih =>
      have first := w.stats_step event.1 (plain event List.mem_cons_self)
      have later := ih (w := w.step event.1 event.2) fun e member =>
        plain e (List.mem_cons_of_mem _ member)
      rw [log, List.foldl_append, ← first]
      exact later

theorem statistics_account_for_attempts (w : Workload) (events : Run)
    (fresh : w.client.selector.stats = [])
    (plain : ∀ event ∈ events, event.2.isStat = false) :
    (w.run events).client.selector.stats.Accounts (w.log events) ∧
      ∀ now i request a response, (w.run events).attempt? i = some (request, a) →
        (response.status = 404 ∨ ∃ fault,
          w.client.settings.statuses.classify a.call.descriptor response =
            .failed (.terminal fault)) →
        ((w.run events).step now (.reply i (.ok response))).client.selector.stats =
          (w.run events).client.selector.stats := by
  constructor
  · rw [stats_run plain, fresh]
    exact NodeStats.accounts_foldl_learn _
  · intro now i request a response sent silent
    have nothing : (w.run events).verdicts now (.reply i (.ok response)) = [] := by
      simp only [verdicts, sent, Client.verdict?_ok, settings_run]
      rcases silent with absent | ⟨fault, terminal⟩
      · rw [classify_of_absent _ _ absent]
        rfl
      · simp [terminal]
    rw [stats_step _ now rfl, nothing]
    rfl

def mixed : Run :=
  [(0, .call (.new .get "/docs") (some 7)), (1, .reply 0 (.error .timeout)),
   (2, .reply 0 (.ok ⟨503, [], []⟩)), (3, .reply 0 (.ok ⟨200, [], []⟩)),
   (4, .call (.new .get "/docs") (some 8))]

theorem trio_accounts_for_mixed :
    trio.client.selector.stats = [] ∧ (∀ event ∈ mixed, event.2.isStat = false) ∧
      (trio.run mixed).client.selector.stats.Accounts
        [("http://a", .failed), ("http://b", .failed), ("http://c", .answered 1000000)] ∧
      ((trio.run mixed).step 6 (.reply 1 (.ok ⟨404, [], []⟩))).client.selector.stats =
        (trio.run mixed).client.selector.stats := by
  have plain : ∀ event ∈ mixed, event.2.isStat = false := by decide
  have log : trio.log mixed =
      [("http://a", .failed), ("http://b", .failed), ("http://c", .answered 1000000)] := by
    decide +kernel
  have ⟨accounts, silent⟩ := statistics_account_for_attempts trio mixed rfl plain
  rw [log] at accounts
  exact ⟨rfl, plain, accounts, silent 6 1 _ _ _ rfl (.inl rfl)⟩

end Workload

end ClusterClient
