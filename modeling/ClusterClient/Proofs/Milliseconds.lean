import ClusterClient.Config.Builder
import ClusterClient.Proofs.Validation

namespace ClusterClient

inductive Span
  | requestTimeout
  | refreshInterval
  | cacheMaxAge

def Span.setting (d : Duration) : Span → Setting
  | requestTimeout => .requestTimeout d
  | refreshInterval => .refreshInterval d
  | cacheMaxAge => .cacheMaxAge d

namespace Config

def word (c : Config) : Span → UInt64
  | .requestTimeout => c.requestTimeout
  | .refreshInterval => c.refreshInterval
  | .cacheMaxAge => c.cacheMaxAge

def withWord (c : Config) (millis : UInt64) : Span → Config
  | .requestTimeout => { c with requestTimeout := millis }
  | .refreshInterval => { c with refreshInterval := millis }
  | .cacheMaxAge => { c with cacheMaxAge := millis }

def span (c : Config) (s : Span) : Duration := .ofMillis (c.word s)

def zeroFault? (c : Config) : Span → Option Fault
  | .requestTimeout => some (.config .zeroTimeout)
  | .refreshInterval => if c.topologyUpdates then some (.config .zeroInterval) else none
  | .cacheMaxAge => none

@[simp] theorem word_withWord (c : Config) (millis : UInt64) (s : Span) :
    (c.withWord millis s).word s = millis := by
  cases s <;> rfl

@[simp] theorem withWord_withWord (c : Config) (millis millis' : UInt64) (s : Span) :
    (c.withWord millis s).withWord millis' s = c.withWord millis' s := by
  cases s <;> rfl

theorem set_setting (c : Config) (s : Span) (d : Duration) :
    c.set (s.setting d) = c.withWord d.millisWord s := by
  cases s <;> rfl

theorem set_withWord {s : Span} {setting : Setting} (other : ∀ d, s.setting d ≠ setting)
    (c : Config) (millis : UInt64) :
    (c.withWord millis s).set setting = (c.set setting).withWord millis s := by
  cases s with
  | requestTimeout =>
      cases setting with
      | requestTimeout d => exact absurd rfl (other d)
      | _ => rfl
  | refreshInterval =>
      cases setting with
      | refreshInterval d => exact absurd rfl (other d)
      | _ => rfl
  | cacheMaxAge =>
      cases setting with
      | cacheMaxAge d => exact absurd rfl (other d)
      | _ => rfl

theorem foldl_set_withWord {s : Span} {settings : List Setting}
    (others : ∀ d, s.setting d ∉ settings) (c : Config) (millis : UInt64) :
    settings.foldl set (c.withWord millis s) = (settings.foldl set c).withWord millis s := by
  induction settings generalizing c with
  | nil => rfl
  | cons setting rest ih =>
      have other (d : Duration) : s.setting d ≠ setting := fun same =>
        others d (same ▸ List.mem_cons_self)
      rw [List.foldl_cons, List.foldl_cons, set_withWord other]
      exact ih (fun d member => others d (List.mem_cons_of_mem _ member)) _

variable {s : Span} {before after : List Setting}

theorem foldl_set_last (last : ∀ d, s.setting d ∉ after) (d : Duration) :
    (before ++ s.setting d :: after).foldl set {} =
      ((before ++ after).foldl set {}).withWord d.millisWord s := by
  rw [List.foldl_append, List.foldl_cons, set_setting, foldl_set_withWord last, List.foldl_append]

theorem build_eq_ok_iff {settings : List Setting} {c : Config} :
    build settings = .ok c ↔ (settings.foldl set {}).fault? = none ∧ c = settings.foldl set {} :=
  validate_eq_ok_iff

theorem fault?_withWord {c : Config} (faultless : c.fault? = none) (millis : UInt64) (s : Span) :
    (c.withWord millis s).fault? = if millis = 0 then c.zeroFault? s else none := by
  obtain ⟨urls, schemes, database, timeout, interval, statuses⟩ :=
    (fault?_eq_none_iff c).1 faultless
  have known : c.urls.find? (!hasScheme ·) = none := by simpa using schemes
  cases s with
  | requestTimeout => simp [fault?, withWord, zeroFault?, urls, known, database, interval, statuses]
  | refreshInterval =>
      by_cases zero : millis = 0
      · simp [fault?, withWord, zeroFault?, urls, known, database, timeout, statuses, zero]
      · simp [fault?, withWord, urls, known, database, timeout, statuses, zero]
  | cacheMaxAge =>
      simp [fault?, withWord, zeroFault?, urls, known, database, timeout, interval, statuses]

/-- What holds of a configuration and the last duration that it was given for a span, where the
settings before and after that one are these. -/
structure KeepsModuloWord (c : Config) (s : Span) (d : Duration) (before after : List Setting) :
    Prop where
  value : (c.span s).totalNanos = d.totalMillis % UInt64.size * 1000000
  rounded_iff : (c.span s).totalNanos = min d.totalMillis (UInt64.size - 1) * 1000000 ↔
    d.totalMillis < UInt64.size ∨ UInt64.size ∣ d.totalMillis + 1
  shortened : (c.span s).totalNanos ≤ d.totalNanos
  mono : ∀ before' after' d' c', (∀ d, s.setting d ∉ after') →
    build (before' ++ s.setting d' :: after') = .ok c' → d'.totalNanos ≤ d.totalNanos →
    d'.totalMillis / UInt64.size = d.totalMillis / UInt64.size →
    (c'.span s).totalNanos ≤ (c.span s).totalNanos
  zero_iff : c.word s = 0 ↔ UInt64.size ∣ d.totalMillis
  built : ∀ d', (UInt64.size ∣ d'.totalMillis → c.zeroFault? s = none) →
    build (before ++ s.setting d' :: after) = .ok (c.withWord d'.millisWord s)
  refused : ∀ d' fault, UInt64.size ∣ d'.totalMillis → c.zeroFault? s = some fault →
    build (before ++ s.setting d' :: after) = .error fault

theorem span_built {d : Duration} {c : Config} (last : ∀ d, s.setting d ∉ after)
    (built : build (before ++ s.setting d :: after) = .ok c) :
    (c.span s).totalNanos = d.totalMillis % UInt64.size * 1000000 := by
  obtain ⟨-, rfl⟩ := build_eq_ok_iff.1 built
  rw [foldl_set_last last, span, word_withWord, Duration.totalNanos_ofMillis,
    Duration.toNat_millisWord]

theorem build_other {d : Duration} {c : Config} (last : ∀ d, s.setting d ∉ after)
    (built : build (before ++ s.setting d :: after) = .ok c) (d' : Duration) :
    build (before ++ s.setting d' :: after) = (c.withWord d'.millisWord s).validate ∧
      (c.withWord d'.millisWord s).fault? =
        if UInt64.size ∣ d'.totalMillis then c.zeroFault? s else none := by
  obtain ⟨faultless, assembled⟩ := build_eq_ok_iff.1 built
  rw [← assembled] at faultless
  rw [foldl_set_last last] at assembled
  constructor
  · rw [build, foldl_set_last last, assembled, withWord_withWord]
  · simp only [fault?_withWord faultless, Duration.millisWord_eq_zero_iff]

theorem durations_survive_modulo_word {c : Config} {d : Duration}
    (last : ∀ d, s.setting d ∉ after) (built : build (before ++ s.setting d :: after) = .ok c) :
    c.KeepsModuloWord s d before after := by
  have value := span_built last built
  have down : d.totalMillis = d.totalNanos / 1000000 := rfl
  constructor
  case value => exact value
  case rounded_iff =>
    rw [value, UInt64.size]
    omega
  case shortened =>
    rw [value, UInt64.size]
    omega
  case mono =>
    intro before' after' d' c' last' built' le block
    have le : d'.totalMillis ≤ d.totalMillis := Nat.div_le_div_right le
    rw [UInt64.size] at block
    rw [value, span_built last' built', UInt64.size]
    omega
  case zero_iff =>
    obtain ⟨-, rfl⟩ := build_eq_ok_iff.1 built
    rw [foldl_set_last last, word_withWord, Duration.millisWord_eq_zero_iff]
  case built =>
    intro d' harmless
    obtain ⟨other, judged⟩ := build_other last built d'
    rw [other, validate_eq_ok_iff, judged]
    exact ⟨by simpa using harmless, rfl⟩
  case refused =>
    intro d' fault zero refusal
    obtain ⟨other, judged⟩ := build_other last built d'
    rw [other, validate, judged, if_pos zero, refusal]

theorem timeout_keepsModuloWord :
    let c : Config := { urls := ["http://a:8080"], requestTimeout := 384, cacheEnabled := false }
    (∀ d, Span.requestTimeout.setting d ∉ [.cacheEnabled false]) ∧
      build [.url "http://a:8080", .requestTimeout ⟨18446744073709552, 0⟩, .cacheEnabled false] =
        .ok c ∧
      c.KeepsModuloWord .requestTimeout ⟨18446744073709552, 0⟩ [.url "http://a:8080"]
        [.cacheEnabled false] := by
  intro c
  have last (d : Duration) : Span.requestTimeout.setting d ∉ [.cacheEnabled false] := by
    simp [Span.setting]
  exact ⟨last, rfl, durations_survive_modulo_word last rfl⟩

theorem long_spans_come_back_short :
    let long : Duration := ⟨18446744073709552, 0⟩
    let least : Duration := ⟨18446744073709551, 616000000⟩
    (∃ c, build [.url "http://a:8080", .requestTimeout long] = .ok c ∧
      (c.span .requestTimeout).totalNanos = 384 * 1000000 ∧
      (c.span .requestTimeout).totalNanos ≠ min long.totalMillis (UInt64.size - 1) * 1000000) ∧
    build [.url "http://a:8080", .requestTimeout least] = .error (.config .zeroTimeout) ∧
    ∃ c, build [.url "http://a:8080", .cacheMaxAge least] = .ok c ∧
      (c.span .cacheMaxAge).totalNanos = 0 := by
  refine ⟨⟨_, rfl, ?_, ?_⟩, rfl, _, rfl, ?_⟩
  · decide +kernel
  · decide +kernel
  · decide +kernel

end Config

end ClusterClient
