import ClusterClient.Config
import ClusterClient.Proofs.Classification
import Mathlib.Tactic.SplitIfs

namespace ClusterClient

namespace Config

theorem fault?_eq_none_iff (c : Config) :
    c.fault? = none ↔ c.urls ≠ [] ∧ (∀ url ∈ c.urls, hasScheme url) ∧
      c.database.any Text.isBlank = false ∧ c.requestTimeout ≠ 0 ∧
      (c.topologyUpdates && c.refreshInterval == 0) = false ∧
      c.statuses.firstReserved? = none := by
  rw [fault?]
  cases unknown : c.urls.find? (!hasScheme ·) with
  | none =>
      have schemes : ∀ url ∈ c.urls, hasScheme url := by simpa using unknown
      split_ifs <;> simp_all
  | some url =>
      have bad := List.find?_some unknown
      have refused : ¬∀ url ∈ c.urls, hasScheme url := fun all => by
        simp [all url (List.mem_of_find?_eq_some unknown)] at bad
      split_ifs <;> simp [refused]

theorem validate_eq_ok_iff {c config : Config} :
    c.validate = .ok config ↔ c.fault? = none ∧ config = c := by
  rw [validate]
  cases c.fault? with
  | none => simp [eq_comm]
  | some fault => simp

theorem fault?_of_unlisted {c : Config} (rest : { c with statuses := ⟨[], []⟩ }.fault? = none) :
    c.fault? = c.statuses.firstReserved?.map (.config <| .reservedStatus ·) := by
  obtain ⟨urls, schemes, database, timeout, interval, -⟩ := (fault?_eq_none_iff _).1 rest
  have known : c.urls.find? (!hasScheme ·) = none := by simpa using schemes
  simp only [ne_eq] at urls timeout interval database
  rw [fault?]
  simp [urls, known, database, timeout, interval]

end Config

namespace StatusPolicy

def Retries (p : StatusPolicy) (d : Descriptor) (r : Http.Response) : Prop :=
  ∃ fault refresh, p.classify d r = .failed (.retry fault refresh)

def IsNeverRetried (status : UInt16) : Prop :=
  ∀ (p : StatusPolicy) (d : Descriptor) (r : Http.Response), r.status = status → ¬p.Retries d r

theorem retries_iff {p : StatusPolicy} {d : Descriptor} {r : Http.Response} :
    p.Retries d r ↔ p.Lists r.status ∧ ¬IsSettled r.status := by
  constructor
  · rintro ⟨fault, refresh, retried⟩
    obtain ⟨unsettled, listed, -⟩ := classify_retry retried
    exact ⟨listed, unsettled⟩
  · rintro ⟨listed, unsettled⟩
    exact ⟨_, _, classify_of_listed unsettled listed d⟩

theorem isNeverRetried_iff {status : UInt16} : IsNeverRetried status ↔ IsSettled status := by
  constructor
  · intro never
    apply Classical.byContradiction
    intro unsettled
    apply never ⟨[status], []⟩ (.new .get "/") ⟨status, [], []⟩ rfl
    exact retries_iff.2 ⟨.inl (List.mem_singleton_self status), unsettled⟩
  · rintro settled p d r rfl retried
    exact (retries_iff.1 retried).2 settled

theorem lists_iff {p : StatusPolicy} {status : UInt16} :
    p.Lists status ↔ status ∈ p.retryable ++ p.refreshing :=
  List.mem_append.symm

theorem firstReserved?_eq_none_iff {p : StatusPolicy} :
    p.firstReserved? = none ↔ ∀ status, p.Lists status → ¬IsNeverRetried status := by
  rw [firstReserved?, List.find?_eq_none]
  simp only [lists_iff, isReserved_iff, isNeverRetried_iff]

theorem firstReserved?_eq_some {p : StatusPolicy} {status : UInt16}
    (reserved : p.firstReserved? = some status) : p.Lists status ∧ IsNeverRetried status :=
  ⟨lists_iff.2 (List.mem_of_find?_eq_some reserved),
    isNeverRetried_iff.2 (isReserved_iff.1 (List.find?_some reserved))⟩

/-- What a policy promises, and which policies a configuration may have. -/
structure RetriesListed (p : StatusPolicy) : Prop where
  retries : ∀ d r, p.Retries d r ↔ (r.status ∈ p.retryable ∨ r.status ∈ p.refreshing) ∧
    ¬(200 ≤ r.status ∧ r.status < 300) ∧ r.status ≠ 304 ∧ r.status ≠ 404 ∧ r.status ≠ 409
  refreshes : ∀ d r fault refresh, p.classify d r = .failed (.retry fault refresh) →
    (refresh = true ↔ r.status ∈ p.refreshing)
  conflicts : ∀ d r, r.status = 409 →
    ∃ expected actual text, p.classify d r = .failed (.terminal (.conflict expected actual text))
  absent : ∀ d r, r.status = 404 → p.classify d r = .notFound
  accepts : ∀ c : Config, c.statuses = p → { c with statuses := ⟨[], []⟩ }.fault? = none →
    (c.validate = .ok c ↔ ∀ status, p.Lists status → ¬IsNeverRetried status)
  refuses : ∀ c : Config, c.statuses = p → { c with statuses := ⟨[], []⟩ }.fault? = none →
    c.validate = .ok c ∨ ∃ status, c.validate = .error (.config (.reservedStatus status)) ∧
      p.Lists status ∧ IsNeverRetried status
  honours : ∀ c c' : Config, c.validate = .ok c' → c'.statuses = p →
    ∀ d r, p.Retries d r ↔ r.status ∈ p.retryable ∨ r.status ∈ p.refreshing

theorem policy_retries_listed (p : StatusPolicy) : p.RetriesListed := by
  constructor
  case retries =>
    intro d r
    rw [retries_iff, IsSettled]
    simp only [not_or, Lists, ne_eq]
  case refreshes =>
    intro d r fault refresh retried
    exact refresh_iff_mem_refreshing retried
  case conflicts =>
    intro d r conflict
    exact ⟨_, _, _, classify_of_conflict p d conflict⟩
  case absent =>
    intro d r absent
    exact classify_of_absent p d absent
  case accepts =>
    rintro c rfl rest
    rw [Config.validate_eq_ok_iff, Config.fault?_of_unlisted rest, Option.map_eq_none_iff,
      firstReserved?_eq_none_iff]
    exact and_iff_left rfl
  case refuses =>
    rintro c rfl rest
    have judged := Config.fault?_of_unlisted rest
    cases reserved : c.statuses.firstReserved? with
    | none =>
        rw [reserved] at judged
        exact .inl (Config.validate_eq_ok_iff.2 ⟨judged, rfl⟩)
    | some status =>
        rw [reserved] at judged
        right
        refine ⟨status, ?_, firstReserved?_eq_some reserved⟩
        rw [Config.validate, judged]
        rfl
  case honours =>
    rintro c c' valid rfl d r
    obtain ⟨sound, rfl⟩ := Config.validate_eq_ok_iff.1 valid
    obtain ⟨-, -, -, -, -, unreserved⟩ := (Config.fault?_eq_none_iff _).1 sound
    have retriable := firstReserved?_eq_none_iff.1 unreserved r.status
    rw [retries_iff, ← isNeverRetried_iff]
    exact and_iff_left_of_imp retriable

end StatusPolicy

end ClusterClient
