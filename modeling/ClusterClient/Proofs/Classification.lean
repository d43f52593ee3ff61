import ClusterClient.Disposition

namespace ClusterClient

namespace StatusPolicy

def IsSettled (status : UInt16) : Prop :=
  (200 ≤ status ∧ status < 300) ∨ status = 304 ∨ status = 404 ∨ status = 409

def Lists (p : StatusPolicy) (status : UInt16) : Prop :=
  status ∈ p.retryable ∨ status ∈ p.refreshing

inductive Judges (p : StatusPolicy) (d : Descriptor) (r : Http.Response) : Disposition → Prop
  | used (good : (200 ≤ r.status ∧ r.status < 300) ∨ r.status = 304) : Judges p d r .success
  | absent (status : r.status = 404) : Judges p d r .notFound
  | conflicting (status : r.status = 409) : Judges p d r (.failed (.terminal (r.conflict d)))
  | retried (unsettled : ¬IsSettled r.status) (listed : p.Lists r.status) :
      Judges p d r (.failed (.retry r.unclassified (decide (r.status ∈ p.refreshing))))
  | rejected (unsettled : ¬IsSettled r.status) (unlisted : ¬p.Lists r.status)
      (refusal : 400 ≤ r.status ∧ r.status < 500) :
      Judges p d r (.failed (.terminal (.rejected r.status r.errorText)))
  | broken (unsettled : ¬IsSettled r.status) (unlisted : ¬p.Lists r.status)
      (other : ¬(400 ≤ r.status ∧ r.status < 500)) :
      Judges p d r (.failed (.terminal r.unclassified))

theorem isReserved_iff {status : UInt16} : isReserved status = true ↔ IsSettled status := by
  simp [isReserved, IsSettled, or_assoc]

theorem good_iff {r : Http.Response} : (r.isSuccess || r.isNotModified) = true ↔
    (200 ≤ r.status ∧ r.status < 300) ∨ r.status = 304 := by
  simp [Http.Response.isSuccess, Http.Response.isNotModified]

theorem classify_judges (p : StatusPolicy) (d : Descriptor) (r : Http.Response) :
    p.Judges d r (p.classify d r) := by
  unfold classify
  by_cases good : (r.isSuccess || r.isNotModified) = true
  · rw [if_pos good]
    exact .used (good_iff.1 good)
  · rw [if_neg good]
    by_cases absent : r.status = 404
    · rw [if_pos absent]
      exact .absent absent
    · rw [if_neg absent]
      by_cases conflicting : r.status = 409
      · rw [if_pos conflicting]
        exact .conflicting conflicting
      · rw [if_neg conflicting]
        have unsettled : ¬IsSettled r.status := by
          rintro (success | confirmed | missing | conflict)
          · exact good (good_iff.2 (.inl success))
          · exact good (good_iff.2 (.inr confirmed))
          · exact absent missing
          · exact conflicting conflict
        by_cases refreshing : r.status ∈ p.refreshing
        · rw [if_pos refreshing]
          have retried : p.Judges d r _ := .retried unsettled (.inr refreshing)
          rwa [decide_eq_true refreshing] at retried
        · rw [if_neg refreshing]
          by_cases retryable : r.status ∈ p.retryable
          · rw [if_pos retryable]
            have retried : p.Judges d r _ := .retried unsettled (.inl retryable)
            rwa [decide_eq_false refreshing] at retried
          · rw [if_neg retryable]
            have unlisted : ¬p.Lists r.status := not_or.2 ⟨retryable, refreshing⟩
            by_cases refusal : 400 ≤ r.status ∧ r.status < 500
            · rw [if_pos refusal]
              exact .rejected unsettled unlisted refusal
            · rw [if_neg refusal]
              exact .broken unsettled unlisted refusal

end StatusPolicy

variable {p : StatusPolicy} {d : Descriptor} {r : Http.Response}

theorem classify_of_success (p : StatusPolicy) (d : Descriptor) {r : Http.Response}
    (success : r.isSuccess = true) : p.classify d r = .success := by
  simp [StatusPolicy.classify, success]

theorem classify_of_absent (p : StatusPolicy) (d : Descriptor) {r : Http.Response}
    (absent : r.status = 404) : p.classify d r = .notFound := by
  simp [StatusPolicy.classify, Http.Response.isSuccess, Http.Response.isNotModified, absent]

theorem classify_of_conflict (p : StatusPolicy) (d : Descriptor) {r : Http.Response}
    (conflict : r.status = 409) : p.classify d r = .failed (.terminal (r.conflict d)) := by
  simp [StatusPolicy.classify, Http.Response.isSuccess, Http.Response.isNotModified, conflict]

theorem classify_success (success : p.classify d r = .success) :
    r.isSuccess = true ∨ r.isNotModified = true := by
  have judged := p.classify_judges d r
  rw [success] at judged
  cases judged with
  | used good => simpa using StatusPolicy.good_iff.2 good

theorem classify_eq_notFound (absent : p.classify d r = .notFound) : r.status = 404 := by
  have judged := p.classify_judges d r
  rw [absent] at judged
  cases judged with
  | absent status => exact status

theorem classify_retry {fault : Fault} {refresh : Bool}
    (disposition : p.classify d r = .failed (.retry fault refresh)) :
    ¬StatusPolicy.IsSettled r.status ∧ p.Lists r.status ∧ fault = r.unclassified ∧
      refresh = decide (r.status ∈ p.refreshing) := by
  have judged := p.classify_judges d r
  rw [disposition] at judged
  cases judged with
  | retried unsettled listed => exact ⟨unsettled, listed, rfl, rfl⟩

theorem classify_of_listed (unsettled : ¬StatusPolicy.IsSettled r.status)
    (listed : p.Lists r.status) (d : Descriptor) :
    p.classify d r = .failed (.retry r.unclassified (decide (r.status ∈ p.refreshing))) := by
  have judged := p.classify_judges d r
  generalize p.classify d r = disposition at judged ⊢
  cases judged with
  | used good => exact absurd (good.imp_right .inl) unsettled
  | absent status => exact absurd (.inr (.inr (.inl status))) unsettled
  | conflicting status => exact absurd (.inr (.inr (.inr status))) unsettled
  | retried => rfl
  | rejected _ unlisted => exact absurd listed unlisted
  | broken _ unlisted => exact absurd listed unlisted

theorem refresh_iff_mem_refreshing {fault : Fault} {refresh : Bool}
    (disposition : p.classify d r = .failed (.retry fault refresh)) :
    refresh = true ↔ r.status ∈ p.refreshing := by
  obtain ⟨-, -, -, rfl⟩ := classify_retry disposition
  exact decide_eq_true_iff

end ClusterClient
