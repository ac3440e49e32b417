import TuningAdvisor.Proofs.Statuses
/-!
# Spans back from an instant: the window of `within_window`

An instant less a span is found by its clock, and is none where the calendar has no such year. Only within an inserted
second the nanoseconds alone are set back (`minus_cases`). **What ends within a span of an instant is what comes after
the instant less the span** (`EndsWithin`), with nothing left out before the first year: the more the longer the span
(`EndsWithin.mono`), and by the clock what is less than the span away (`ClockSpan.endsWithin_iff`).
-/

namespace TuningAdvisor.Instant

/-- Nanoseconds since 1970 by the clock. -/
def sinceEpoch (t : Instant) : Int := t.seconds * second + t.nanos

variable {t cutoff time latest finish : Instant} {span v w : Int}

theorem inserted_iff : t.inserted = true ↔ 1000000000 ≤ t.nanos := decide_eq_true_iff

theorem inserted_eq_false_iff : t.inserted = false ↔ t.nanos < 1000000000 := by
  rw [← Bool.not_eq_true, inserted_iff, not_le]

/-- Seconds and nanoseconds are carried over, so that the result is in no inserted second. -/
theorem normalized_eq_some {seconds nanos : Int} (h : normalized seconds nanos = some cutoff) :
    cutoff.inserted = false ∧ cutoff.sinceEpoch = seconds * second + nanos := by
  unfold normalized of? at h
  split at h
  · cases h
    have hmod : 0 ≤ Int.fmod nanos second := Int.fmod_nonneg_of_pos nanos (by decide)
    have hlt : Int.fmod nanos second < second := Int.fmod_lt_of_pos nanos (by decide)
    have hdiv := Int.fmod_add_mul_fdiv nanos second
    unfold sinceEpoch inserted
    unfold second at *
    refine ⟨?_, ?_⟩
    · simp only [decide_eq_false_iff_not]
      omega
    · dsimp only
      rw [Int.toNat_of_nonneg hmod]
      omega
  · cases h

/-- Only the years of the calendar keep a result from being one. -/
theorem normalized_eq_none {seconds nanos : Int} (h : normalized seconds nanos = none) :
    seconds * second + nanos < minSeconds * second ∨ (maxSeconds + 1) * second ≤ seconds * second + nanos := by
  unfold normalized of? at h
  split at h
  · cases h
  · rename_i hout
    have hmod : 0 ≤ Int.fmod nanos second := Int.fmod_nonneg_of_pos nanos (by decide)
    have hlt : Int.fmod nanos second < second := Int.fmod_lt_of_pos nanos (by decide)
    have hdiv := Int.fmod_add_mul_fdiv nanos second
    unfold InRange at hout
    unfold second at *
    omega

theorem minus_eq_of_not_inserted (ht : t.inserted = false) (span : Int) :
    t.minus span = normalized (t.seconds + Int.tdiv (-span) second) (t.nanos + Int.tmod (-span) second) := by
  unfold minus plus
  simp only [ht, Bool.false_eq_true, if_false]

/-- A span back from an instant in an inserted second stays in it, or in the second before, if it is less than a second.
Otherwise the clock is set back and its seconds are carried over. -/
theorem minus_cases (t : Instant) (hspan : 0 ≤ span) :
    (t.inserted = true ∧ span < second ∧
      ∃ c, t.minus span = some c ∧ c.seconds = t.seconds ∧ (c.nanos : Int) = t.nanos - span) ∨
    ((t.inserted = false ∨ second ≤ span) ∧
      ∃ seconds nanos, t.minus span = normalized seconds nanos ∧ seconds * second + nanos = t.sinceEpoch - span) := by
  have hdiv := Int.tmod_add_mul_tdiv (-span) second
  by_cases ht : t.inserted = true
  · have hwhole : 0 ≤ Int.tdiv span second := Int.tdiv_nonneg hspan (by decide)
    have hpart : 0 ≤ Int.tmod span second := Int.tmod_nonneg _ hspan
    have hlt : Int.tmod span second < second := Int.tmod_lt_of_pos _ (by decide)
    rw [Int.neg_tdiv, Int.neg_tmod] at hdiv
    have hclock := inserted_iff.1 ht
    unfold minus plus
    simp only [ht, if_true, Int.neg_tdiv, Int.neg_tmod]
    by_cases hshort : span < second
    · have hzero : Int.tdiv span second = 0 := by unfold second at *; omega
      left
      rw [hzero, if_neg (by omega), if_neg (by omega)]
      obtain ⟨hlow, hhigh, hnanos⟩ := t.inRange
      have hin : InRange t.seconds (t.nanos + -Int.tmod span second).toNat :=
        ⟨hlow, hhigh, by unfold second at *; omega⟩
      refine ⟨trivial, hshort, ⟨_, _, hin⟩, dif_pos hin, rfl, ?_⟩
      unfold second at *
      dsimp only
      omega
    · right
      rw [if_neg (by unfold second at *; omega), if_pos (by unfold second at *; omega)]
      refine ⟨.inr (by omega), _, _, rfl, ?_⟩
      unfold sinceEpoch second at *
      omega
  · rw [Bool.not_eq_true] at ht
    right
    refine ⟨.inl ht, _, _, minus_eq_of_not_inserted ht span, ?_⟩
    unfold sinceEpoch second at *
    omega

/-! ## Ends within a span -/

/-- Later than a span before `latest`, as far as the calendar goes back. -/
def EndsWithin (latest : Instant) (span : Int) (finish : Instant) : Prop :=
  ∀ cutoff, latest.minus span = some cutoff → cutoff.before finish = true

/-- By the clock, where the span leads out of the inserted second of `latest`. The whole of an inserted second comes
after the second before it and before the second after it. -/
theorem endsWithin_iff_by_clock (finish : Instant) (hspan : 0 ≤ span) (hout : latest.inserted = false ∨ second ≤ span) :
    latest.EndsWithin span finish ↔
      latest.sinceEpoch - span < finish.seconds * second + min (finish.nanos : Int) second := by
  rcases latest.minus_cases hspan with ⟨hin, hshort, -⟩ | ⟨-, seconds, nanos, hminus, hclock⟩
  · rw [hin] at hout
    have hlong := hout.resolve_left (by decide)
    omega
  · unfold EndsWithin
    rw [hminus, ← hclock]
    cases hcutoff : normalized seconds nanos with
    | none =>
      have hrange := normalized_eq_none hcutoff
      obtain ⟨hlow, -, -⟩ := finish.inRange
      obtain ⟨-, hhigh, hnanos⟩ := latest.inRange
      simp only [reduceCtorEq, false_implies, implies_true, true_iff]
      rw [inserted_eq_false_iff] at hout
      unfold sinceEpoch second at *
      omega
    | some cutoff =>
      obtain ⟨hcutoff', heq⟩ := normalized_eq_some hcutoff
      simp only [Option.some.injEq, forall_eq', before_iff]
      rw [inserted_eq_false_iff] at hcutoff'
      rw [← heq]
      unfold sinceEpoch second
      omega

/-- Within the inserted second of `latest` and the second before it. -/
theorem endsWithin_iff_in_second (finish : Instant) (hspan : 0 ≤ span) (hin : latest.inserted = true)
    (hshort : span < second) : latest.EndsWithin span finish ↔
      latest.seconds < finish.seconds ∨ latest.seconds = finish.seconds ∧ (latest.nanos : Int) - span < finish.nanos := by
  rcases latest.minus_cases hspan with ⟨-, -, c, hc, hseconds, hnanos⟩ | ⟨hout, -⟩
  · unfold EndsWithin
    rw [hc]
    simp only [Option.some.injEq, forall_eq', before_iff, hseconds]
    omega
  · rw [hin] at hout
    have hlong := hout.resolve_left (by decide)
    omega

/-- A longer span takes in more. -/
theorem EndsWithin.mono (h : latest.EndsWithin v finish) (hv : 0 ≤ v) (hvw : v ≤ w) : latest.EndsWithin w finish := by
  have hnanos := latest.inRange.2.2
  by_cases hin : latest.inserted = true
  · have hclock := inserted_iff.1 hin
    by_cases hshort : w < second
    · rw [endsWithin_iff_in_second finish hv hin (by omega)] at h
      rw [endsWithin_iff_in_second finish (by omega) hin hshort]
      omega
    · rw [endsWithin_iff_by_clock finish (by omega) (.inr (by omega))]
      by_cases hshort' : v < second
      · rw [endsWithin_iff_in_second finish hv hin hshort'] at h
        unfold sinceEpoch second at *
        omega
      · rw [endsWithin_iff_by_clock finish hv (.inr (by omega))] at h
        omega
  · rw [Bool.not_eq_true] at hin
    rw [endsWithin_iff_by_clock finish hv (.inl hin)] at h
    rw [endsWithin_iff_by_clock finish (by omega) (.inl hin)]
    omega

/-- Nothing up to an instant ends within no span of it, -/
theorem not_endsWithin_zero (h : latest.before finish = false) : ¬latest.EndsWithin 0 finish := by
  rw [← Bool.not_eq_true, before_iff] at h
  by_cases hin : latest.inserted = true
  · rw [endsWithin_iff_in_second finish le_rfl hin (by decide)]
    omega
  · rw [Bool.not_eq_true] at hin
    rw [endsWithin_iff_by_clock finish le_rfl (.inl hin)]
    rw [inserted_eq_false_iff] at hin
    unfold sinceEpoch second
    omega

/-- and it does itself within any longer one. -/
theorem endsWithin_self (latest : Instant) (hspan : 0 < span) : latest.EndsWithin span latest := by
  have hnanos := latest.inRange.2.2
  by_cases hout : latest.inserted = false ∨ second ≤ span
  · rw [endsWithin_iff_by_clock latest hspan.le hout]
    rw [inserted_eq_false_iff] at hout
    unfold sinceEpoch second at *
    omega
  · rw [not_or, Bool.not_eq_false, not_le] at hout
    rw [endsWithin_iff_in_second latest hspan.le hout.1 hout.2]
    omega

/-- What ends later than a span before an instant. -/
theorem forall_minus_iff (ht : t.inserted = false) (htime : time.inserted = false) (hspan : 0 ≤ span) :
    (∀ cutoff, t.minus span = some cutoff → cutoff.before time = true) ↔ t.sinceEpoch - span < time.sinceEpoch := by
  rw [inserted_eq_false_iff] at htime
  refine (endsWithin_iff_by_clock time hspan (.inl ht)).trans ?_
  unfold sinceEpoch second
  omega

/-- The difference of two instants goes by the clock: the earlier one is in no inserted second, and the later one is in
none that the time of day of the earlier one has passed. -/
structure ClockSpan (latest finish : Instant) : Prop where
  regular : finish.inserted = false
  passed : latest.inserted = true → finish.secondOfDay ≤ latest.secondOfDay

theorem ClockSpan.since_eq (h : ClockSpan latest finish) :
    latest.since finish = latest.sinceEpoch - finish.sinceEpoch := by
  have hnone : ¬(latest.secondOfDay < finish.secondOfDay ∧ latest.inserted = true) := by
    rintro ⟨hearlier, hin⟩
    have := h.passed hin
    omega
  unfold since sinceEpoch
  simp only [h.regular, Bool.false_eq_true, and_false, if_false, hnone]
  ring

/-- Then what ends within a span is less than the span away. -/
theorem ClockSpan.endsWithin_iff (h : ClockSpan latest finish) (hspan : 0 ≤ span)
    (hle : latest.before finish = false) : latest.EndsWithin span finish ↔ latest.since finish < span := by
  rw [h.since_eq]
  have hregular := inserted_eq_false_iff.1 h.regular
  rw [← Bool.not_eq_true, before_iff] at hle
  by_cases hout : latest.inserted = false ∨ second ≤ span
  · rw [endsWithin_iff_by_clock finish hspan hout]
    unfold sinceEpoch second
    omega
  · rw [not_or, Bool.not_eq_false, not_le] at hout
    rw [endsWithin_iff_in_second finish hspan hout.1 hout.2]
    have hin := inserted_iff.1 hout.1
    unfold sinceEpoch second at *
    omega

end TuningAdvisor.Instant
