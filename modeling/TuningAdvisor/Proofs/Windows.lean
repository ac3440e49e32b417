import TuningAdvisor.Proofs.SortedMap
import TuningAdvisor.Proofs.Spans
/-!
# Windows of a history: `within_window`

The window of a span is what ends within the span of the last end. Any span that is longer than nothing has the last
interval in it, so the window of a window is counted back from the same end. **The window is exact, a longer span takes
in more, and of two windows in turn the shorter one counts** (`History.window_exact`). By the clock, the intervals in
it are the ones that end less than the span before the last end; an inserted second is the exception, since it comes
before the second after it in the order of instants, but not by their difference (`leapHistory_leaves_out`).
-/

namespace TuningAdvisor.History

variable {h : History} {latest finish : Instant} {i j : Interval} {span v w : Int}

theorem get?_within (hlast : h.last? = some (latest, i)) (span : Int) (finish : Instant) (j : Interval) :
    (h.within span).get? finish = some j ↔ h.get? finish = some j ∧ latest.EndsWithin span finish := by
  unfold History.within Instant.EndsWithin
  simp only [hlast]
  cases latest.minus span with
  | none => simp
  | some cutoff =>
    rw [SortedMap.get?_filter, Option.filter_eq_some_iff]
    simp

/-- No history ends later than its last interval. -/
theorem not_after_last (hlast : h.last? = some (latest, i)) (hfinish : h.get? finish = some j) :
    latest.before finish = false := by
  have hmax := (SortedMap.of_last?_eq_some hlast).2 finish j hfinish
  rw [Instant.before, beq_eq_false_iff_ne]
  exact hmax

theorem within_of_last?_eq_none (hnone : h.last? = none) (span : Int) : h.within span = ∅ := by
  unfold History.within
  simp only [hnone]

theorem within_zero (h : History) : h.within 0 = ∅ := by
  cases hlast : h.last? with
  | none => exact within_of_last?_eq_none hlast 0
  | some last =>
    refine SortedMap.ext_get? fun finish => Option.eq_none_iff_forall_ne_some.2 fun j hj => ?_
    obtain ⟨hfinish, hwithin⟩ := (get?_within hlast 0 finish j).1 hj
    exact Instant.not_endsWithin_zero (not_after_last hlast hfinish) hwithin

/-- The last interval is in every window that is longer than nothing. -/
theorem last?_within (hlast : h.last? = some (latest, i)) (hspan : 0 < span) :
    (h.within span).last? = some (latest, i) := by
  have hself := latest.endsWithin_self hspan
  unfold Instant.EndsWithin at hself
  unfold History.within
  simp only [hlast]
  cases hcutoff : latest.minus span with
  | none => exact hlast
  | some cutoff => exact SortedMap.last?_filter hlast (hself cutoff hcutoff)

/-- A longer span takes in more. -/
theorem within_mono (hv : 0 ≤ v) (hvw : v ≤ w) (hj : (h.within v).get? finish = some j) :
    (h.within w).get? finish = some j := by
  cases hlast : h.last? with
  | none =>
    rw [within_of_last?_eq_none hlast] at hj
    cases hj
  | some last =>
    rw [get?_within hlast] at hj ⊢
    obtain ⟨hfinish, hwithin⟩ := hj
    exact ⟨hfinish, hwithin.mono hv hvw⟩

/-- Of two windows in turn, the shorter one counts. -/
theorem within_within (h : History) (hv : 0 ≤ v) (hw : 0 ≤ w) : (h.within v).within w = h.within (min v w) := by
  cases hlast : h.last? with
  | none =>
    rw [within_of_last?_eq_none hlast, within_of_last?_eq_none hlast]
    rfl
  | some last =>
    by_cases hzero : v = 0
    · rw [hzero, min_eq_left hw, within_zero]
      rfl
    · -- both windows are counted back from the same end
      have hlast' : (h.within v).last? = some last := last?_within hlast (by omega)
      refine SortedMap.ext_get? fun finish => Option.ext fun j => ?_
      rw [get?_within hlast', get?_within hlast, get?_within hlast, and_assoc]
      refine and_congr_right fun _ => ⟨fun hboth => ?_, fun hmin => ?_⟩
      · rcases min_choice v w with hmin | hmin
        · rw [hmin]
          exact hboth.1
        · rw [hmin]
          exact hboth.2
      · exact ⟨hmin.mono (by omega) (min_le_left v w), hmin.mono (by omega) (min_le_right v w)⟩

/-- What the windows of a history are. -/
structure Windowed (h : History) : Prop where
  empty : h.last? = none → ∀ span, h.within span = ∅
  /-- The intervals that end within the span of the last end, as they are, and no others. -/
  exact_iff : ∀ latest i, h.last? = some (latest, i) → ∀ span finish j,
    (h.within span).get? finish = some j ↔ h.get? finish = some j ∧ latest.EndsWithin span finish
  /-- By the clock they end less than the span before the last end. -/
  clocked : ∀ latest i, h.last? = some (latest, i) → ∀ finish j, h.get? finish = some j →
    latest.ClockSpan finish → ∀ span, 0 ≤ span →
    ((h.within span).get? finish = some j ↔ latest.since finish < span)
  mono : ∀ v w, 0 ≤ v → v ≤ w → ∀ finish j, (h.within v).get? finish = some j → (h.within w).get? finish = some j
  compose : ∀ v w, 0 ≤ v → 0 ≤ w → (h.within v).within w = h.within (min v w)

/-- **The window of a span is exact and composes.** The window has the intervals that end within the span of the last
end, where a span that leads out of the calendar takes in everything; these are the ones that end less than the
span before the last end, unless an inserted second is in the way. A longer span takes in more, and of two windows in turn
the shorter one counts, whatever seconds are inserted. -/
theorem window_exact (h : History) : h.Windowed where
  empty hnone span := within_of_last?_eq_none hnone span
  exact_iff latest i hlast span finish j := get?_within hlast span finish j
  clocked latest i hlast finish j hfinish hclock span hspan := by
    rw [get?_within hlast, hclock.endsWithin_iff hspan (not_after_last hlast hfinish)]
    exact and_iff_right hfinish
  mono v w hv hvw finish j := within_mono hv hvw
  compose v w hv hw := h.within_within hv hw

/-- An interval of a quarter of an hour, more or less, up to an instant around the end of a year. -/
def leapInterval (finish : Instant) : Interval := ⟨⟨1230767100, 0, by decide⟩, finish, none⟩

/-- Two seconds before the end of the year. -/
def beforeLeap : Instant := ⟨1230767997, 0, by decide⟩

/-- In the middle of the second that was inserted at its end. -/
def inLeap : Instant := ⟨1230767999, 1500000000, by decide⟩

/-- One second into the next year. -/
def afterLeap : Instant := ⟨1230768001, 0, by decide⟩

/-- An interval that ends at each of the three. -/
def leapHistory : History := .ofList ([beforeLeap, inLeap, afterLeap].map fun finish => (finish, leapInterval finish))

/-- In a window of five seconds, the interval before the inserted second is one of those less than five seconds away. A
window of three seconds in it, or in a window of five, leaves that interval out. -/
theorem leapHistory_windows :
    leapHistory.last? = some (afterLeap, leapInterval afterLeap) ∧
    leapHistory.get? beforeLeap = some (leapInterval beforeLeap) ∧ afterLeap.ClockSpan beforeLeap ∧
    afterLeap.since beforeLeap < 5000000000 ∧
    (leapHistory.within 5000000000).get? beforeLeap = some (leapInterval beforeLeap) ∧
    (leapHistory.within 3000000000).get? beforeLeap ≠ some (leapInterval beforeLeap) ∧
    (leapHistory.within 5000000000).within 3000000000 = leapHistory.within 3000000000 := by
  obtain ⟨-, -, hclocked, -, hcompose⟩ := window_exact leapHistory
  have hlast : leapHistory.last? = some (afterLeap, leapInterval afterLeap) := rfl
  have hheld : leapHistory.get? beforeLeap = some (leapInterval beforeLeap) := rfl
  have hclock : afterLeap.ClockSpan beforeLeap := ⟨by decide, by decide⟩
  have hnear := hclocked afterLeap _ hlast beforeLeap _ hheld hclock
  refine ⟨hlast, hheld, hclock, by decide, (hnear 5000000000 (by decide)).2 (by decide), fun hin => ?_,
    hcompose 5000000000 3000000000 (by decide) (by decide)⟩
  exact absurd ((hnear 3000000000 (by decide)).1 hin) (by decide)

/-- The interval that ends in the inserted second ends half a second before the last one by their difference, and by the
clock, and is left out of a window of eight tenths of a second. -/
theorem leapHistory_leaves_out :
    leapHistory.last? = some (afterLeap, leapInterval afterLeap) ∧
    leapHistory.get? inLeap = some (leapInterval inLeap) ∧
    afterLeap.since inLeap = 500000000 ∧ afterLeap.sinceEpoch - inLeap.sinceEpoch = 500000000 ∧
    (leapHistory.within 800000000).get? inLeap = none :=
  ⟨rfl, rfl, by decide, by decide, rfl⟩

end TuningAdvisor.History
