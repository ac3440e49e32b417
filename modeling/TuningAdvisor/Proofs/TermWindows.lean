import TuningAdvisor.Proofs.Advice
import TuningAdvisor.Proofs.FloatBits
import TuningAdvisor.Proofs.Windows
/-!
# The window of a term: `recommend_term` and `within_window`

A recommendation for a term is made from the intervals that end in the term. The term is counted back **from the latest
end that a container has**, up to the end that the recommendation is for, and **in whole milliseconds**
(`recommend_by_terms`). So a container that has stopped reporting keeps its last intervals, however long ago they were,
and a term of less than a millisecond has no interval in it (`stale_counts_brief_does_not`).
-/

namespace TuningAdvisor

/-! ## Days and milliseconds -/

/-- The whole milliseconds of a number of days, which is read as it is: the product is rounded to a float and its
fraction is dropped. So all whole milliseconds count, and a fraction that is at most `2 ^ -15` short of one may count as
one. -/
structure MillisOf (days : Float) (millis : Int) : Prop where
  cut : ∃ v : Rat, Rounding.Nearest v ((Binary64.ofFloat days).toRat * 86400000) ∧ millis = ⌊v⌋
  notLonger : (millis : Rat) ≤ (Binary64.ofFloat days).toRat * 86400000 + 1 / 2 ^ 15
  whole : (Binary64.ofFloat days).toRat * 86400000 < millis + 1

namespace Rounding

theorem holds_maxTermDays : Holds Experiment.maxTermDays 3650 := by
  have hc : Canonical (3650 * 2 ^ 41) (-41) := ⟨by norm_num, by norm_num, by norm_num, .inl (by norm_num)⟩
  have h : Value (.finite .positive (3650 * 2 ^ 41) (-41) (by norm_num)) 3650 := .of_eq _ hc (by norm_num)
  exact h

theorem holds_dayMillis : Holds 86400000.0 86400000 := by
  have hc : Canonical (86400000 * 2 ^ 26) (-26) := ⟨by norm_num, by norm_num, by norm_num, .inl (by norm_num)⟩
  have h : Value (.finite .positive (86400000 * 2 ^ 26) (-26) (by norm_num)) 86400000 := .of_eq _ hc (by norm_num)
  exact h

end Rounding

namespace ResourceTuning

open Rounding

variable {t : ResourceTuning} {days : Float} {finish latest time : Instant} {k : Container}

/-- The product is rounded once, to less than `2 ^ -15` of a millisecond, and then cut. -/
theorem millisOf_termMillis (h : Experiment.isValidTerm days = true) :
    MillisOf days (termMillis days) ∧ 0 ≤ termMillis days := by
  rw [Experiment.isValidTerm, Bool.and_eq_true, decide_eq_true_iff, decide_eq_true_iff] at h
  obtain ⟨d, hd, hpos, hmax⟩ := exists_holds holds_zero holds_maxTermDays h.1 h.2
  have hexact : |d * 86400000| < 2 ^ 39 := by
    rw [abs_of_pos (by positivity)]
    linarith
  obtain ⟨v, hv, hproduct⟩ := hd.exists_mul holds_dayMillis (lt_pow_of_lt (k := 39) (by norm_num) hexact)
  have hhalf : |v - d * 86400000| ≤ 1 / 2 ^ (14 + 1) := by
    refine hv.abs_sub_le (by norm_num) ?_
    rw [abs_mul, abs_of_pos (a := (2 : ℚ) ^ 14) (by positivity)]
    linarith
  rw [abs_of_pos (by positivity)] at hexact
  rw [abs_le] at hhalf
  have hlow : 0 ≤ v := hv.le nearest_zero.onGrid (by positivity)
  have hmillis : termMillis days = ⌊v⌋ := hproduct.toInt64 hlow (by linarith)
  have hfloor := Int.floor_le v
  rw [hmillis]
  refine ⟨⟨⟨v, by rwa [hd.toRat], rfl⟩, ?_, ?_⟩, Int.floor_nonneg.2 hlow⟩
  · rw [hd.toRat]
    linarith
  · -- a whole number that is not above the product is not above its rounding
    rw [hd.toRat]
    by_contra hge
    have hsmall : ⌊v⌋ < 2 ^ 40 := Int.floor_lt.2 (by push_cast; linarith)
    have hpos : 0 ≤ ⌊v⌋ := Int.floor_nonneg.2 hlow
    have hgrid : OnGrid ((⌊v⌋ + 1 : ℤ) : ℚ) := .int (by rw [abs_of_nonneg] <;> omega)
    have hnext := hv.le hgrid (by push_cast; linarith)
    have hcut := Int.lt_floor_add_one v
    push_cast at hnext
    linarith

/-! ## Intervals of a term -/

/-- The recommendation for a term from the intervals that lie in it. -/
def recommendFrom (t : ResourceTuning) (used : History) (days : Float) : TermRecommendation :=
  let layers := t.catalog.detect used
  let report := t.catalog.resolve t.generators (layers.flatMap fun l => l.tunables.map Tunable.id) ∅ used
  { days
    intervals := used.size
    layers := layers.map (·.name)
    entries := report.entries
    notifications := report.notifications }

theorem recommendTerm_eq (t : ResourceTuning) (h : History) (days : Float) :
    t.recommendTerm h days = t.recommendFrom (inTerm h days) days := rfl

/-- The intervals of an accepted term. -/
theorem inTerm_eq (h : Experiment.isValidTerm days = true) (history : History) :
    inTerm history days = history.within (termMillis days * Instant.millisecond) := by
  have hpos := (millisOf_termMillis h).2
  have hne : termMillis days ≠ minInt64 := by
    unfold minInt64
    omega
  unfold inTerm
  simp only [if_neg hne]

end ResourceTuning

/-- The latest end of the intervals of a container that are not after a point in time. -/
structure Container.LatestUpTo (finish latest : Instant) (k : Container) : Prop where
  held : ∃ i, k.results.get? latest = some i
  notLater : finish.before latest = false
  latest : ∀ time i, k.results.get? time = some i → finish.before time = false → latest.before time = false

/-- An interval that ends at that point in time is the latest one. -/
theorem Container.LatestUpTo.eq_finish {finish latest : Instant} {k : Container} (h : k.LatestUpTo finish latest)
    {i : Interval} (hi : k.results.get? finish = some i) : latest = finish := by
  have hearly := h.latest finish i hi (by simp [Instant.before])
  have hlate := h.notLater
  rw [Instant.before, beq_eq_false_iff_ne] at hearly hlate
  refine Std.LawfulEqOrd.eq_of_compare ?_
  cases hcompare : compare latest finish with
  | lt => exact absurd hcompare hearly
  | eq => rfl
  | gt => exact absurd (Std.OrientedCmp.lt_of_gt hcompare) hlate

/-- The intervals of a container that end in a window: not after `finish`, and less than the milliseconds before the
latest of these ends, as far as the calendar goes back. -/
structure Container.InWindow (finish latest : Instant) (millis : Int) (k : Container) (used : History) : Prop where
  mem_iff : ∀ time i, used.get? time = some i ↔ k.results.get? time = some i ∧ finish.before time = false ∧
    ∀ cutoff, latest.minus (millis * Instant.millisecond) = some cutoff → cutoff.before time = true
  /-- By the clock, inserted seconds aside. -/
  byClock : ∀ time, latest.inserted = false → time.inserted = false →
    ((∀ cutoff, latest.minus (millis * Instant.millisecond) = some cutoff → cutoff.before time = true) ↔
      latest.sinceEpoch - millis * Instant.millisecond < time.sinceEpoch)
  /-- A term of a millisecond has the latest interval in it. -/
  latest : 1 ≤ millis → used.get? latest = k.results.get? latest

namespace ResourceTuning

variable {t : ResourceTuning} {days : Float} {finish latest time : Instant} {k : Container}

theorem mem_upTo {i : Interval} :
    (upTo finish k).get? time = some i ↔ k.results.get? time = some i ∧ finish.before time = false := by
  rw [get?_upTo]
  cases finish.before time <;> simp

/-- The last entry up to an end is the latest of these intervals. -/
theorem latestUpTo_of_last? {i : Interval} (h : (upTo finish k).last? = some (latest, i)) :
    k.LatestUpTo finish latest := by
  obtain ⟨hheld, hmax⟩ := SortedMap.of_last?_eq_some h
  obtain ⟨hheld, hnotLater⟩ := mem_upTo.1 hheld
  refine ⟨⟨i, hheld⟩, hnotLater, fun time j hj htime => ?_⟩
  have hle := hmax time j (mem_upTo.2 ⟨hj, htime⟩)
  rw [Instant.before, beq_eq_false_iff_ne]
  exact hle

theorem inWindow_inTerm (h : Experiment.isValidTerm days = true) {i : Interval}
    (hlast : (upTo finish k).last? = some (latest, i)) :
    k.InWindow finish latest (termMillis days) (inTerm (upTo finish k) days) := by
  have hpos := (millisOf_termMillis h).2
  have hspan : 0 ≤ termMillis days * Instant.millisecond := Int.mul_nonneg hpos (by decide)
  have hmem (time : Instant) (j : Interval) := History.get?_within hlast (termMillis days * Instant.millisecond) time j
  rw [← inTerm_eq h] at hmem
  refine ⟨fun time j => ?_, fun time hlatest htime => Instant.forall_minus_iff hlatest htime hspan, fun hone => ?_⟩
  · rw [hmem, mem_upTo, and_assoc, Instant.EndsWithin]
  · obtain ⟨hheld, -⟩ := SortedMap.of_last?_eq_some hlast
    have hlong : 0 < termMillis days * Instant.millisecond := Int.mul_pos (by omega) (by decide)
    rw [(hmem latest i).2 ⟨hheld, latest.endsWithin_self hlong⟩, (mem_upTo.1 hheld).1]

/-- Terms of an accepted length let the recommendations be made. -/
theorem recommend_of_valid {e : Experiment}
    (h : ∀ term days, (t.terms e).get? term = some days → Experiment.isValidTerm days = true) (p : Profile)
    (finish : Instant) :
    ∃ counts, t.recommend p e finish = (e.mapContainers (t.advised (t.terms e) finish), .ok counts) := by
  have hgood : badTerm? (t.terms e) = none := by
    refine List.find?_eq_none.2 fun (term, days) hterm => ?_
    have hvalid := h term days (SortedMap.mem_entries_iff.1 hterm)
    rw [Experiment.isValidTerm, Bool.and_eq_true, decide_eq_true_iff] at hvalid
    simpa using hvalid.1
  have hsucceeds : ∃ counts, (t.recommend p e finish).2 = .ok counts := by
    unfold recommend
    simp only [hgood]
    exact ⟨_, rfl⟩
  obtain ⟨counts, hcounts⟩ := hsucceeds
  exact ⟨counts, Prod.ext (recommend_ok (Prod.ext rfl hcounts)) hcounts⟩

/-- Where nothing ends by a point in time, there is no recommendation for it. -/
theorem advised_of_last?_eq_none {terms : SortedMap String Float} (h : (upTo finish k).last? = none) :
    (∀ time i, k.results.get? time = some i → finish.before time = true) ∧ t.advised terms finish k = k := by
  constructor
  · intro time i hi
    by_contra hearly
    have hheld := mem_upTo.2 ⟨hi, Bool.eq_false_of_not_eq_true hearly⟩
    rw [SortedMap.get?_of_last?_eq_none h] at hheld
    cases hheld
  · have hnone : t.recommendContainer? terms finish k = none := by
      unfold recommendContainer?
      simp only [SortedMap.isEmpty_eq, h, Option.isNone_none, if_true]
    unfold advised
    rw [hnone]

/-- Where something does, there is one for every term, from the intervals of the term. -/
theorem advised_of_last?_eq_some {terms : SortedMap String Float} {last : Instant × Interval}
    (h : (upTo finish k).last? = some last) :
    ∃ made, t.advised terms finish k = { k with recommendations := k.recommendations.insert finish made } ∧
      ∀ term, made.get? term = (terms.get? term).map (t.recommendTerm (upTo finish k)) := by
  have hsome : ∃ made, t.recommendContainer? terms finish k = some made := by
    unfold recommendContainer?
    simp only [SortedMap.isEmpty_eq, h, Option.isNone_some, Bool.false_eq_true, if_false]
    exact ⟨_, rfl⟩
  obtain ⟨made, hmade⟩ := hsome
  refine ⟨made, ?_, get?_of_recommendContainer? hmade⟩
  unfold advised
  rw [hmade]

/-- **A term is counted back from the latest interval.** Take an experiment whose terms are longer than nothing and not
longer than 3650 days, as those that come through registration are, and any point in time. Recommendations are made for
every container that has an interval which ends by then, and put under that time; other containers stay as they are.
For each term the recommendation is the one from the container's intervals that end by then and less than the term
before the latest of these ends. The term is counted in whole milliseconds of its days, and one of a millisecond has the
latest interval in it. -/
theorem recommend_by_terms (t : ResourceTuning) (p : Profile) (e : Experiment) (finish : Instant)
    (hterms : ∀ term days, (t.terms e).get? term = some days → Experiment.isValidTerm days = true) :
    ∃ counts, t.recommend p e finish = (e.mapContainers (t.advised (t.terms e) finish), .ok counts) ∧
    ∀ k : Container,
      ((∀ time i, k.results.get? time = some i → finish.before time = true) ∧ t.advised (t.terms e) finish k = k) ∨
      ∃ latest made, k.LatestUpTo finish latest ∧ (∀ i, k.results.get? finish = some i → latest = finish) ∧
        t.advised (t.terms e) finish k = { k with recommendations := k.recommendations.insert finish made } ∧
        ∀ term days, (t.terms e).get? term = some days →
          ∃ millis used, MillisOf days millis ∧ k.InWindow finish latest millis used ∧
            made.get? term = some (t.recommendFrom used days) := by
  obtain ⟨counts, hrecommend⟩ := recommend_of_valid hterms p finish
  refine ⟨counts, hrecommend, fun k => ?_⟩
  cases hlast : (upTo finish k).last? with
  | none => exact .inl (advised_of_last?_eq_none hlast)
  | some last =>
    have hlatest := latestUpTo_of_last? hlast
    obtain ⟨made, hadvised, hmade⟩ := advised_of_last?_eq_some (t := t) hlast
    refine .inr ⟨last.1, made, hlatest, fun _ => hlatest.eq_finish, hadvised, fun term days hterm => ?_⟩
    have hvalid := hterms term days hterm
    refine ⟨termMillis days, inTerm (upTo finish k) days, (millisOf_termMillis hvalid).1,
      inWindow_inTerm hvalid hlast, ?_⟩
    rw [hmade, hterm, Option.map_some, recommendTerm_eq]

/-- The terms of an experiment that comes through the check of a registration. -/
theorem validTerms_of_checkSettings {e : Experiment} {c : Config} (h : e.checkSettings c = .ok ())
    (hdays : Experiment.isValidTerm t.termDays = true) (term : String) (days : Float)
    (hterm : (t.terms e).get? term = some days) : Experiment.isValidTerm days = true := by
  have hall : ∀ entry ∈ (t.terms e).entries, Experiment.isValidTerm entry.2 = true :=
    forall_terms (P := fun days => Experiment.isValidTerm days = true) hdays
      (fun _ hsettings => Experiment.validTerms_of_checkSettings h hsettings)
  exact hall (term, days) (SortedMap.mem_entries_iff.2 hterm)

/-- A container with an interval. -/
def termContainer : Container where
  name := "server"
  results := .ofList [(Engine.exampleFinish, ⟨Engine.exampleStart, Engine.exampleFinish, none⟩)]

/-- The example with this container and a term. -/
def termExample (days : Float) : Experiment :=
  { Engine.checkoutExample with
    objects := [{ name := "web", containers := [termContainer] }]
    recommendationSettings := some { terms := .ofList [("short_term", days)] } }

/-- A profile that asks for nothing. -/
def freeProfile : Profile := { name := "free", slo := {} }

/-- Two days after the end of the interval. -/
def exampleTwoDaysLater : Instant := ⟨1643136043, 0, by decide⟩

/-- A term of a day, two days later: it is counted back from the interval, and not from where the advice is for. -/
theorem termExample_two_days_later :
    (∀ term days, ((builtin {}).terms (termExample 1.0)).get? term = some days →
      Experiment.isValidTerm days = true) ∧
    ∃ counts made millis used,
      (builtin {}).recommend freeProfile (termExample 1.0) exampleTwoDaysLater =
        ((termExample 1.0).mapContainers
          ((builtin {}).advised ((builtin {}).terms (termExample 1.0)) exampleTwoDaysLater), .ok counts) ∧
      (builtin {}).advised ((builtin {}).terms (termExample 1.0)) exampleTwoDaysLater termContainer =
        { termContainer with recommendations := termContainer.recommendations.insert exampleTwoDaysLater made } ∧
      MillisOf 1.0 millis ∧ termContainer.InWindow exampleTwoDaysLater Engine.exampleFinish millis used ∧
      made.get? "short_term" = some ((builtin {}).recommendFrom used 1.0) := by
  have hchecked : (termExample 1.0).checkSettings {} = .ok () := by decide +kernel
  have hterms := validTerms_of_checkSettings (t := builtin {}) hchecked (by decide +kernel)
  obtain ⟨counts, hrecommend, hcontainers⟩ :=
    recommend_by_terms (builtin {}) freeProfile (termExample 1.0) exampleTwoDaysLater hterms
  refine ⟨hterms, counts, ?_⟩
  rcases hcontainers termContainer with ⟨hlater, -⟩ | ⟨latest, made, hlatest, -, hadvised, hmade⟩
  · exact absurd (hlater Engine.exampleFinish _ rfl) (by decide)
  · obtain ⟨i, hi⟩ := hlatest.held
    have hend : latest = Engine.exampleFinish := by
      rcases SortedMap.get?_insert_cases hi with ⟨hend, -⟩ | ⟨-, hnone⟩
      · exact hend
      · cases hnone
    subst hend
    obtain ⟨millis, used, hmillis, hwindow, hterm⟩ := hmade "short_term" 1.0 rfl
    exact ⟨made, millis, used, hrecommend, hadvised, hmillis, hwindow, hterm⟩

/-- How many intervals of each container were in the short term of the example. -/
def shortTermIntervals (days : Float) (finish : Instant) : List (Option Nat) :=
  ((builtin {}).recommend freeProfile (termExample days) finish).1.containers.map fun k =>
    ((k.recommendations.get? finish).bind (·.get? "short_term")).map (·.intervals)

/-- With a term of a day the interval counts although it ended two days ago. With a term of `1e-8` days, which is less
than a millisecond, it does not count although it has just ended. -/
theorem stale_counts_brief_does_not :
    Experiment.isValidTerm 1.0 = true ∧ (Binary64.ofFloat 1.0).toRat = 1 ∧
    Engine.exampleFinish.sinceEpoch ≤ exampleTwoDaysLater.sinceEpoch - 86400000 * Instant.millisecond ∧
    shortTermIntervals 1.0 exampleTwoDaysLater = [some 1] ∧
    Experiment.isValidTerm 1e-8 = true ∧ termContainer.results.contains Engine.exampleFinish = true ∧
    shortTermIntervals 1e-8 Engine.exampleFinish = [some 0] := by
  refine ⟨by decide +kernel, by decide +kernel, by decide, by decide +kernel, by decide +kernel, by decide +kernel,
    by decide +kernel⟩

end ResourceTuning

end TuningAdvisor
