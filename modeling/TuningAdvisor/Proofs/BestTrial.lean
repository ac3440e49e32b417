import Mathlib.Data.List.Induction
import Mathlib.Order.Bounds.Basic
import TuningAdvisor.Proofs.FloatBits
import TuningAdvisor.Proofs.Texts
import TuningAdvisor.Trial.Summary
/-!
# The best trial is the first optimum: `ExperimentSummary::record_trial`

A summary sees every trial once and keeps the best value so far. Floats compare as the exact numbers that they hold, so
what it keeps is the optimum of the values that it has seen, **and of the trials that attain it the earliest**
(`TrialSummary.best_trial_first_optimum`). The number of this trial is kept in 64 bits with a sign. A number from
`2 ^ 63` on comes out negative there, where no number at all is kept as -1 (`TrialSummary.negative_best_trial`).
-/

namespace TuningAdvisor

open Rounding (Holds)

/-! ## Trials that pass -/

namespace Trial

/-- The value of the objective as an exact number, `none` where the trial has failed. -/
def exactValue? (t : Trial) : Option ℚ := (value? t.result).map fun x => (Binary64.ofFloat x).toRat

/-- The text reports no error, and is a finite number but for the blanks around it. -/
def Passes (t : Trial) : Prop :=
  ¬errorMarker.toList <:+: t.result.toList ∧ ∃ x, readFloat? (trimText t.result) = some x ∧ x.isFinite = true

variable {t : Trial}

theorem value?_eq_some_iff {x : Float} : value? t.result = some x ↔
    ¬errorMarker.toList <:+: t.result.toList ∧ readFloat? (trimText t.result) = some x ∧ x.isFinite = true := by
  unfold value?
  rw [← hasInfix_iff]
  split
  · rename_i herror
    simp [herror]
  · rename_i herror
    simp [herror, Option.filter_eq_some_iff]

theorem holds_of_value? {x : Float} (h : value? t.result = some x) : Holds x (Binary64.ofFloat x).toRat :=
  Rounding.holds_of_isFinite (value?_eq_some_iff.1 h).2.2

theorem exactValue?_of_value? {x : Float} (h : value? t.result = some x) :
    t.exactValue? = some (Binary64.ofFloat x).toRat := by
  simp [exactValue?, h]

theorem exactValue?_of_failed (h : value? t.result = none) : t.exactValue? = none := by
  simp [exactValue?, h]

theorem isSome_exactValue?_iff : t.exactValue?.isSome = true ↔ t.Passes := by
  rw [exactValue?, Option.isSome_map, Option.isSome_iff_exists]
  simp only [value?_eq_some_iff, exists_and_left]
  rfl

instance : DecidablePred Passes := fun _ => decidable_of_iff _ isSome_exactValue?_iff

theorem exactValue?_eq_none_iff : t.exactValue? = none ↔ ¬t.Passes := by
  rw [← isSome_exactValue?_iff]
  cases t.exactValue? <;> simp

/-- The values of the trials that have passed. -/
def values (trials : List Trial) : List ℚ := trials.filterMap exactValue?

theorem values_append_of_failed (trials : List Trial) (h : t.exactValue? = none) :
    values (trials ++ [t]) = values trials := by
  simp [values, h]

theorem values_append_of_passed {trials : List Trial} {v : ℚ} (h : t.exactValue? = some v) :
    values (trials ++ [t]) = values trials ++ [v] := by
  simp [values, h]

theorem values_eq_nil_iff {trials : List Trial} : values trials = [] ↔ ∀ u ∈ trials, ¬u.Passes := by
  simp only [values, List.filterMap_eq_nil_iff, exactValue?_eq_none_iff]

end Trial

/-! ## Optima -/

namespace Direction

variable {d : Direction} {values : List ℚ} {u v w : ℚ}

/-- Strictly better. -/
def Better (d : Direction) (v w : ℚ) : Prop :=
  match d with
  | .minimize => v < w
  | .maximize => w < v

/-- The best of some values: the least one or the greatest one. -/
def Optimum (d : Direction) (values : List ℚ) (v : ℚ) : Prop :=
  match d with
  | .minimize => IsLeast {w | w ∈ values} v
  | .maximize => IsGreatest {w | w ∈ values} v

/-- Floats compare as the numbers that they hold. -/
theorem improves_iff {x y : Float} (hx : Holds x v) (hy : Holds y w) : d.improves x y = true ↔ d.Better v w := by
  cases d with
  | minimize => exact decide_eq_true_iff.trans (hx.lt_iff hy)
  | maximize => exact decide_eq_true_iff.trans (hy.lt_iff hx)

theorem Better.ne (h : d.Better v w) : w ≠ v := by
  cases d with
  | minimize => exact (show v < w from h).ne'
  | maximize => exact (show w < v from h).ne

theorem Better.of_not (h : d.Better v w) (hu : ¬d.Better u w) : d.Better v u := by
  cases d with
  | minimize => exact lt_of_lt_of_le h (not_lt.1 hu)
  | maximize => exact lt_of_le_of_lt (not_lt.1 hu) h

theorem Better.asymm (h : d.Better v w) : ¬d.Better w v := by
  cases d with
  | minimize => exact lt_asymm (show v < w from h)
  | maximize => exact lt_asymm (show w < v from h)

theorem not_better_self (v : ℚ) : ¬d.Better v v := by
  cases d with
  | minimize => exact lt_irrefl v
  | maximize => exact lt_irrefl v

/-- Of the values, and none of them is better. -/
theorem optimum_iff : d.Optimum values v ↔ v ∈ values ∧ ∀ w ∈ values, ¬d.Better w v := by
  cases d with
  | minimize => simp [Optimum, Better, IsLeast, lowerBounds]
  | maximize => simp [Optimum, Better, IsGreatest, upperBounds]

theorem Optimum.unique (h : d.Optimum values v) (h' : d.Optimum values w) : v = w := by
  cases d with
  | minimize => exact IsLeast.unique h h'
  | maximize => exact IsGreatest.unique h h'

theorem optimum_congr_perm {values' : List ℚ} (hperm : values.Perm values') :
    d.Optimum values v ↔ d.Optimum values' v := by
  simp only [optimum_iff, hperm.mem_iff]

/-- To beat the optimum is to beat all values. -/
theorem Optimum.better_iff (h : d.Optimum values v) : d.Better w v ↔ ∀ u ∈ values, d.Better w u := by
  obtain ⟨hmem, hbest⟩ := optimum_iff.1 h
  constructor
  · intro hbetter u hu
    exact hbetter.of_not (hbest u hu)
  · intro hall
    exact hall v hmem

theorem Optimum.append_of_better (hbetter : ∀ u ∈ values, d.Better v u) : d.Optimum (values ++ [v]) v := by
  rw [optimum_iff]
  refine ⟨by simp, fun w hw => ?_⟩
  rcases List.mem_append.1 hw with hw | hw
  · exact (hbetter w hw).asymm
  · rw [List.mem_singleton.1 hw]
    exact not_better_self v

theorem Optimum.append_of_not_better (h : d.Optimum values v) (hw : ¬d.Better w v) : d.Optimum (values ++ [w]) v := by
  obtain ⟨hmem, hbest⟩ := optimum_iff.1 h
  rw [optimum_iff]
  refine ⟨List.mem_append_left _ hmem, fun u hu => ?_⟩
  rcases List.mem_append.1 hu with hu | hu
  · exact hbest u hu
  · rw [List.mem_singleton.1 hu]
    exact hw

end Direction

/-! ## The best value so far -/

namespace TrialSummary

open Trial (exactValue? values)

variable {d : Direction} {trials : List Trial} {best : Option Float} {number : Int} {t : Trial}

/-- What is kept of some trials: nothing where none has passed, otherwise the optimum and the number of the earliest
trial that attains it. -/
inductive Leads (d : Direction) (trials : List Trial) : Option Float → Int → Prop where
  | nothing (hnone : values trials = []) : Leads d trials none (-1)
  | value {x : Float} {v : ℚ} {t : Trial} (hholds : Holds x v) (hoptimum : d.Optimum (values trials) v)
      (hfirst : trials.find? (fun u => u.exactValue? == some v) = some t) :
      Leads d trials (some x) (Trial.index t.number)

/-- A failed trial leaves it as it is. -/
theorem Leads.append_of_failed (h : Leads d trials best number) (ht : t.exactValue? = none) :
    Leads d (trials ++ [t]) best number := by
  have hvalues := Trial.values_append_of_failed trials ht
  cases h with
  | nothing hnone => exact .nothing (hvalues.trans hnone)
  | value hholds hoptimum hfirst =>
    refine .value hholds (hvalues ▸ hoptimum) ?_
    rw [List.find?_append, hfirst]
    rfl

/-- Beating what is kept is beating every earlier value. -/
theorem Leads.beats_iff (h : Leads d trials best number) {x : Float} {v : ℚ} (hx : Holds x v) :
    best.all (d.improves x) = true ↔ ∀ w ∈ values trials, d.Better v w := by
  cases h with
  | nothing hnone => simp [hnone]
  | value hholds hoptimum _ =>
    rw [Option.all_some, Direction.improves_iff hx hholds]
    exact hoptimum.better_iff

/-- A value that beats all earlier ones is the new optimum, and its trial the first to attain it. -/
theorem Leads.append_of_better {x : Float} {v : ℚ} (hx : Holds x v) (ht : t.exactValue? = some v)
    (hbetter : ∀ w ∈ values trials, d.Better v w) : Leads d (trials ++ [t]) (some x) (Trial.index t.number) := by
  have hnew : trials.find? (fun u => u.exactValue? == some v) = none := by
    rw [List.find?_eq_none]
    intro u hu heq
    have hv : v ∈ values trials := List.mem_filterMap.2 ⟨u, hu, by simpa using heq⟩
    exact (hbetter v hv).ne rfl
  refine .value hx ?_ ?_
  · rw [Trial.values_append_of_passed ht]
    exact .append_of_better hbetter
  · rw [List.find?_append, hnew]
    simp [ht]

/-- Any other value changes nothing. -/
theorem Leads.append_of_not_better (h : Leads d trials best number) {v : ℚ} (ht : t.exactValue? = some v)
    (hbeaten : ¬∀ w ∈ values trials, d.Better v w) : Leads d (trials ++ [t]) best number := by
  cases h with
  | nothing hnone => simp [hnone] at hbeaten
  | value hholds hoptimum hfirst =>
    refine .value hholds ?_ ?_
    · rw [Trial.values_append_of_passed ht]
      exact hoptimum.append_of_not_better (mt hoptimum.better_iff.1 hbeaten)
    · rw [List.find?_append, hfirst]
      rfl

/-! ## One trial more -/

/-- What a summary knows of the trials that were recorded, in their order. -/
structure Sums (s : TrialSummary) (d : Direction) (trials : List Trial) : Prop where
  direction : s.direction = d
  completed : s.completed = trials.length
  passed : s.passed = trials.countP (·.Passes)
  failed : s.failed = trials.countP (¬·.Passes)
  leads : Leads d trials s.best s.bestTrial

variable {s : TrialSummary}

theorem record_of_failed (h : Trial.value? t.result = none) : s.record t =
    (.failed, { s with ongoing := s.ongoing - 1, completed := s.completed + 1, failed := s.failed + 1 }) := by
  simp only [record, h]

theorem record_of_better {x : Float} (h : Trial.value? t.result = some x) (hbeats : s.beats x = true) : s.record t =
    (.newBest, { s with ongoing := s.ongoing - 1, completed := s.completed + 1, passed := s.passed + 1,
                        bestTrial := Trial.index t.number, best := some x }) := by
  unfold record
  rw [h]
  exact if_pos hbeats

theorem record_of_not_better {x : Float} (h : Trial.value? t.result = some x) (hbeats : ¬s.beats x = true) :
    s.record t =
      (.passed, { s with ongoing := s.ongoing - 1, completed := s.completed + 1, passed := s.passed + 1 }) := by
  unfold record
  rw [h]
  exact if_neg hbeats

theorem Sums.beats_iff (h : s.Sums d trials) {x : Float} {v : ℚ} (hx : Holds x v) :
    s.beats x = true ↔ ∀ w ∈ values trials, d.Better v w := by
  rw [beats, h.direction]
  exact h.leads.beats_iff hx

theorem Sums.record (h : s.Sums d trials) (t : Trial) : (s.record t).2.Sums d (trials ++ [t]) := by
  have hbeats := @h.beats_iff
  obtain ⟨hdirection, hcompleted, hpassed, hfailed, hleads⟩ := h
  cases hvalue : Trial.value? t.result with
  | none =>
    have hexact := Trial.exactValue?_of_failed hvalue
    have hpasses : ¬t.Passes := Trial.exactValue?_eq_none_iff.1 hexact
    rw [record_of_failed hvalue]
    exact ⟨hdirection, by simp [hcompleted], by simp [hpassed, hpasses], by simp [hfailed, hpasses],
      hleads.append_of_failed hexact⟩
  | some x =>
    have hexact := Trial.exactValue?_of_value? hvalue
    have hpasses : t.Passes := Trial.isSome_exactValue?_iff.1 (by simp [hexact])
    have hholds := Trial.holds_of_value? hvalue
    by_cases hbetter : s.beats x = true
    · have hleads := Leads.append_of_better hholds hexact ((hbeats hholds).1 hbetter)
      rw [record_of_better hvalue hbetter]
      refine ⟨hdirection, by simp [hcompleted], by simp [hpassed, hpasses], by simp [hfailed, hpasses], ?_⟩
      -- the fields are taken out first, or `Trial.index` is unfolded to match them
      dsimp only
      exact hleads
    · rw [record_of_not_better hvalue hbetter]
      exact ⟨hdirection, by simp [hcompleted], by simp [hpassed, hpasses], by simp [hfailed, hpasses],
        hleads.append_of_not_better hexact (mt (hbeats hholds).2 hbetter)⟩

/-- What is answered to a trial, by the trials that were recorded before it. -/
structure Judges (outcome : TrialOutcome) (d : Direction) (earlier : List Trial) (t : Trial) : Prop where
  failed : outcome = .failed ↔ ¬t.Passes
  newBest : outcome = .newBest ↔ ∃ v, t.exactValue? = some v ∧ ∀ w ∈ values earlier, d.Better v w

theorem Sums.judges (h : s.Sums d trials) (t : Trial) : Judges (s.record t).1 d trials t := by
  cases hvalue : Trial.value? t.result with
  | none =>
    have hexact := Trial.exactValue?_of_failed hvalue
    rw [record_of_failed hvalue]
    exact ⟨by simp [Trial.exactValue?_eq_none_iff.1 hexact], by simp [hexact]⟩
  | some x =>
    have hexact := Trial.exactValue?_of_value? hvalue
    have hpasses : t.Passes := Trial.isSome_exactValue?_iff.1 (by simp [hexact])
    have hbeats := h.beats_iff (Trial.holds_of_value? hvalue)
    by_cases hbetter : s.beats x = true
    · rw [record_of_better hvalue hbetter]
      exact ⟨by simp [hpasses], by simpa [hexact] using hbeats.1 hbetter⟩
    · rw [record_of_not_better hvalue hbetter]
      exact ⟨by simp [hpasses], by simpa [hexact] using mt hbeats.2 hbetter⟩

end TrialSummary

/-! ## Runs -/

/-- What happens to a trial: it starts, or it ends. -/
inductive TrialStep where
  | start
  | record (t : Trial)

namespace TrialStep

/-- The trial that has ended. -/
def recorded? : TrialStep → Option Trial
  | .start => none
  | .record t => some t

/-- The trials that have ended, in their order. -/
def recorded (steps : List TrialStep) : List Trial := steps.filterMap recorded?

end TrialStep

namespace TrialSummary

open Trial (exactValue? values)
open TrialStep (recorded)

/-- The summary behind a step. -/
def step (s : TrialSummary) : TrialStep → TrialSummary
  | .start => s.startTrial
  | .record t => (s.record t).2

/-- The summary behind some steps. -/
def after (s : TrialSummary) (steps : List TrialStep) : TrialSummary := steps.foldl step s

variable {d : Direction} {trials : List Trial} {s : TrialSummary}

theorem sums_start (total : Nat) (d : Direction) : (start total d).Sums d [] where
  direction := rfl
  completed := rfl
  passed := rfl
  failed := rfl
  leads := .nothing rfl

/-- A trial that starts is not known yet. -/
theorem Sums.startTrial (h : s.Sums d trials) : s.startTrial.Sums d trials := { h with }

theorem sums_after (total : Nat) (d : Direction) (steps : List TrialStep) :
    ((start total d).after steps).Sums d (recorded steps) := by
  induction steps using List.reverseRecOn with
  | nil => exact sums_start total d
  | append_singleton steps step ih =>
    rw [after, List.foldl_append, recorded, List.filterMap_append]
    cases step with
    | start =>
      rw [show [TrialStep.start].filterMap TrialStep.recorded? = [] from rfl, List.append_nil]
      exact ih.startTrial
    | record t => exact ih.record t

/-! ## Finished lists -/

/-- A list of finished trials is summed up by a run in which each starts and ends. -/
theorem ofTrials_eq_after (trials : List Trial) (d : Direction) :
    ofTrials trials d = (start trials.length d).after (trials.flatMap fun t => [.start, .record t]) := by
  rw [ofTrials, after, List.foldl_flatMap]
  rfl

theorem recorded_of_finished (trials : List Trial) :
    recorded (trials.flatMap fun t => [.start, .record t]) = trials := by
  induction trials with
  | nil => rfl
  | cons t trials ih => exact congrArg (t :: ·) ih

theorem sums_ofTrials (trials : List Trial) (d : Direction) : (ofTrials trials d).Sums d trials := by
  have hsums := sums_after trials.length d (trials.flatMap fun t => [.start, .record t])
  rwa [recorded_of_finished, ← ofTrials_eq_after] at hsums

/-- A trial that starts and ends is neither one more of those declared nor one more of those that go on. -/
theorem record_startTrial (s : TrialSummary) (t : Trial) :
    (s.startTrial.record t).2.total = s.total ∧ (s.startTrial.record t).2.ongoing = s.ongoing := by
  cases hvalue : Trial.value? t.result with
  | none =>
    rw [record_of_failed hvalue]
    exact ⟨rfl, rfl⟩
  | some x =>
    by_cases hbeats : s.startTrial.beats x = true
    · rw [record_of_better hvalue hbeats]
      exact ⟨rfl, rfl⟩
    · rw [record_of_not_better hvalue hbeats]
      exact ⟨rfl, rfl⟩

theorem total_ofTrials (trials : List Trial) (d : Direction) :
    (ofTrials trials d).total = trials.length ∧ (ofTrials trials d).ongoing = 0 := by
  suffices ∀ (ts : List Trial) (s : TrialSummary),
      (ts.foldl (fun s t => (s.startTrial.record t).2) s).total = s.total ∧
      (ts.foldl (fun s t => (s.startTrial.record t).2) s).ongoing = s.ongoing from this trials _
  intro ts
  induction ts with
  | nil => exact fun _ => ⟨rfl, rfl⟩
  | cons t ts ih =>
    intro s
    obtain ⟨htotal, hongoing⟩ := record_startTrial s t
    exact ⟨(ih _).1.trans htotal, (ih _).2.trans hongoing⟩

/-! ## The number of the best trial -/

/-- Of the trials that attain the best value, the earliest. -/
def FirstBest (d : Direction) (trials : List Trial) (t : Trial) : Prop :=
  ∃ v, d.Optimum (values trials) v ∧ trials.find? (fun u => u.exactValue? == some v) = some t

theorem FirstBest.mem {t : Trial} (h : FirstBest d trials t) : t ∈ trials ∧ t.Passes := by
  obtain ⟨v, -, hfirst⟩ := h
  have hvalue : t.exactValue? = some v := by simpa using List.find?_some hfirst
  exact ⟨List.mem_of_find?_eq_some hfirst, Trial.isSome_exactValue?_iff.1 (by simp [hvalue])⟩

theorem FirstBest.unique {t u : Trial} (h : FirstBest d trials t) (h' : FirstBest d trials u) : t = u := by
  obtain ⟨v, hv, ht⟩ := h
  obtain ⟨w, hw, hu⟩ := h'
  rw [hv.unique hw, hu] at ht
  exact (Option.some.inj ht).symm

/-- Nothing is kept and no trial has passed, or the first optimum is kept. -/
theorem Sums.cases (h : s.Sums d trials) :
    ((∀ t ∈ trials, ¬t.Passes) ∧ s.best = none ∧ s.bestTrial = -1) ∨
    ∃ x v t, s.best = some x ∧ Holds x v ∧ d.Optimum (values trials) v ∧ FirstBest d trials t ∧
      s.bestTrial = Trial.index t.number := by
  have hleads := h.leads
  generalize s.best = best at hleads
  generalize s.bestTrial = number at hleads
  cases hleads with
  | nothing hnone => exact .inl ⟨Trial.values_eq_nil_iff.1 hnone, rfl, rfl⟩
  | value hholds hoptimum hfirst => exact .inr ⟨_, _, _, rfl, hholds, hoptimum, ⟨_, hoptimum, hfirst⟩, rfl⟩

/-- What a summary says of the trials that were recorded, in their order. -/
structure Describes (s : TrialSummary) (d : Direction) (trials : List Trial) : Prop where
  completed : s.completed = trials.length
  counted : s.completed = s.passed + s.failed
  passed : s.passed = trials.countP (·.Passes)
  none : (∀ t ∈ trials, ¬t.Passes) → s.best = none ∧ s.bestTrial = -1
  /-- The best value is the optimum, and the best trial the earliest that attains it. -/
  best : ∀ u ∈ trials, u.Passes → ∃ x v t, s.best = some x ∧ Holds x v ∧ d.Optimum (values trials) v ∧
    FirstBest d trials t ∧ s.bestTrial = t.number

/-- The upper half of the numbers of 64 bits is kept below zero. -/
theorem index_eq {n : Nat} (hn : n < 2 ^ 64) : Trial.index n = if n < 2 ^ 63 then (n : Int) else n - 2 ^ 64 := by
  have hrange : maxNat64 + 1 = 2 ^ 64 := rfl
  unfold Trial.index
  rw [hrange]
  unfold Int.bmod
  dsimp only
  split <;> split <;> omega

theorem Sums.describes (h : s.Sums d trials) (hnumbers : ∀ t ∈ trials, t.number < 2 ^ 63) : s.Describes d trials where
  completed := h.completed
  counted := by
    have hsplit := List.length_eq_countP_add_countP (fun t : Trial => decide t.Passes) (l := trials)
    rw [h.completed, h.passed, h.failed, hsplit]
    simp
  passed := h.passed
  none := by
    intro hnone
    rcases h.cases with ⟨-, hkept⟩ | ⟨-, -, t, -, -, -, hfirst, -⟩
    · exact hkept
    · exact absurd hfirst.mem.2 (hnone t hfirst.mem.1)
  best := by
    intro u hu hpasses
    rcases h.cases with ⟨hnone, -⟩ | ⟨x, v, t, hbest, hholds, hoptimum, hfirst, hnumber⟩
    · exact absurd hpasses (hnone u hu)
    · have hsmall := hnumbers t hfirst.mem.1
      rw [index_eq (by omega), if_pos hsmall] at hnumber
      exact ⟨x, v, t, hbest, hholds, hoptimum, hfirst, hnumber⟩

/-! ## Other orders -/

/-- The same counters and the same best value. -/
structure Alike (s s' : TrialSummary) : Prop where
  total : s.total = s'.total
  completed : s.completed = s'.completed
  ongoing : s.ongoing = s'.ongoing
  passed : s.passed = s'.passed
  failed : s.failed = s'.failed
  best : Option.Rel (fun x y => ∃ v, Holds x v ∧ Holds y v) s.best s'.best

theorem alike_of_perm (d : Direction) {trials' : List Trial} (hperm : trials'.Perm trials) :
    (ofTrials trials' d).Alike (ofTrials trials d) := by
  have h := sums_ofTrials trials d
  have h' := sums_ofTrials trials' d
  obtain ⟨htotal, hongoing⟩ := total_ofTrials trials d
  obtain ⟨htotal', hongoing'⟩ := total_ofTrials trials' d
  refine ⟨?_, ?_, ?_, ?_, ?_, ?_⟩
  · rw [htotal, htotal', hperm.length_eq]
  · rw [h.completed, h'.completed, hperm.length_eq]
  · rw [hongoing, hongoing']
  · rw [h.passed, h'.passed, hperm.countP_eq]
  · rw [h.failed, h'.failed, hperm.countP_eq]
  · rcases h.cases with ⟨hnone, hbest, -⟩ | ⟨x, v, t, hbest, hx, hoptimum, hfirst, -⟩
    · rcases h'.cases with ⟨-, hbest', -⟩ | ⟨-, -, t', -, -, -, hfirst', -⟩
      · rw [hbest, hbest']
        exact .none
      · exact absurd hfirst'.mem.2 (hnone t' (hperm.mem_iff.1 hfirst'.mem.1))
    · rcases h'.cases with ⟨hnone', -⟩ | ⟨y, w, t', hbest', hy, hoptimum', -, -⟩
      · exact absurd hfirst.mem.2 (hnone' t (hperm.mem_iff.2 hfirst.mem.1))
      · have hvalues : (values trials').Perm (values trials) := hperm.filterMap _
        have hsame : w = v := ((Direction.optimum_congr_perm hvalues).1 hoptimum').unique hoptimum
        rw [hbest, hbest']
        exact .some ⟨v, hsame ▸ hy, hx⟩

/-! ## Summaries of runs -/

/-- **The best trial is the first optimum.** Take trials with numbers below `2 ^ 63`. A summary that has seen them end,
however many were declared and whatever else has started meanwhile, has counted each as passed or failed; with none that
has passed it keeps no value and -1, and otherwise it keeps the optimum of their values and the number of the earliest
trial that attains it. A trial that ends next has failed exactly if its text reports an error or is not a finite number,
and it is a new best one exactly if it is strictly better than all that have passed. This holds of a finished list too,
and its counters and its best value do not depend on the order of the list. -/
theorem best_trial_first_optimum (d : Direction) {trials : List Trial} (hnumbers : ∀ t ∈ trials, t.number < 2 ^ 63) :
    (∀ (total : Nat) (steps : List TrialStep), recorded steps = trials →
      ((start total d).after steps).Describes d trials ∧
      ∀ t, Judges (((start total d).after steps).record t).1 d trials t) ∧
    (ofTrials trials d).Describes d trials ∧
    ∀ trials' : List Trial, trials'.Perm trials → (ofTrials trials' d).Alike (ofTrials trials d) := by
  have hdescribes : ∀ s : TrialSummary, s.Sums d trials → s.Describes d trials := fun s h => h.describes hnumbers
  refine ⟨?_, hdescribes _ (sums_ofTrials trials d), fun trials' hperm => ?_⟩
  · rintro total steps rfl
    have hsums := sums_after total d steps
    exact ⟨hdescribes _ hsums, hsums.judges⟩
  · exact alike_of_perm d hperm

/-- Two trials with the same least value, one that has failed and one that is not a number. -/
def tiedTrials : List Trial :=
  [⟨0, "12.5"⟩, ⟨1, "ERROR: pod crashed"⟩, ⟨2, " 9.1 "⟩, ⟨3, "NaN"⟩, ⟨4, "9.1"⟩]

/-- Of the two the earlier one is the best trial, and two trials have failed. -/
theorem tiedTrials_best :
    (∀ t ∈ tiedTrials, t.number < 2 ^ 63) ∧ (ofTrials tiedTrials .minimize).Describes .minimize tiedTrials ∧
    ((start 9 .minimize).after (.start :: tiedTrials.map .record)).Describes .minimize tiedTrials ∧
    (ofTrials tiedTrials .minimize).bestTrial = 2 ∧ (ofTrials tiedTrials .minimize).failed = 2 := by
  have hnumbers : ∀ t ∈ tiedTrials, t.number < 2 ^ 63 := by decide
  obtain ⟨hrun, hlist, -⟩ := best_trial_first_optimum .minimize hnumbers
  exact ⟨hnumbers, hlist, (hrun 9 (.start :: tiedTrials.map .record) rfl).1, by decide +kernel, by decide +kernel⟩

/-- **A negative number of the best trial means that none has passed, or that the best one's number does not fit**: with
numbers of 64 bits, the number kept is negative exactly if no trial has passed or the earliest one with the best value
has a number from `2 ^ 63` on, which comes out lower by `2 ^ 64`. No value is kept exactly if no trial has passed. -/
theorem negative_best_trial (d : Direction) (total : Nat) {steps : List TrialStep}
    (hnumbers : ∀ t ∈ recorded steps, t.number < 2 ^ 64) :
    (((start total d).after steps).bestTrial < 0 ↔
      (∀ t ∈ recorded steps, ¬t.Passes) ∨ ∃ t, FirstBest d (recorded steps) t ∧ 2 ^ 63 ≤ t.number) ∧
    (∀ t, FirstBest d (recorded steps) t → 2 ^ 63 ≤ t.number →
      ((start total d).after steps).bestTrial = t.number - 2 ^ 64) ∧
    (((start total d).after steps).best = none ↔ ∀ t ∈ recorded steps, ¬t.Passes) := by
  rcases (sums_after total d steps).cases with ⟨hnone, hbest, hnumber⟩ | ⟨x, v, t, hbest, -, -, hfirst, hnumber⟩
  · rw [hbest, hnumber]
    refine ⟨iff_of_true (by decide) (.inl hnone), ?_, iff_of_true rfl hnone⟩
    intro t hfirst
    exact absurd hfirst.mem.2 (hnone t hfirst.mem.1)
  · obtain ⟨hmem, hpasses⟩ := hfirst.mem
    rw [index_eq (hnumbers t hmem)] at hnumber
    rw [hbest, hnumber]
    refine ⟨?_, ?_, ?_⟩
    · constructor
      · intro hnegative
        refine .inr ⟨t, hfirst, ?_⟩
        split at hnegative <;> omega
      · rintro (hnone | ⟨u, hu, hlarge⟩)
        · exact absurd hpasses (hnone t hmem)
        · rw [hu.unique hfirst] at hlarge
          have := hnumbers t hmem
          split <;> omega
    · intro u hu hlarge
      rw [hu.unique hfirst] at hlarge ⊢
      rw [if_neg (by omega)]
    · exact iff_of_false nofun fun hnone => hnone t hmem hpasses

/-- A trial that has passed, with the greatest number of 64 bits. -/
def lastNumber : List TrialStep := [.start, .record ⟨2 ^ 64 - 1, "1.0"⟩]

/-- The best trial is kept as -1, as if none had passed. -/
theorem lastNumber_kept_as_none :
    (∀ t ∈ recorded lastNumber, t.number < 2 ^ 64) ∧ ((start 1 .minimize).after lastNumber).bestTrial = -1 ∧
    ((start 1 .minimize).after lastNumber).passed = 1 ∧
    ∃ t, FirstBest .minimize (recorded lastNumber) t ∧ 2 ^ 63 ≤ t.number := by
  have hnumbers : ∀ t ∈ recorded lastNumber, t.number < 2 ^ 64 := by decide
  have hkept : ((start 1 .minimize).after lastNumber).bestTrial = -1 := by decide +kernel
  have hpassed : ¬∀ t ∈ recorded lastNumber, ¬t.Passes := by decide +kernel
  obtain ⟨hnegative, -⟩ := negative_best_trial .minimize 1 hnumbers
  rw [hkept] at hnegative
  exact ⟨hnumbers, hkept, by decide +kernel, (hnegative.1 (by decide)).resolve_left hpassed⟩

end TrialSummary

end TuningAdvisor
