import Mathlib.Algebra.Order.Field.Basic
import Mathlib.Algebra.Order.Ring.Rat
import Mathlib.Tactic.Linarith
import TuningAdvisor.Recommendation.HeapSizing
/-!
# The heap percentage and its limits: `MemorySizing::percentage`

In exact numbers, a measured footprint gives a number that is clamped between the configured minimum, the static
percentage and the configured maximum. The answer is this number to the nearest tenth, and rounding keeps the order of
numbers: **a dynamic percentage keeps every limit that is not itself rounded past its own value**
(`HeapSizing.percentage_keeps_limits`). A static percentage is held by the minimum and by the table; the configured
maximum has no part in it (`HeapSizing.lowMaximum_exceeded`).
-/

namespace TuningAdvisor

namespace Arithmetic

theorem max_rat (x y : Rat) : Arithmetic.max x y = Max.max x y := (max_def x y).symm

theorem min_rat (x y : Rat) : Arithmetic.min x y = Min.min x y := (min_def x y).symm

end Arithmetic

/-! ## Rounding -/

namespace Exact

theorem floor_add_half_nonneg {x : Rat} (h : 0 ≤ x) : (0 : Rat) ≤ (x + 1 / 2).floor := by
  have hfloor : 0 ≤ (x + 1 / 2).floor := Rat.le_floor_iff.2 (by push_cast; linarith)
  exact_mod_cast hfloor

theorem round_mono {x y : Rat} (h : x ≤ y) : round x ≤ round y := by
  unfold round
  split <;> split
  · have hfloor : (1 / 2 - y).floor ≤ (1 / 2 - x).floor := Rat.floor_monotone (by linarith)
    exact neg_le_neg (by exact_mod_cast hfloor)
  · -- a negative number is not rounded above zero, the other one not below
    rename_i hx hy
    have hx : (0 : Rat) ≤ (-x + 1 / 2).floor := floor_add_half_nonneg (by linarith)
    have hy : (0 : Rat) ≤ (y + 1 / 2).floor := floor_add_half_nonneg (by linarith)
    rw [neg_add_eq_sub] at hx
    linarith
  · linarith
  · have hfloor : (x + 1 / 2).floor ≤ (y + 1 / 2).floor := Rat.floor_monotone (by linarith)
    exact_mod_cast hfloor

theorem exists_round_eq_intCast (x : Rat) : ∃ n : Int, round x = n := by
  unfold round
  split
  · exact ⟨-(1 / 2 - x).floor, (Int.cast_neg _).symm⟩
  · exact ⟨_, rfl⟩

theorem floor_add_half (n : Int) : ((n : Rat) + 1 / 2).floor = n := by
  refine le_antisymm (Int.lt_add_one_iff.1 (Rat.floor_lt_iff.2 ?_)) (Rat.le_floor_iff.2 (by linarith))
  push_cast
  linarith

theorem round_intCast (n : Int) : round n = n := by
  unfold round
  split
  · have hfloor := floor_add_half (-n)
    rw [Int.cast_neg, neg_add_eq_sub] at hfloor
    rw [hfloor, Int.cast_neg, neg_neg]
  · rw [floor_add_half]

end Exact

namespace HeapSizing

open Arithmetic

theorem roundTenth_mono {x y : Rat} (h : x ≤ y) : roundTenth x ≤ roundTenth y := by
  have hten : (0 : Rat) ≤ ofNat 10 := Nat.cast_nonneg 10
  exact div_le_div_of_nonneg_right (Exact.round_mono (mul_le_mul_of_nonneg_right h hten)) hten

/-- A whole number of tenths. -/
def InTenths (x : Rat) : Prop := ∃ n : Int, x = n / 10

theorem inTenths_roundTenth (x : Rat) : InTenths (roundTenth x) := by
  obtain ⟨n, hround⟩ := Exact.exists_round_eq_intCast (x * ofNat 10)
  exact ⟨n, congrArg (· / 10) hround⟩

theorem roundTenth_of_inTenths {x : Rat} (h : InTenths x) : roundTenth x = x := by
  obtain ⟨n, rfl⟩ := h
  have hten : (ofNat 10 : Rat) = 10 := rfl
  rw [roundTenth, hten, div_mul_cancel₀ (n : Rat) (by norm_num)]
  exact congrArg (· / 10) (Exact.round_intCast n)

/-! ## Static percentages -/

theorem tierOf_le {memoryMb : Rat} {tiers : List (Nat × Nat)} {top bound : Nat} (htiers : ∀ t ∈ tiers, t.2 ≤ bound)
    (htop : top ≤ bound) : tierOf memoryMb tiers top ≤ bound := by
  unfold tierOf
  cases hfound : tiers.find? fun tier => le memoryMb (ofNat tier.1) with
  | none => exact htop
  | some tier => exact htiers tier (List.mem_of_find?_eq_some hfound)

variable (s : HeapSizing Rat) (memoryMb cores : Rat)

theorem minPercent_le_static : s.minPercent ≤ s.staticPercentage memoryMb cores := by
  rw [staticPercentage, max_rat]
  exact le_max_right _ _

/-- No entry of the table is above the one of the largest containers. -/
theorem static_le : s.staticPercentage memoryMb cores ≤ Max.max (topBucket : Rat) s.minPercent := by
  have hbucket : tierOf memoryMb buckets topBucket ≤ topBucket := tierOf_le (by decide) le_rfl
  have htable : (tierOf memoryMb buckets topBucket : Rat) ≤ topBucket := by exact_mod_cast hbucket
  have hdeducted : (0 : Rat) ≤ ofNat (deduction cores) := Nat.cast_nonneg _
  rw [staticPercentage, max_rat]
  exact max_le_max ((sub_le_self _ hdeducted).trans htable) le_rfl

theorem inTenths_static (h : InTenths s.minPercent) : InTenths (s.staticPercentage memoryMb cores) := by
  rw [staticPercentage, max_rat]
  rcases max_choice (ofNat (tierOf memoryMb buckets topBucket) - ofNat (deduction cores) : Rat) s.minPercent with
    htable | hmin
  · rw [htable]
    refine ⟨(tierOf memoryMb buckets topBucket - deduction cores) * 10, ?_⟩
    push_cast
    exact (mul_div_cancel_right₀ _ (by norm_num)).symm
  · rw [hmin]
    exact h

/-! ## Both modes -/

/-- The percentage is the static one, or the dynamic one of a footprint that is not negligible. -/
theorem percentage_cases (h : History) :
    s.percentage memoryMb cores h = (s.staticPercentage memoryMb cores, .static) ∨
      ∃ footprint, s.percentage memoryMb cores h = (s.dynamicPercentage memoryMb cores footprint, .dynamic) := by
  unfold percentage
  split
  · rename_i footprint hfootprint
    split
    · exact .inr ⟨footprint, rfl⟩
    · exact .inl rfl
  · exact .inl rfl

/-- What is rounded lies within all limits. -/
theorem exists_within_limits (hle : s.minPercent ≤ s.maxPercent) (footprint : Rat) :
    ∃ x, s.dynamicPercentage memoryMb cores footprint = roundTenth x ∧ s.minPercent ≤ x ∧
      x ≤ s.staticPercentage memoryMb cores ∧ x ≤ s.maxPercent := by
  refine ⟨_, rfl, ?_, ?_, ?_⟩ <;> simp only [min_rat, max_rat]
  · exact le_min (le_min (le_max_right _ _) (s.minPercent_le_static memoryMb cores)) hle
  · exact (min_le_left _ _).trans (min_le_right _ _)
  · exact min_le_right _ _

/-- What holds a percentage in either mode. -/
structure KeepsLimits (percent : Rat) (mode : SizingMode) : Prop where
  /-- A static percentage is at least the minimum, and at most the larger of it and the top of the table: it keeps a
  maximum that is not below this top. -/
  static : mode = .static →
    percent = s.staticPercentage memoryMb cores ∧ s.minPercent ≤ percent ∧
      percent ≤ Max.max (topBucket : Rat) s.minPercent ∧ ((topBucket : Rat) ≤ s.maxPercent → percent ≤ s.maxPercent)
  /-- A dynamic one is given in tenths. -/
  rounded : mode = .dynamic → InTenths percent
  /-- It keeps the minimum, unless this is rounded down. -/
  minimum : mode = .dynamic → s.minPercent ≤ roundTenth s.minPercent → s.minPercent ≤ percent
  /-- It keeps the maximum, unless this is rounded up. -/
  maximum : mode = .dynamic → roundTenth s.maxPercent ≤ s.maxPercent → percent ≤ s.maxPercent
  /-- It keeps the static percentage, unless this is rounded up. -/
  ceiling : mode = .dynamic → roundTenth (s.staticPercentage memoryMb cores) ≤ s.staticPercentage memoryMb cores →
    percent ≤ s.staticPercentage memoryMb cores
  /-- It keeps all of them where the configured ones are given in tenths. -/
  tenths : mode = .dynamic → InTenths s.minPercent → InTenths s.maxPercent →
    s.minPercent ≤ percent ∧ percent ≤ s.maxPercent ∧ percent ≤ s.staticPercentage memoryMb cores

/-- **The heap percentage keeps its limits**, for every container and every history, if the configured minimum is not
above the configured maximum: in static mode the minimum and the top of the table, in dynamic mode the minimum, the
maximum and the static percentage, as far as they are not themselves rounded past their own values. -/
theorem percentage_keeps_limits (h : History) (hle : s.minPercent ≤ s.maxPercent) :
    s.KeepsLimits memoryMb cores (s.percentage memoryMb cores h).1 (s.percentage memoryMb cores h).2 := by
  rcases s.percentage_cases memoryMb cores h with hstatic | ⟨footprint, hdynamic⟩
  · rw [hstatic]
    refine ⟨fun _ => ?_, nofun, nofun, nofun, nofun, nofun⟩
    have htable := s.static_le memoryMb cores
    exact ⟨rfl, s.minPercent_le_static memoryMb cores, htable, fun htop => htable.trans (max_le htop hle)⟩
  · obtain ⟨x, hround, hmin, hceiling, hmax⟩ := s.exists_within_limits memoryMb cores hle footprint
    rw [hdynamic, hround]
    have hmin := roundTenth_mono hmin
    have hmax := roundTenth_mono hmax
    have hceiling := roundTenth_mono hceiling
    refine ⟨nofun, fun _ => inTenths_roundTenth x, fun _ hkept => hkept.trans hmin, fun _ hkept => hmax.trans hkept,
      fun _ hkept => hceiling.trans hkept, fun _ htenths htenths' => ?_⟩
    rw [roundTenth_of_inTenths htenths] at hmin
    rw [roundTenth_of_inTenths htenths'] at hmax
    rw [roundTenth_of_inTenths (s.inTenths_static memoryMb cores htenths)] at hceiling
    exact ⟨hmin, hmax, hceiling⟩

/-- An interval with so many bytes outside the heap. -/
def nonHeapHistory (bytes : Float) : History :=
  let metrics : Metrics := .ofList [(nonHeapMetric, { aggregation := { max := some bytes } })]
  .ofList [(⟨1650000900, 0, by decide⟩,
    { start := ⟨1650000000, 0, by decide⟩, finish := ⟨1650000900, 0, by decide⟩, metrics := some metrics })]

/-- With the limits of the default configuration, 300 mebibytes of one gibibyte leave 55.8 percent. -/
theorem nonHeapHistory_keeps_limits :
    ∃ s : HeapSizing Rat, s = ofConfig {} ∧ s.minPercent ≤ s.maxPercent ∧
      s.percentage 1024 4 (nonHeapHistory 314572800.0) = (279 / 5, .dynamic) ∧
      s.minPercent ≤ 279 / 5 ∧ 279 / 5 ≤ s.maxPercent ∧ 279 / 5 ≤ s.staticPercentage 1024 4 := by
  have hle : (ofConfig {} : HeapSizing Rat).minPercent ≤ (ofConfig {} : HeapSizing Rat).maxPercent := by decide +kernel
  have hanswer :
      (ofConfig {} : HeapSizing Rat).percentage 1024 4 (nonHeapHistory 314572800.0) = (279 / 5, .dynamic) := by
    decide +kernel
  have hkeeps := percentage_keeps_limits (ofConfig {}) 1024 4 (nonHeapHistory 314572800.0) hle
  rw [hanswer] at hkeeps
  exact ⟨_, rfl, hle, hanswer, hkeeps.tenths rfl ⟨250, by decide +kernel⟩ ⟨900, by decide +kernel⟩⟩

/-- At most sixty percent. -/
def lowMaximum : HeapSizing Rat := { minPercent := 25, maxPercent := 60, threadMemoryMb := 1 }

/-- Exactly 25.05 percent, which is no whole number of tenths. -/
def oddLimits : HeapSizing Rat := { minPercent := 501 / 20, maxPercent := 501 / 20, threadMemoryMb := 1 }

/-- A static percentage above the configured maximum, and a dynamic one that is rounded above it. -/
theorem lowMaximum_exceeded :
    (0 < lowMaximum.minPercent ∧ lowMaximum.minPercent ≤ lowMaximum.maxPercent ∧ lowMaximum.maxPercent ≤ 100 ∧
      (lowMaximum.percentage 2048 2 ∅).2 = .static ∧
      ¬(lowMaximum.percentage 2048 2 ∅).1 ≤ lowMaximum.maxPercent) ∧
    (0 < oddLimits.minPercent ∧ oddLimits.minPercent ≤ oddLimits.maxPercent ∧ oddLimits.maxPercent ≤ 100 ∧
      (oddLimits.percentage 1024 4 (nonHeapHistory 943718400.0)).2 = .dynamic ∧
      ¬(oddLimits.percentage 1024 4 (nonHeapHistory 943718400.0)).1 ≤ oddLimits.maxPercent) := by
  decide +kernel

end HeapSizing

end TuningAdvisor
