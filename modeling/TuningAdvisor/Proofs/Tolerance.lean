import TuningAdvisor.Admission.Ingestion
import TuningAdvisor.Proofs.FloatArithmetic
import TuningAdvisor.Proofs.Ingestion
/-!
# The length of a window: `ResultValidator::check_duration`

The length of a result's window is compared with the declared one in floats. **Up to a tolerance of `2 ^ 43`
seconds the comparison is as good as an exact one** (`within_of_not_lt`): a length that is off by one
millisecond more than the tolerance keeps at least `2 ^ -10` of it through every rounding. From `2 ^ 43`
seconds on, that much can be lost.
-/

namespace TuningAdvisor

namespace Rounding

variable {x M A F D : ℚ} {N T E m : ℤ}

/-! ## What rounding keeps of an excess -/

/-- A number that exceeds a whole one by a thousandth keeps an excess of `2 ^ -10` when it is rounded. -/
theorem Nearest.above (h : Nearest A x) (hx : N + 1 / 1000 ≤ x) (hlow : -2 ^ 44 ≤ x) (hhigh : x ≤ 2 ^ 44) :
    N + 1 / 1024 ≤ A := by
  have hN : (N : ℚ) < 2 ^ 44 := by linarith
  have hN : N < 2 ^ 44 := by exact_mod_cast hN
  by_cases hfar : N < -2 ^ 44
  · have hend : -2 ^ 44 ≤ A := h.le (onGrid_pow 44).neg hlow
    have : (N : ℚ) + 1 ≤ -2 ^ 44 := by exact_mod_cast hfar
    linarith
  by_cases hsmall : -2 ^ 43 ≤ N ∧ N < 2 ^ 43
  · -- the excess is on the grid
    have hgrid := onGrid_units (k := 1024 * N + 1) 10 (by rw [abs_le]; omega) (by norm_num)
    have hvalue : ((1024 * N + 1 : ℤ) : ℚ) / 2 ^ 10 = N + 1 / 1024 := by push_cast; ring
    exact hvalue ▸ h.le hgrid (by rw [hvalue]; linarith)
  · -- twice the excess is, and the grid has nothing between it and the whole number
    have hgrid := onGrid_units (k := 512 * N + 1) 9 (by rw [abs_le]; omega) (by norm_num)
    have hvalue : ((512 * N + 1 : ℤ) : ℚ) / 2 ^ 9 = N + 1 / 512 := by push_cast; ring
    rw [hvalue] at hgrid
    by_contra hlt
    have hbelow : x < N + 1 / 512 := by
      by_contra hge
      have := h.le hgrid (not_lt.1 hge)
      linarith
    have habove : (N : ℚ) < A := by
      have hnearest := h.nearest _ hgrid
      rw [abs_of_pos (by linarith : (0 : ℚ) < N + 1 / 512 - x)] at hnearest
      have := (abs_le.1 hnearest).1
      linarith
    have hbig : 2 ^ (52 - (9 : ℕ) : ℤ) ≤ |A| := by
      norm_num
      rcases (by omega : N + 1 ≤ -2 ^ 43 ∨ 2 ^ 43 ≤ N) with hneg | hpos
      · have : (N : ℚ) + 1 ≤ -2 ^ 43 := by exact_mod_cast hneg
        exact le_abs'.2 (.inl (by linarith))
      · have : (2 : ℚ) ^ 43 ≤ N := by exact_mod_cast hpos
        exact le_abs'.2 (.inr (by linarith))
    obtain ⟨j, rfl⟩ := h.onGrid.units 9 hbig
    norm_num at habove hlt
    have hlow : (512 * N : ℚ) < j := by linarith
    have hhigh : (j : ℚ) < 512 * N + 1 := by linarith
    norm_cast at hlow hhigh
    omega

/-! ## One side of the comparison -/

/-- A length that is not too long for the rounded numbers is not too long by a millisecond. -/
theorem lt_of_rounded (hM : |M| ≤ 1000 * 2 ^ 44) (hA : Nearest A (M / 1000)) (hF : Nearest F E) (hD : Nearest D (A - F))
    (hlow : 0 ≤ T) (hhigh : T < 2 ^ 43) (h : D ≤ T) : M < 1000 * (E + T) + 1 := by
  by_contra hlong
  rw [abs_le] at hM
  have hx : ((E + T : ℤ) : ℚ) + 1 / 1000 ≤ M / 1000 := by push_cast; linarith
  have hE : E < 2 ^ 53 := by
    have : (E + T : ℚ) < 2 ^ 44 := by linarith
    have : E + T < 2 ^ 44 := by exact_mod_cast this
    omega
  by_cases hexact : -2 ^ 53 ≤ E
  · -- the declared length is held as it is
    have habove := hA.above hx (by linarith) (by linarith)
    rw [hF.eq (.int (by rw [abs_le]; omega))] at hD
    have hgrid := onGrid_units (k := 1024 * T + 1) 10 (by rw [abs_le]; omega) (by norm_num)
    have hvalue : ((1024 * T + 1 : ℤ) : ℚ) / 2 ^ 10 = T + 1 / 1024 := by push_cast; ring
    have hexcess := hD.le hgrid (by rw [hvalue]; push_cast at habove; linarith)
    rw [hvalue] at hexcess
    linarith
  · -- it is so far off that rounding does not matter
    have hFfar : F ≤ -2 ^ 53 := by
      refine hF.ge (onGrid_pow 53).neg ?_
      exact_mod_cast (not_le.1 hexact).le
    have hAfar : -2 ^ 44 ≤ A := hA.le (onGrid_pow 44).neg (by linarith)
    have hDfar : 2 ^ 43 ≤ D := hD.le (onGrid_pow 43) (by linarith)
    have : (T : ℚ) < 2 ^ 43 := by exact_mod_cast hhigh
    linarith

/-- A difference of rounded numbers within the tolerance is a difference within the tolerance. -/
theorem abs_lt_of_rounded (hM : |M| ≤ 1000 * 2 ^ 44) (hA : Nearest A (M / 1000)) (hF : Nearest F E)
    (hD : Nearest D (A - F)) (hlow : 0 ≤ T) (hhigh : T < 2 ^ 43) (h : |D| ≤ T) : |M - 1000 * E| < 1000 * T + 1 := by
  rw [abs_le] at h
  have hlong := lt_of_rounded hM hA hF hD hlow hhigh h.2
  have hshort := lt_of_rounded (M := -M) (E := -E) (A := -A) (F := -F) (D := -D) (by rwa [abs_neg])
    (by rw [neg_div]; exact hA.neg) (by push_cast; exact hF.neg) (by rw [neg_sub_neg, ← neg_sub]; exact hD.neg)
    hlow hhigh (by linarith)
  push_cast at hshort
  rw [abs_lt]
  constructor <;> linarith

/-! ## Milliseconds -/

/-- Up to `2 ^ 54`, every second whole number is on the grid, so that rounding moves none over it. -/
theorem Nearest.ge_even (h : Nearest M m) (hm : |m| ≤ 1000 * 2 ^ 44) {n : ℤ} (hn : 2 * n ≤ m) (hlow : -2 ^ 53 ≤ n) :
    (2 * n : ℤ) ≤ M := by
  rw [abs_le] at hm
  refine h.le ⟨n, 1, by rw [abs_le]; omega, by norm_num, by push_cast; ring⟩ ?_
  exact_mod_cast hn

/-- Whole milliseconds are rounded first, and by this lose one of them at most. -/
theorem le_of_lt_rounded (h : Nearest M m) (hm : |m| ≤ 1000 * 2 ^ 44) (hM : M < 1000 * (E + T) + 1) :
    m ≤ 1000 * (E + T) + 1 := by
  by_contra hlong
  by_cases hlow : -2 ^ 53 ≤ 500 * (E + T) + 1
  · have := h.ge_even hm (n := 500 * (E + T) + 1) (by omega) hlow
    push_cast at this
    linarith
  · have := h.ge_even hm (n := -2 ^ 53) (by rw [abs_le] at hm; omega) le_rfl
    have : (2 * -2 ^ 53 : ℤ) < (1000 * (E + T) + 1 : ℤ) := by exact_mod_cast this.trans_lt hM
    omega

/-! ## The comparison in floats -/

theorem holds_thousand : Holds 1000.0 1000 := by
  have hc : Canonical (1000 * 2 ^ 43) (-43) := ⟨by norm_num, by norm_num, by norm_num, .inl (by norm_num)⟩
  have h : Value (.finite .positive (1000 * 2 ^ 43) (-43) (by norm_num)) 1000 := .of_eq _ hc (by norm_num)
  exact h

/-- **A length that the comparison lets pass is within the tolerance in exact arithmetic**, but for one
millisecond if it is more than `2 ^ 53` of them. -/
theorem within_of_not_lt (hm : |m| ≤ 1000 * 2 ^ 44) (hE : |E| ≤ 2 ^ 63) (hlow : -2 ^ 63 ≤ T) (hhigh : T < 2 ^ 43)
    (h : ¬ Float.ofInt T < Binary64.abs (Float.ofInt m / 1000.0 - Float.ofInt E)) :
    |m - 1000 * E| ≤ 1000 * T + 1 ∧ (|m| ≤ 2 ^ 53 → |m - 1000 * E| ≤ 1000 * T) := by
  obtain ⟨M, hM, hMholds⟩ := exists_nearest_ofInt (n := m) (by omega)
  obtain ⟨F, hF, hFholds⟩ := exists_nearest_ofInt (n := E) (by omega)
  obtain ⟨B, hB, hBholds⟩ := exists_nearest_ofInt (n := T) (by rw [abs_lt]; omega)
  have hMq : |M| ≤ 1000 * 2 ^ 44 := hM.abs_le_grid ⟨1000, 44, by norm_num, by norm_num, by norm_num⟩ (by exact_mod_cast hm)
  have hFq : |F| ≤ 2 ^ 63 := hF.abs_le_grid (onGrid_pow 63) (by exact_mod_cast hE)
  have hquotient : |M / 1000| ≤ 2 ^ 44 := by
    rw [abs_div, abs_of_pos (by norm_num : (0 : ℚ) < 1000), div_le_iff₀ (by norm_num)]
    linarith
  obtain ⟨A, hA, hAholds⟩ := hMholds.exists_div holds_thousand (by norm_num)
    (lt_pow_of_lt (k := 45) (by norm_num) (by linarith))
  have hAq := hA.abs_le_grid (onGrid_pow 44) hquotient
  obtain ⟨D, hD, hDholds⟩ := hAholds.exists_sub hFholds
    (lt_pow_of_lt (k := 64) (by norm_num) ((abs_sub A F).trans_lt (by linarith)))
  rw [hBholds.lt_iff hDholds.abs, not_lt] at h
  have hpos : 0 ≤ T := by
    by_contra hneg
    have hB : B ≤ -1 := hB.ge (onGrid_pow 0).neg (by exact_mod_cast (by omega : T ≤ -1))
    have := abs_nonneg D
    linarith
  rw [hB.eq (.int (by rw [abs_le]; omega))] at h
  have hwithin := abs_lt_of_rounded hMq hA hF hD hpos hhigh h
  refine ⟨?_, fun hexact => ?_⟩
  · rw [abs_lt] at hwithin
    have hlong := le_of_lt_rounded (T := T) hM hm (by linarith)
    have hshort := le_of_lt_rounded (m := -m) (E := -E) (T := T) (by push_cast; exact hM.neg) (by rwa [abs_neg])
      (by push_cast; linarith)
    rw [abs_le]
    omega
  · rw [hM.eq (.int hexact)] at hwithin
    have : |m - 1000 * E| < 1000 * T + 1 := by exact_mod_cast hwithin
    omega

/-- Of a tolerance of `2 ^ 43` seconds this is no longer true: a length too short by a millisecond passes. -/
example : ¬ Float.ofInt (2 ^ 43) <
    Binary64.abs (Float.ofInt (1000 * 2 ^ 42 - 1) / 1000.0 - Float.ofInt (2 ^ 42 + 2 ^ 43)) := by
  decide +kernel

/-- Nor of the last millisecond of a length above `2 ^ 53`: one too long by it passes a tolerance of 5 seconds. -/
example : ¬ Float.ofInt 5 <
    Binary64.abs (Float.ofInt 9007199254741001 / 1000.0 - Float.ofInt 9007199254736) := by
  decide +kernel

end Rounding

/-! ## The check -/

/-- No two instants are farther apart. -/
theorem Instant.abs_wholeMillis_since_le (a b : Instant) : |wholeMillis (b.since a)| ≤ 1000 * 2 ^ 44 := by
  obtain ⟨halow, hahigh, hananos⟩ := a.inRange
  obtain ⟨hblow, hbhigh, hbnanos⟩ := b.inRange
  have hspan : maxSeconds - minSeconds ≤ 2 ^ 44 - 4 := by decide
  have hsince : |b.since a| ≤ 2 ^ 44 * 1000000000 := by
    unfold since second
    rw [abs_le]
    dsimp only
    split <;> [skip; split] <;> omega
  have hwhole : (wholeMillis (b.since a)).natAbs = (b.since a).natAbs / 1000000 := Int.natAbs_tdiv _ _
  rw [abs_le] at hsince ⊢
  omega

theorem Binary64.abs_toInt64_le (x : Float) : |toInt64 x| ≤ 2 ^ 63 := by
  unfold toInt64 saturate minInt64 maxInt64
  split
  · norm_num
  · split <;> norm_num
  · dsimp only
    rw [abs_le]
    omega

theorem Quantity.abs_durationSeconds_le {input : String} {n : Int} (h : durationSeconds Float input = .ok n) :
    |n| ≤ 2 ^ 63 := by
  obtain ⟨⟨number, unit⟩, -, h⟩ := of_except_bind_ok h
  dsimp only at h
  split at h
  · cases h
    exact Binary64.abs_toInt64_le _
  · cases h

namespace Experiment

/-- A result window is as long as the experiment declares, as far as the check can tell. -/
structure AsDeclared (e : Experiment) (c : Config) (start finish : Instant) : Prop where
  positive : 0 < Instant.wholeMillis (finish.since start)
  accepted : ∃ seconds, Quantity.durationSeconds Float (e.measurementDuration c) = .ok seconds ∧
    ¬ Float.ofInt c.toleranceSeconds <
      Binary64.abs (Float.ofInt (Instant.wholeMillis (finish.since start)) / 1000.0 - Float.ofInt seconds)

theorem checkDuration_ok_iff {e : Experiment} {c : Config} {start finish : Instant} :
    e.checkDuration c start finish = .ok () ↔ e.AsDeclared c start finish := by
  unfold checkDuration
  dsimp only
  constructor
  · intro h
    split at h
    · cases h
    · rename_i hpositive
      split at h
      · cases h
      · rename_i seconds hseconds
        split at h
        · cases h
        · rename_i haccepted
          exact ⟨not_le.1 hpositive, seconds, hseconds, haccepted⟩
  · rintro ⟨hpositive, seconds, hseconds, haccepted⟩
    simp only [not_le.2 hpositive, hseconds, haccepted, if_false]
    rfl

/-- A result window is off its declared length by no more than the tolerance. The milliseconds are counted exactly
up to `2 ^ 53` of them; beyond, one may be missed. -/
def WithinTolerance (e : Experiment) (c : Config) (start finish : Instant) : Prop :=
  ∃ seconds, Quantity.durationSeconds Float (e.measurementDuration c) = .ok seconds ∧
    let off := |Instant.wholeMillis (finish.since start) - 1000 * seconds|
    off ≤ 1000 * c.toleranceSeconds + 1 ∧
      (Instant.wholeMillis (finish.since start) ≤ 2 ^ 53 → off ≤ 1000 * c.toleranceSeconds)

/-- **What the check accepts is within the tolerance**, if the tolerance is below `2 ^ 43` seconds. -/
theorem AsDeclared.withinTolerance {e : Experiment} {c : Config} {start finish : Instant}
    (h : e.AsDeclared c start finish) (hlow : -2 ^ 63 ≤ c.toleranceSeconds) (hhigh : c.toleranceSeconds < 2 ^ 43) :
    e.WithinTolerance c start finish := by
  obtain ⟨seconds, hseconds, haccepted⟩ := h.accepted
  obtain ⟨hall, hexact⟩ := Rounding.within_of_not_lt (Instant.abs_wholeMillis_since_le start finish)
    (Quantity.abs_durationSeconds_le hseconds) hlow hhigh haccepted
  refine ⟨seconds, hseconds, hall, fun hlength => hexact ?_⟩
  rwa [abs_of_pos h.positive]

end Experiment

end TuningAdvisor
