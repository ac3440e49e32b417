import TuningAdvisor.Number.Decimal
import TuningAdvisor.Proofs.FloatBounds
/-!
# Decimals as floats: the numbers of `split_number` and `numeric_value`

**A decimal numeral is read as the float nearest to it** (`Decimal.roundsTo_toFloat`), on the short way, by a power of ten
that is held exactly, as on the long one. Numerals with a positive exponent are left out.
-/

namespace TuningAdvisor

namespace Rounding

open Float.Model (Format UnpackedFloat)
open Float.Model.UnpackedFloat

/-- The powers of ten of the short way are exact. -/
theorem holds_powerOfTen {k : ℕ} (hk : k < Float.exactlyRepresentablePowersOfTen.size) :
    Holds Float.exactlyRepresentablePowersOfTen[k] (10 ^ k) := by
  have hall : ∀ i : Fin 23, Float.exactlyRepresentablePowersOfTen[i].isFinite = true ∧
      (Binary64.ofFloat Float.exactlyRepresentablePowersOfTen[i]).toRat = 10 ^ (i : ℕ) := by
    decide +kernel
  obtain ⟨hfinite, hvalue⟩ := hall ⟨k, hk⟩
  have hholds := holds_of_isFinite hfinite
  rwa [hvalue] at hholds

/-- Nothing but zero is nearest to what is less than half the least number. -/
theorem nearest_zero_of_small {x : ℚ} (hlow : 0 ≤ x) (hhigh : x ≤ 2 ^ (-1075 : ℤ)) : Nearest 0 x := by
  refine ⟨nearest_zero.onGrid, ?_⟩
  rintro _ ⟨k, e, -, he, rfl⟩
  rw [zero_sub, abs_neg, abs_of_nonneg hlow]
  rcases lt_trichotomy k 0 with hk | rfl | hk
  · have hneg : (k : ℚ) * 2 ^ e ≤ 0 := mul_nonpos_of_nonpos_of_nonneg (by exact_mod_cast hk.le) (by positivity)
    rw [abs_of_nonpos (by linarith)]
    linarith
  · rw [Int.cast_zero, zero_mul, zero_sub, abs_neg]
    exact le_abs_self x
  · have hone : (1 : ℚ) ≤ k := by exact_mod_cast hk
    have hunit : (2 : ℚ) ^ (-1074 : ℤ) ≤ 2 ^ e := zpow_le_zpow_right₀ (by norm_num) he
    have hleast : (2 : ℚ) ^ (-1074 : ℤ) ≤ k * 2 ^ e := hunit.trans (le_mul_of_one_le_left (by positivity) hone)
    have hhalf : (2 : ℚ) ^ (-1074 : ℤ) = 2 * 2 ^ (-1075 : ℤ) := by rw [← zpow_one_add₀ (by norm_num)]; norm_num
    have := le_abs_self ((k : ℚ) * 2 ^ e - x)
    linarith

/-- On the long way, a number with decimal places is a quotient that is rounded. -/
theorem exists_rounded_ofScientific (m : ℕ) {k : ℕ} (hk : 0 < k) :
    ∃ r, Nearest r (m / 10 ^ k) ∧ Rounded (ofScientific Format.binary64 m (-k)) r := by
  have hbits : (2 : ℤ) ^ Format.binary64.exponentBits = 2048 := rfl
  unfold ofScientific
  by_cases hm : m = 0
  · rw [dif_pos hm, hm, Nat.cast_zero, zero_div]
    exact ⟨0, nearest_zero, .zero _⟩
  · rw [dif_neg hm, if_neg (by omega)]
    by_cases htiny : 2048 + m.log2 < k
    · -- a power of ten this large leaves nothing of the mantissa
      rw [if_pos (by omega)]
      refine ⟨0, nearest_zero_of_small (by positivity) ?_, .zero _⟩
      rw [div_le_iff₀ (by positivity)]
      calc (m : ℚ) ≤ 2 ^ (m.log2 + 1) := by exact_mod_cast Nat.lt_log2_self.le
        _ ≤ 2 ^ (-1075 : ℤ) * 2 ^ k := by
          rw [← zpow_natCast, ← zpow_natCast, ← zpow_add₀ (by norm_num)]
          exact zpow_le_zpow_right₀ (by norm_num) (by push_cast; omega)
        _ ≤ 2 ^ (-1075 : ℤ) * 10 ^ k := by
          gcongr
          norm_num
    · rw [if_neg (by omega), if_neg (by omega)]
      obtain ⟨r, hr, hrounded⟩ := exists_rounded_div .positive .positive (Nat.pos_of_ne_zero hm)
        (Nat.pow_pos (n := (-(-(k : ℤ))).toNat) (show 0 < 10 by decide)) 0 0
      refine ⟨r, ?_, hrounded⟩
      simpa [factor] using hr

theorem roundsTo_ofScientific (m : ℕ) {k : ℕ} (hk : 0 < k) : RoundsTo (Float.ofScientific m true k) (m / 10 ^ k) := by
  by_cases hshort : m < 2 ^ 53 ∧ k ≤ 22
  · rw [Float.ofScientific, dif_pos hshort]
    exact (holds_toFloat hshort.1).roundsTo_div (holds_powerOfTen _) (by positivity)
  · have hlong : Float.ofScientific m true k = .ofModel (.pack (ofScientific Format.binary64 m (-k))) := by
      rw [Float.ofScientific, dif_neg hshort, show -(k : ℤ) = Int.negOfNat k from Int.negOfNat_eq.symm]
      rfl
    obtain ⟨r, hr, hrounded⟩ := exists_rounded_ofScientific m hk
    exact ⟨_, r, hlong, hr, hrounded⟩

end Rounding

namespace Decimal

open Rounding (RoundsTo)

/-- **A numeral is read as the float nearest to it.** -/
theorem roundsTo_toFloat (m : Nat) {e : Int} (he : e ≤ 0) : RoundsTo (toFloat ⟨false, m, e⟩) (m * 10 ^ e) := by
  obtain ⟨k, rfl⟩ : ∃ k : Nat, e = -k := ⟨e.natAbs, by omega⟩
  rcases k.eq_zero_or_pos with rfl | hk
  · rw [Nat.cast_zero, neg_zero, zpow_zero, mul_one]
    exact Rounding.roundsTo_ofNat m
  · have hread : toFloat ⟨false, m, -(k : Int)⟩ = Float.ofScientific m true k := by
      unfold toFloat
      simp [hk]
    rw [hread, zpow_neg, zpow_natCast, ← div_eq_mul_inv]
    exact Rounding.roundsTo_ofScientific m hk

end Decimal

end TuningAdvisor
