import Mathlib
/-!
# Rounding in binary64: what `check_duration` and `ContainerGenerator` compute with

`Float` is modelled by unpacked numbers that every operation rounds. **A rounded number is one of the
grid that none is nearer to the exact result than** (`Nearest`): this one fact gives that rounding keeps
the order, and that it keeps the numbers of the grid. The grid has no upper end, but the format has one: what is
rounded too large for it (`Rounded`) is infinite once it is packed.
-/

namespace TuningAdvisor.Rounding

open Float.Model (Format UnpackedFloat totalExponent)
open Float.Model.UnpackedFloat

/-! ## The grid -/

/-- The numbers of the format, without an upper end: at most `2 ^ 53` units of a power of two. -/
def OnGrid (r : ℚ) : Prop := ∃ k e : ℤ, |k| ≤ 2 ^ 53 ∧ -1074 ≤ e ∧ r = k * 2 ^ e

/-- A number of the grid that none is nearer to `x` than. -/
structure Nearest (v x : ℚ) : Prop where
  onGrid : OnGrid v
  nearest : ∀ r, OnGrid r → |v - x| ≤ |r - x|

theorem OnGrid.neg {r : ℚ} (h : OnGrid r) : OnGrid (-r) := by
  obtain ⟨k, e, hk, he, rfl⟩ := h
  exact ⟨-k, e, by rwa [abs_neg], he, by push_cast; ring⟩

theorem OnGrid.int {n : ℤ} (h : |n| ≤ 2 ^ 53) : OnGrid n := ⟨n, 0, h, by norm_num, by simp⟩

theorem onGrid_units {k : ℤ} (c : ℕ) (hk : |k| ≤ 2 ^ 53) (hc : c ≤ 1074) : OnGrid (k / 2 ^ c) :=
  ⟨k, -c, hk, by omega, by rw [zpow_neg, zpow_natCast, div_eq_mul_inv]⟩

theorem onGrid_unit (c : ℕ) (hc : c ≤ 1074) : OnGrid (1 / 2 ^ c) := by
  simpa using onGrid_units (k := 1) c (by norm_num) hc

theorem onGrid_pow (c : ℕ) : OnGrid (2 ^ c) :=
  ⟨1, c, by norm_num, by omega, by rw [zpow_natCast, Int.cast_one, one_mul]⟩

/-- From `2 ^ (52 - c)` on, the numbers of the grid are whole multiples of `2 ^ -c`. -/
theorem OnGrid.units {r : ℚ} (h : OnGrid r) (c : ℕ) (hr : 2 ^ (52 - c : ℤ) ≤ |r|) : ∃ j : ℤ, r = j / 2 ^ c := by
  obtain ⟨k, e, hk, -, rfl⟩ := h
  have hk : |(k : ℚ)| ≤ 2 ^ 53 := by exact_mod_cast hk
  rw [abs_mul, abs_of_pos (a := (2 : ℚ) ^ e) (by positivity)] at hr
  rcases le_or_gt (-c : ℤ) e with he | he
  · refine ⟨k * 2 ^ (e + c).toNat, ?_⟩
    have hsplit : (2 : ℚ) ^ e = 2 ^ (e + c).toNat / 2 ^ c := by
      rw [← zpow_natCast, ← zpow_natCast, ← zpow_sub₀ (by norm_num), Int.toNat_of_nonneg (by omega), add_sub_cancel_right]
    rw [hsplit]
    push_cast
    ring
  · -- only the least of them, whose mantissa has all bits, can have this exponent
    have hunit : (2 : ℚ) ^ e ≤ 2 ^ (-c - 1 : ℤ) := zpow_le_zpow_right₀ (by norm_num) (by omega)
    have hend : (2 : ℚ) ^ (52 - c : ℤ) = 2 ^ 53 * 2 ^ (-c - 1 : ℤ) := by
      rw [← zpow_natCast, ← zpow_add₀ (by norm_num)]
      congr 1
      push_cast
      ring
    rw [hend] at hr
    have hpos : (0 : ℚ) < 2 ^ (-c - 1 : ℤ) := by positivity
    have hfull : 2 ^ 53 ≤ |(k : ℚ)| := le_of_mul_le_mul_right (hr.trans (mul_le_mul_of_nonneg_left hunit (abs_nonneg _))) hpos
    have hexp : (2 : ℚ) ^ e = 2 ^ (-c - 1 : ℤ) :=
      hunit.antisymm (le_of_mul_le_mul_left (hr.trans (mul_le_mul_of_nonneg_right hk (by positivity))) (by norm_num))
    have hbits : k = 2 ^ 53 ∨ k = -2 ^ 53 := by
      have : |k| = 2 ^ 53 := by exact_mod_cast hk.antisymm hfull
      exact abs_eq (by norm_num) |>.1 this
    have hhalf : (2 : ℚ) ^ (-c - 1 : ℤ) = 1 / 2 / 2 ^ c := by
      rw [zpow_sub_one₀ (by norm_num), zpow_neg, zpow_natCast]
      ring
    rw [hexp, hhalf]
    rcases hbits with rfl | rfl
    · exact ⟨2 ^ 52, by push_cast; ring⟩
    · exact ⟨-2 ^ 52, by push_cast; ring⟩

theorem OnGrid.nearest {x : ℚ} (h : OnGrid x) : Nearest x x := ⟨h, fun r _ => by simp⟩

theorem nearest_zero : Nearest 0 0 := (OnGrid.int (n := 0) (by norm_num)).nearest

namespace Nearest

variable {v x r : ℚ}

theorem neg (h : Nearest v x) : Nearest (-v) (-x) := by
  refine ⟨h.onGrid.neg, fun r hr => ?_⟩
  calc |-v - -x| = |v - x| := by rw [neg_sub_neg, abs_sub_comm]
    _ ≤ |-r - x| := h.nearest _ hr.neg
    _ = |r - -x| := by rw [← abs_neg, neg_sub, sub_neg_eq_add, sub_neg_eq_add, add_comm]

/-- A number of the grid below the exact result is below the rounded one. -/
theorem le (h : Nearest v x) (hr : OnGrid r) (hx : r ≤ x) : r ≤ v := by
  by_contra hv
  have hn := h.nearest r hr
  rw [abs_of_nonpos (by linarith), abs_of_nonpos (by linarith)] at hn
  linarith

theorem ge (h : Nearest v x) (hr : OnGrid r) (hx : x ≤ r) : v ≤ r := by
  have := h.neg.le hr.neg (neg_le_neg hx)
  linarith

theorem abs_le_grid (h : Nearest v x) (hr : OnGrid r) (hx : |x| ≤ r) : |v| ≤ r := by
  rw [abs_le'] at hx ⊢
  have := h.neg.ge hr hx.2
  exact ⟨h.ge hr hx.1, this⟩

/-- A number of the grid is kept. -/
theorem eq (h : Nearest v x) (hx : OnGrid x) : v = x := le_antisymm (h.ge hx le_rfl) (h.le hx le_rfl)

end Nearest

/-! ## Mantissas with residual bits -/

/-- What the residual bits say: the round bit is the first one behind the point of `y`, and the sticky bit
says whether there are others. -/
def Describes (em : ExtendedMantissa) (y : ℚ) : Prop :=
  ⌊2 * y⌋ = 2 * em.mantissa + em.roundBit.toNat ∧ (em.stickyBit = true ↔ (⌊2 * y⌋ : ℚ) ≠ 2 * y)

theorem Describes.of_le {m : ℕ} {r s : Bool} {y : ℚ} (hlow : 2 * m + r.toNat ≤ 2 * y)
    (hhigh : 2 * y < 2 * m + r.toNat + 1) (hs : s = true ↔ 2 * (m : ℚ) + r.toNat ≠ 2 * y) : Describes ⟨m, r, s⟩ y := by
  have hfloor : ⌊2 * y⌋ = 2 * m + r.toNat := by
    rw [Int.floor_eq_iff]
    push_cast
    exact ⟨hlow, hhigh⟩
  refine ⟨hfloor, ?_⟩
  rw [hfloor]
  exact_mod_cast hs

/-- The bits as inequalities. -/
theorem Describes.le {em : ExtendedMantissa} {y : ℚ} (h : Describes em y) :
    2 * em.mantissa + em.roundBit.toNat ≤ 2 * y ∧ 2 * y < 2 * em.mantissa + em.roundBit.toNat + 1 ∧
      (em.stickyBit = true ↔ 2 * (em.mantissa : ℚ) + em.roundBit.toNat ≠ 2 * y) := by
  obtain ⟨hfloor, hsticky⟩ := h
  have hlow := Int.floor_le (2 * y)
  have hhigh := Int.lt_floor_add_one (2 * y)
  rw [hfloor] at hlow hhigh hsticky
  push_cast at hlow hhigh hsticky
  exact ⟨hlow, hhigh, hsticky⟩

theorem describes_exact (m : ℕ) : Describes (ExtendedMantissa.ofMantissaAndAccuracy m .exact) m := by
  refine .of_le ?_ ?_ ?_ <;> simp

theorem Describes.shiftRightOne {em : ExtendedMantissa} {y : ℚ} (h : Describes em y) :
    Describes em.shiftRightOne (y / 2) := by
  obtain ⟨m, r, s⟩ := em
  obtain ⟨hlow, hhigh, hsticky⟩ := h.le
  dsimp only at hlow hhigh hsticky
  -- the lowest bit of the mantissa becomes the round bit
  have hbit : 2 * (m / 2) + (m % 2 != 0).toNat = m := by
    rcases Nat.mod_two_eq_zero_or_one m with hm | hm <;> simp [hm] <;> omega
  have hm : 2 * ((m / 2 : ℕ) : ℚ) + (m % 2 != 0).toNat = m := by exact_mod_cast hbit
  have hr : (0 : ℚ) ≤ r.toNat ∧ (r.toNat : ℚ) ≤ 1 := by cases r <;> simp
  refine .of_le ?_ ?_ ?_
  · linarith
  · linarith
  · rw [hm]
    cases r with
    | true =>
      simp only [Bool.true_or, true_iff]
      simp only [Bool.toNat_true, Nat.cast_one] at hlow
      exact ne_of_lt (by linarith)
    | false =>
      rw [Bool.false_or, hsticky, Bool.toNat_false, Nat.cast_zero, add_zero, mul_div_cancel₀ _ two_ne_zero]
      exact (mul_right_injective₀ two_ne_zero).ne_iff

theorem Describes.shiftRight {em : ExtendedMantissa} {y : ℚ} (h : Describes em y) :
    ∀ n : ℕ, Describes (em >>> n) (y / 2 ^ n)
  | 0 => by simpa [HShiftRight.hShiftRight, Nat.repeat] using h
  | n + 1 => by
    have := (h.shiftRight n).shiftRightOne
    rwa [div_div, ← pow_succ] at this

/-- The whole part. -/
theorem Describes.bounds {em : ExtendedMantissa} {y : ℚ} (h : Describes em y) :
    (em.mantissa : ℚ) ≤ y ∧ y < em.mantissa + 1 := by
  obtain ⟨hlow, hhigh, -⟩ := h.le
  have hr : (0 : ℚ) ≤ em.roundBit.toNat ∧ (em.roundBit.toNat : ℚ) ≤ 1 := by cases em.roundBit <;> simp
  constructor <;> linarith

/-- The rounded mantissa is at most a half off. -/
theorem Describes.abs_rounded_sub_le {em : ExtendedMantissa} {y : ℚ} (h : Describes em y) :
    |(em.roundedMantissa : ℚ) - y| ≤ 1 / 2 := by
  obtain ⟨m, r, s⟩ := em
  obtain ⟨hlow, hhigh, hsticky⟩ := h.le
  dsimp only at hlow hhigh hsticky
  rw [abs_le]
  cases r <;> cases s <;>
    simp only [ExtendedMantissa.roundedMantissa, ExtendedMantissa.accuracy, Accuracy.roundToNearestEven,
      Bool.toNat_false, Bool.toNat_true, Nat.cast_zero, Nat.cast_one, add_zero] at hlow hhigh ⊢
  · constructor <;> linarith
  · constructor <;> linarith
  · -- a tie goes to the even one of both neighbours
    have htie : 2 * (m : ℚ) + 1 = 2 * y := by simpa using hsticky
    rcases Nat.mod_two_eq_zero_or_one m with hm | hm <;> rw [hm] <;> push_cast <;> constructor <;> linarith
  · push_cast
    constructor <;> linarith

/-- No whole number is nearer than one that is at most a half off. -/
theorem abs_sub_le_of_half {R : ℕ} {y : ℚ} (h : |(R : ℚ) - y| ≤ 1 / 2) (k : ℤ) : |(R : ℚ) - y| ≤ |(k : ℚ) - y| := by
  by_cases hk : k = R
  · rw [hk]; rfl
  · have hone : (1 : ℚ) ≤ |(k : ℚ) - R| := by
      have := Int.one_le_abs (sub_ne_zero.2 hk)
      exact_mod_cast this
    have := abs_sub_le (k : ℚ) y R
    rw [abs_sub_comm y] at this
    linarith

/-- A whole number at most a half off is below a bound that is a whole number itself, -/
theorem le_of_half {R B : ℕ} {y : ℚ} (h : |(R : ℚ) - y| ≤ 1 / 2) (hy : y < B) : R ≤ B := by
  have : (R : ℚ) < B + 1 := by linarith [(abs_le.1 h).2]
  have : R < B + 1 := by exact_mod_cast this
  omega

/-- and above one. -/
theorem ge_of_half {R B : ℕ} {y : ℚ} (h : |(R : ℚ) - y| ≤ 1 / 2) (hy : B ≤ y) : B ≤ R := by
  have : (B : ℚ) < R + 1 := by linarith [(abs_le.1 h).1]
  have : B < R + 1 := by exact_mod_cast this
  omega

/-- A whole number of units, at most a half off, is nearest, once there are enough units. -/
theorem nearest_of_half {R : ℕ} {y : ℚ} {t : ℤ} (h : |(R : ℚ) - y| ≤ 1 / 2) (ht : -1074 ≤ t)
    (hfull : 2 ^ 52 ≤ y ∨ t = -1074) (hy : y < 2 ^ 53) : Nearest (R * 2 ^ t) (y * 2 ^ t) := by
  have hunit : (0 : ℚ) < 2 ^ t := by positivity
  have hscale : ∀ z : ℚ, |z * 2 ^ t - y * 2 ^ t| = |z - y| * 2 ^ t := fun z => by
    rw [← sub_mul, abs_mul, abs_of_pos hunit]
  have hR : R ≤ 2 ^ 53 := le_of_half h (by exact_mod_cast hy)
  refine ⟨⟨R, t, by rw [Nat.abs_cast]; exact_mod_cast hR, ht, rfl⟩, ?_⟩
  rintro _ ⟨k, e, hk, he, rfl⟩
  by_cases hte : t ≤ e
  · -- a coarser number is a whole number of units
    have hr : (k : ℚ) * 2 ^ e = ((k * 2 ^ (e - t).toNat : ℤ) : ℚ) * 2 ^ t := by
      push_cast
      rw [mul_assoc, ← zpow_natCast, ← zpow_add₀ (by norm_num), Int.toNat_of_nonneg (by omega), sub_add_cancel]
    rw [hr, hscale, hscale]
    exact mul_le_mul_of_nonneg_right (abs_sub_le_of_half h _) hunit.le
  · -- a finer one is not above `2 ^ 52` units, and `y` is not below
    have hlow : (2 : ℚ) ^ 52 ≤ y := hfull.resolve_right (by omega)
    have hk : (k : ℚ) ≤ 2 ^ 53 := by exact_mod_cast (abs_le.1 hk).2
    have hr : (k : ℚ) * 2 ^ e ≤ 2 ^ 52 * 2 ^ t := by
      calc (k : ℚ) * 2 ^ e ≤ 2 ^ 53 * 2 ^ (t - 1) :=
            mul_le_mul hk (zpow_le_zpow_right₀ (by norm_num) (by omega)) (by positivity) (by positivity)
        _ = 2 ^ 52 * 2 ^ t := by rw [zpow_sub_one₀ (by norm_num)]; ring
    have hnear : |(R : ℚ) - y| ≤ y - 2 ^ 52 := by
      calc |(R : ℚ) - y| ≤ |((2 ^ 52 : ℤ) : ℚ) - y| := abs_sub_le_of_half h _
        _ = y - 2 ^ 52 := by rw [abs_of_nonpos (by push_cast; linarith)]; push_cast; ring
    calc |(R : ℚ) * 2 ^ t - y * 2 ^ t| = |(R : ℚ) - y| * 2 ^ t := hscale _
      _ ≤ (y - 2 ^ 52) * 2 ^ t := mul_le_mul_of_nonneg_right hnear hunit.le
      _ ≤ y * 2 ^ t - k * 2 ^ e := by rw [sub_mul]; linarith
      _ ≤ |k * 2 ^ e - y * 2 ^ t| := by rw [abs_sub_comm]; exact le_abs_self _

/-! ## Unpacked numbers -/

theorem mantissaBits_eq : Format.binary64.mantissaBits = 53 := rfl

theorem targetExponent_eq (x : ℤ) : Format.binary64.targetExponent x = max (x - 53) (-1074) := by
  show max (x - 53) (3 - 2 ^ 10 - 53) = _
  norm_num

/-- What the mantissa and the exponent of a finite number look like. -/
structure Canonical (m : ℕ) (e : ℤ) : Prop where
  bits : m < 2 ^ 53
  low : -1074 ≤ e
  high : e ≤ 971
  full : 2 ^ 52 ≤ m ∨ e = -1074

/-- The factor of a sign. -/
def factor : Sign → ℚ
  | .negative => -1
  | .positive => 1

theorem abs_factor_mul (s : Sign) (x : ℚ) : |factor s * x| = |x| := by
  cases s <;> simp [factor]

theorem Nearest.factor {v x : ℚ} (h : Nearest v x) (s : Sign) : Nearest (factor s * v) (factor s * x) := by
  cases s with
  | negative => simpa [Rounding.factor] using h.neg
  | positive => simpa [Rounding.factor] using h

/-- A finite number of the format and its value. -/
inductive Value : UnpackedFloat → ℚ → Prop where
  | zero (s : Sign) : Value (.zero s) 0
  | finite (s : Sign) {m : ℕ} {e : ℤ} (h : 0 < m) : Canonical m e → Value (.finite s m e h) (factor s * (m * 2 ^ e))

theorem Value.of_eq {m : ℕ} {e : ℤ} {v : ℚ} (hm : 0 < m) (hc : Canonical m e) (hv : (m : ℚ) * 2 ^ e = v) :
    Value (.finite .positive m e hm) v := by
  have h := Value.finite .positive hm hc
  rwa [hv, factor, one_mul] at h

/-- A number as rounding leaves it, before it is packed: its exponent may be too large for the format. -/
inductive Rounded : UnpackedFloat → ℚ → Prop where
  | zero (s : Sign) : Rounded (.zero s) 0
  | finite (s : Sign) {m : ℕ} {e : ℤ} (h : 0 < m) (bits : m < 2 ^ 53) (low : -1074 ≤ e) (full : 2 ^ 52 ≤ m ∨ e = -1074) :
      Rounded (.finite s m e h) (factor s * (m * 2 ^ e))

/-- Numbers that are not too large are those of the format. -/
theorem Rounded.value {u : UnpackedFloat} {v : ℚ} (h : Rounded u v) (hv : |v| < 2 ^ 1024) : Value u v := by
  cases h with
  | zero s => exact .zero s
  | @finite s m e hm bits low full =>
    refine .finite s hm ⟨bits, low, ?_, full⟩
    by_contra hhigh
    have hm : (2 : ℚ) ^ 52 ≤ m := by exact_mod_cast full.resolve_right (by omega)
    have he : (2 : ℚ) ^ (972 : ℤ) ≤ 2 ^ e := zpow_le_zpow_right₀ (by norm_num) (by omega)
    have hlarge : (2 : ℚ) ^ 52 * 2 ^ (972 : ℤ) ≤ m * 2 ^ e := mul_le_mul hm he (by positivity) (by positivity)
    have hend : (2 : ℚ) ^ 52 * 2 ^ (972 : ℤ) = 2 ^ 1024 := by
      rw [← zpow_natCast, ← zpow_natCast, ← zpow_add₀ (by norm_num)]
      rfl
    rw [abs_factor_mul, abs_of_nonneg (by positivity), ← hend] at hv
    exact absurd hv (not_lt.2 hlarge)

/-- A number near one of moderate size is one of the format. -/
theorem Nearest.value {u : UnpackedFloat} {v x : ℚ} (h : Nearest v x) (hu : Rounded u v) (hx : |x| < 2 ^ 1000) :
    Value u v :=
  hu.value ((h.abs_le_grid (onGrid_pow 1000) hx.le).trans_lt (pow_lt_pow_right₀ (by norm_num) (by norm_num)))

theorem finite_congr {s s' : Sign} {m m' : ℕ} {e e' : ℤ} {h : 0 < m} {h' : 0 < m'} (hs : s = s') (hm : m = m')
    (he : e = e') : UnpackedFloat.finite s m e h = .finite s' m' e' h' := by
  subst hs hm he
  rfl

theorem unpack_normal (s : Sign) {m b : ℕ} (hlow : 2 ^ 52 ≤ m) (hhigh : m < 2 ^ 53) (hb : b ≠ 0) (hb' : b < 2047)
    (hm : 0 < m) :
    unpack Format.binary64 (packComponents Format.binary64 s (BitVec.ofNat 11 b) (BitVec.ofNat 52 m)) =
      .finite s m ((b : ℤ) - 1075) hm := by
  have he : (BitVec.ofNat 11 b).toNat = b := by rw [BitVec.toNat_ofNat, Nat.mod_eq_of_lt (by omega)]
  have hnan : BitVec.ofNat 11 b ≠ -1#11 := fun h => by
    have h := congrArg BitVec.toNat h
    rw [he, show (-1#11).toNat = 2047 by decide] at h
    omega
  have hzero : BitVec.ofNat 11 b ≠ 0#11 := fun h => by
    have h := congrArg BitVec.toNat h
    rw [he] at h
    exact hb h
  have hmantissa : (1#1 ++ BitVec.ofNat 52 m).toNat = m := by
    rw [BitVec.toNat_append, ← Nat.shiftLeft_add_eq_or_of_lt (BitVec.isLt _), BitVec.toNat_ofNat, BitVec.toNat_ofNat]
    omega
  unfold unpack
  dsimp only
  rw [if_neg (by rwa [unpackExponent_packComponents]), if_neg (by rwa [unpackExponent_packComponents])]
  refine finite_congr ?_ ?_ ?_
  · rw [unpackSign_packComponents, Sign.ofBitVec_toBitVec]
  · rw [unpackMantissa_packComponents]
    exact hmantissa
  · rw [unpackExponent_packComponents]
    show ((BitVec.ofNat 11 b).toNat : ℤ) - 1075 = b - 1075
    rw [he]

theorem unpack_subnormal (s : Sign) {m : ℕ} (hm : 0 < m) (hm' : m < 2 ^ 52) :
    unpack Format.binary64 (packComponents Format.binary64 s 0#11 (BitVec.ofNat 52 m)) = .finite s m (-1074) hm := by
  have hmantissa : (BitVec.ofNat 52 m).toNat = m := by rw [BitVec.toNat_ofNat, Nat.mod_eq_of_lt hm']
  have hzero : BitVec.ofNat 52 m ≠ 0#52 := fun h => by
    have h := congrArg BitVec.toNat h
    rw [hmantissa] at h
    exact hm.ne' h
  have hnan : (0#11 : BitVec 11) ≠ -1#11 := by decide
  unfold unpack
  dsimp only
  rw [if_neg (by rwa [unpackExponent_packComponents]), if_pos (by rw [unpackExponent_packComponents]),
    dif_neg (by rwa [unpackMantissa_packComponents])]
  refine finite_congr ?_ ?_ ?_
  · rw [unpackSign_packComponents, Sign.ofBitVec_toBitVec]
  · rw [unpackMantissa_packComponents]
    exact hmantissa
  · rw [unpackExponent_packComponents]
    rfl

theorem pack_finite (s : Sign) {m : ℕ} {e : ℤ} (hm : 0 < m) :
    pack Format.binary64 (.finite s m e hm) =
      if 2 ^ 11 ≤ (e + 1075).toNat + 1 then packedInfinity Format.binary64 s
      else if m.log2 + 1 = 53 then
        packComponents Format.binary64 s (BitVec.ofNat 11 (e + 1075).toNat) (BitVec.ofNat 52 m)
      else packComponents Format.binary64 s 0#11 (BitVec.ofNat 52 m) := by
  have hbiased : (e + 1075).toNat = (e + ((1023 : ℕ) : ℤ) + ((52 : ℕ) : ℤ)).toNat := by omega
  rw [hbiased]
  rfl

theorem unpack_packedInfinity (s : Sign) : unpack Format.binary64 (packedInfinity Format.binary64 s) = .infinity s := by
  cases s <;> rfl

/-- Packing keeps what a number is. -/
theorem Value.unpack_pack {u : UnpackedFloat} {v : ℚ} (h : Value u v) :
    unpack Format.binary64 (pack Format.binary64 u) = u := by
  cases h with
  | zero s => cases s <;> rfl
  | @finite s m e hm hc =>
    obtain ⟨hbits, hlow, hhigh, hfull⟩ := hc
    have hlog : m.log2 < 53 := (Nat.log2_lt hm.ne').2 hbits
    rw [pack_finite, if_neg (show ¬ 2 ^ 11 ≤ (e + 1075).toNat + 1 by omega)]
    by_cases hnormal : 2 ^ 52 ≤ m
    · have hlog' : m.log2 = 52 := (Nat.log2_eq_iff hm.ne').2 ⟨hnormal, hbits⟩
      rw [if_pos (show m.log2 + 1 = 53 by omega), unpack_normal s hnormal hbits (by omega) (by omega) hm]
      exact finite_congr rfl rfl (by omega)
    · have hlog' : m.log2 < 52 := (Nat.log2_lt hm.ne').2 (by omega)
      rw [if_neg (show ¬ m.log2 + 1 = 53 by omega), unpack_subnormal s hm (by omega)]
      exact finite_congr rfl rfl (by omega)

/-- What is too large for the format becomes infinite. -/
theorem Rounded.value_or_infinite {u : UnpackedFloat} {v : ℚ} (h : Rounded u v) :
    Value u v ∨ ∃ s, unpack Format.binary64 (pack Format.binary64 u) = .infinity s ∧ 0 ≤ factor s * v := by
  cases h with
  | zero s => exact .inl (.zero s)
  | @finite s m e hm bits low full =>
    by_cases hhigh : e ≤ 971
    · exact .inl (.finite s hm ⟨bits, low, hhigh, full⟩)
    · refine .inr ⟨s, ?_, ?_⟩
      · rw [pack_finite, if_pos (show 2 ^ 11 ≤ (e + 1075).toNat + 1 by omega), unpack_packedInfinity]
      · have hpos : (0 : ℚ) ≤ m * 2 ^ e := by positivity
        cases s <;> simpa [factor] using hpos

/-! ## Rounding -/

theorem shiftToTargetExponent_eq {m k : ℕ} {e : ℤ} {a : Accuracy}
    (h : (Format.binary64.targetExponent (totalExponent m e) - e).toNat = k) :
    shiftToTargetExponent Format.binary64 m e a = (ExtendedMantissa.ofMantissaAndAccuracy m a >>> k, e + k) := by
  subst h
  rfl

/-- A mantissa of at most 53 bits is not shifted. -/
theorem shift_none {r : ℕ} {t : ℤ} (hr : r < 2 ^ 53) (ht : -1074 ≤ t) :
    shiftToTargetExponent Format.binary64 r t .exact = (⟨r, false, false⟩, t) := by
  have hlog : r.log2 < 53 := by
    by_cases h : r = 0
    · simp [h]
    · exact (Nat.log2_lt h).2 hr
  have hshift : (Format.binary64.targetExponent (totalExponent r t) - t).toNat = 0 := by
    rw [targetExponent_eq, totalExponent]
    omega
  rw [shiftToTargetExponent_eq hshift]
  simp [ExtendedMantissa.ofMantissaAndAccuracy, HShiftRight.hShiftRight, Nat.repeat]

/-- A carry into the bit behind them is shifted by one. -/
theorem shift_carry {t : ℤ} (ht : -1074 ≤ t) :
    shiftToTargetExponent Format.binary64 (2 ^ 53) t .exact = (⟨2 ^ 52, false, false⟩, t + 1) := by
  have hshift : (Format.binary64.targetExponent (totalExponent (2 ^ 53) t) - t).toNat = 1 := by
    rw [targetExponent_eq, totalExponent, Nat.log2_two_pow]
    omega
  rw [shiftToTargetExponent_eq hshift]
  rfl

section RoundWithAccuracy

variable {f : Format} {s : Sign} {m : ℕ} {e : ℤ} {a : Accuracy} {y : ExtendedMantissa × ℤ}

theorem roundWithAccuracy_of_zero (hy : shiftToTargetExponent f (shiftToTargetExponent f m e a).1.roundedMantissa
    (shiftToTargetExponent f m e a).2 .exact = y) (h : y.1.mantissa = 0) : roundWithAccuracy f s m e a = .zero s := by
  subst hy
  exact dif_pos h

theorem roundWithAccuracy_of_pos (hy : shiftToTargetExponent f (shiftToTargetExponent f m e a).1.roundedMantissa
    (shiftToTargetExponent f m e a).2 .exact = y) (h : 0 < y.1.mantissa) :
    roundWithAccuracy f s m e a = .finite s y.1.mantissa y.2 h := by
  subst hy
  exact dif_neg h.ne'

end RoundWithAccuracy

/-- A rounded mantissa becomes a number of its value. -/
theorem rounded_of_shifted (s : Sign) {R : ℕ} {t : ℤ} (hR : R ≤ 2 ^ 53) (hlow : -1074 ≤ t)
    (hfull : 2 ^ 52 ≤ R ∨ t = -1074) {m : ℕ} {e : ℤ} {a : Accuracy} {em : ExtendedMantissa}
    (hfirst : shiftToTargetExponent Format.binary64 m e a = (em, t)) (hem : em.roundedMantissa = R) :
    Rounded (roundWithAccuracy Format.binary64 s m e a) (factor s * (R * 2 ^ t)) := by
  have hsecond : shiftToTargetExponent Format.binary64 (shiftToTargetExponent Format.binary64 m e a).1.roundedMantissa
      (shiftToTargetExponent Format.binary64 m e a).2 .exact = shiftToTargetExponent Format.binary64 R t .exact := by
    rw [hfirst, ← hem]
  rcases hR.lt_or_eq with hR | rfl
  · rw [shift_none hR hlow] at hsecond
    rcases R.eq_zero_or_pos with rfl | hpos
    · rw [roundWithAccuracy_of_zero hsecond rfl]
      simpa using Rounded.zero s
    · rw [roundWithAccuracy_of_pos hsecond hpos]
      exact .finite s _ hR hlow hfull
  · rw [shift_carry hlow] at hsecond
    have hvalue : (((2 ^ 53 : ℕ) : ℚ)) * 2 ^ t = ((2 ^ 52 : ℕ) : ℚ) * 2 ^ (t + 1) := by
      rw [zpow_add_one₀ (by norm_num)]
      push_cast
      ring
    rw [roundWithAccuracy_of_pos hsecond (by norm_num), hvalue]
    exact .finite s _ (by norm_num) (by omega) (.inl le_rfl)

/-- **Rounding gives a nearest number**, if the mantissa has bits enough for the format. -/
theorem exists_rounded_roundWithAccuracy (s : Sign) {m : ℕ} {e : ℤ} {a : Accuracy} {y : ℚ}
    (hy : Describes (ExtendedMantissa.ofMantissaAndAccuracy m a) y) (hbits : 52 ≤ m.log2 ∨ e ≤ -1074) :
    ∃ v, Nearest v (factor s * (y * 2 ^ e)) ∧ Rounded (roundWithAccuracy Format.binary64 s m e a) v := by
  set t := Format.binary64.targetExponent (totalExponent m e) with ht
  rw [targetExponent_eq, totalExponent] at ht
  obtain ⟨k, hk⟩ : ∃ k : ℕ, e + k = t := ⟨(t - e).toNat, by omega⟩
  have hfirst : shiftToTargetExponent Format.binary64 m e a =
      (ExtendedMantissa.ofMantissaAndAccuracy m a >>> k, t) := by
    rw [← hk]
    exact shiftToTargetExponent_eq (by omega)
  have hshifted := hy.shiftRight k
  have hscale : y / 2 ^ k * 2 ^ t = y * 2 ^ e := by
    rw [← hk, zpow_add₀ (by norm_num), zpow_natCast]
    field_simp
  have hmantissa : (ExtendedMantissa.ofMantissaAndAccuracy m a).mantissa = m := by
    rcases a with _ | o
    · rfl
    · cases o <;> rfl
  obtain ⟨hlo, hhi⟩ := hy.bounds
  rw [hmantissa] at hlo hhi
  -- the shifted mantissa has at most 53 bits, and all of them unless the exponent is the least one
  have hbelow : y / 2 ^ k < 2 ^ 53 := by
    have : m + 1 ≤ 2 ^ (53 + k) :=
      (Nat.lt_log2_self (n := m)).trans_le (Nat.pow_le_pow_right (by norm_num) (by omega))
    have : (m : ℚ) + 1 ≤ 2 ^ (53 + k) := by exact_mod_cast this
    rw [div_lt_iff₀ (by positivity), ← pow_add]
    linarith
  have hfull : 2 ^ 52 ≤ y / 2 ^ k ∨ t = -1074 := by
    by_cases hmin : t = -1074
    · exact .inr hmin
    · left
      have hm : 0 < m := Nat.pos_of_ne_zero fun h => by simp [h] at ht hbits; omega
      have : 2 ^ (52 + k) ≤ m := (Nat.pow_le_pow_right (by norm_num) (by omega)).trans (Nat.log2_self_le hm.ne')
      have : (2 : ℚ) ^ (52 + k) ≤ m := by exact_mod_cast this
      rw [le_div_iff₀ (by positivity), ← pow_add]
      linarith
  have hhalf := hshifted.abs_rounded_sub_le
  have hnearest := nearest_of_half hhalf (by omega) hfull hbelow
  rw [hscale] at hnearest
  refine ⟨_, hnearest.factor s, ?_⟩
  refine rounded_of_shifted s (le_of_half hhalf (by exact_mod_cast hbelow)) (by omega) ?_ hfirst rfl
  exact hfull.imp_left fun hfull => ge_of_half hhalf (by exact_mod_cast hfull)

/-- Rounding with the bits filled up first. -/
theorem exists_nearest_round (s : Sign) {m : ℕ} (hm : 0 < m) (e : ℤ) (hsmall : (m : ℚ) * 2 ^ e < 2 ^ 1000) :
    ∃ v, Nearest v (factor s * (m * 2 ^ e)) ∧ Value (round Format.binary64 s m e) v := by
  set t := Format.binary64.targetExponent (totalExponent m e) with ht
  rw [targetExponent_eq, totalExponent] at ht
  set k := (e - t).toNat with hk
  have hround : round Format.binary64 s m e = roundWithAccuracy Format.binary64 s (m <<< k) (e - k) .exact := rfl
  have hpos : 0 < m <<< k := by rw [Nat.shiftLeft_eq]; positivity
  have hlog : (m <<< k).log2 = m.log2 + k := by
    rw [Nat.log2_eq_iff hpos.ne', Nat.shiftLeft_eq, pow_add, show m.log2 + k + 1 = m.log2 + 1 + k by omega,
      pow_add _ _ k]
    exact ⟨Nat.mul_le_mul_right _ (Nat.log2_self_le hm.ne'),
      Nat.mul_lt_mul_of_pos_right Nat.lt_log2_self (by positivity)⟩
  have hvalue : ((m <<< k : ℕ) : ℚ) * 2 ^ (e - k) = m * 2 ^ e := by
    rw [Nat.shiftLeft_eq, zpow_sub₀ (by norm_num), zpow_natCast]
    push_cast
    field_simp
  obtain ⟨v, hv, hrounded⟩ := exists_rounded_roundWithAccuracy s (describes_exact (m <<< k)) (e := e - k) (by omega)
  rw [hvalue] at hv
  refine ⟨v, hv, ?_⟩
  rw [hround]
  refine hv.value hrounded ?_
  rwa [abs_factor_mul, abs_of_nonneg (by positivity)]

/-- Normalizing a mantissa with a sign. -/
theorem exists_nearest_normalize (m e : ℤ) (s : Sign) (hsmall : |(m : ℚ)| * 2 ^ e < 2 ^ 1000) :
    ∃ v, Nearest v (m * 2 ^ e) ∧ Value (UnpackedFloat.normalize Format.binary64 m e s) v := by
  unfold UnpackedFloat.normalize
  rcases lt_trichotomy m 0 with hm | rfl | hm
  · rw [Int.compare_eq_lt.2 hm]
    have hcast : (((-m).toNat : ℕ) : ℚ) = -m := by
      rw [← Int.cast_natCast, Int.toNat_of_nonneg (by omega), Int.cast_neg]
    rw [abs_of_neg (by exact_mod_cast hm), ← hcast] at hsmall
    have hround := exists_nearest_round .negative (m := (-m).toNat) (by omega) e hsmall
    rwa [hcast, factor, neg_one_mul, neg_mul, neg_neg] at hround
  · rw [Int.cast_zero, zero_mul]
    exact ⟨0, nearest_zero, .zero s⟩
  · rw [Int.compare_eq_gt.2 hm]
    have hcast : ((m.toNat : ℕ) : ℚ) = m := by rw [← Int.cast_natCast, Int.toNat_of_nonneg (by omega)]
    rw [abs_of_pos (by exact_mod_cast hm), ← hcast] at hsmall
    have hround := exists_nearest_round .positive (m := m.toNat) (by omega) e hsmall
    rwa [hcast, factor, one_mul] at hround

end TuningAdvisor.Rounding
