import TuningAdvisor.Proofs.Tolerance
/-!
# The bits of floats: the exact values behind `round_tenth` and the casts

A `Float` is taken apart by its bits, and the operations on floats unpack them. **Both ways give the same integers**
(`ofFloat_eq`), so that the exact value of a float and its integer part are those of the number that it holds.
-/

namespace TuningAdvisor.Rounding

/-- Rounding is off by half a unit at most. -/
theorem Nearest.abs_sub_le {v x : ℚ} (h : Nearest v x) {c : ℕ} (hc : c ≤ 1074) (hx : |x * 2 ^ c| ≤ 2 ^ 53) :
    |v - x| ≤ 1 / 2 ^ (c + 1) := by
  have hround := abs_sub_round (x * 2 ^ c)
  have hk : |round (x * 2 ^ c)| ≤ 2 ^ 53 := by
    have hclose := abs_sub_abs_le_abs_sub (round (x * 2 ^ c) : ℚ) (x * 2 ^ c)
    rw [abs_sub_comm] at hclose
    have hlt : |(round (x * 2 ^ c) : ℚ)| < 2 ^ 53 + 1 := by linarith
    have hlt : |round (x * 2 ^ c)| < 2 ^ 53 + 1 := by exact_mod_cast hlt
    omega
  refine (h.nearest _ (onGrid_units c hk hc)).trans ?_
  have hunit : (0 : ℚ) < 2 ^ c := by positivity
  have hsplit : (round (x * 2 ^ c) : ℚ) / 2 ^ c - x = (round (x * 2 ^ c) - x * 2 ^ c) / 2 ^ c := by field_simp
  rw [hsplit, abs_div, abs_of_pos hunit, pow_succ, div_le_div_iff₀ hunit (by positivity), abs_sub_comm]
  nlinarith

open Float.Model (Format UnpackedFloat)
open Float.Model.UnpackedFloat

/-! ## Fields -/

section Fields

variable (b : BitVec Format.binary64.numBits)

theorem toNat_unpackMantissa : (unpackMantissa b).toNat = b.toNat % 2 ^ 52 := by
  unfold unpackMantissa
  rw [BitVec.toNat_cast, BitVec.extractLsb_toNat]
  rfl

theorem toNat_unpackExponent : (unpackExponent b).toNat = b.toNat / 2 ^ 52 % 2 ^ 11 := by
  unfold unpackExponent
  rw [BitVec.toNat_cast, BitVec.extractLsb_toNat, Nat.shiftRight_eq_div_pow]
  rfl

theorem toNat_unpackSign : (unpackSign b).toNat = b.toNat / 2 ^ 63 % 2 := by
  unfold unpackSign
  rw [BitVec.toNat_cast, BitVec.extractLsb_toNat, Nat.shiftRight_eq_div_pow]
  rfl

theorem unpackMantissa_eq_zero_iff : unpackMantissa b = 0#52 ↔ b.toNat % 1 <<< 52 = 0 := by
  rw [← BitVec.toNat_inj, toNat_unpackMantissa]
  rfl

theorem unpackExponent_eq_iff (n : BitVec 11) : unpackExponent b = n ↔ b.toNat >>> 52 % 2048 = n.toNat := by
  rw [← BitVec.toNat_inj, toNat_unpackExponent, Nat.shiftRight_eq_div_pow]
  rfl

/-- The bit that is not stored. -/
theorem toNat_fullMantissa : (1#1 ++ unpackMantissa b).toNat = 1 <<< 52 + b.toNat % 1 <<< 52 := by
  rw [BitVec.toNat_append, ← Nat.shiftLeft_add_eq_or_of_lt (BitVec.isLt _), toNat_unpackMantissa]
  rfl

end Fields

/-- Whether the sign is a minus. -/
def isNegative : Sign → Bool
  | .negative => true
  | .positive => false

theorem isNegative_unpackSign (b : BitVec Format.binary64.numBits) :
    isNegative (Sign.ofBitVec (unpackSign b)) = decide (1 <<< 63 ≤ b.toNat) := by
  have hbits : b.toNat < 2 ^ 64 := b.isLt
  have hsign := toNat_unpackSign b
  unfold Sign.ofBitVec
  split
  · rename_i hzero
    rw [hzero] at hsign
    have hsmall : ¬2 ^ 63 ≤ b.toNat := by
      have : b.toNat / 2 ^ 63 % 2 = 0 := hsign.symm
      omega
    exact (decide_eq_false hsmall).symm
  · rename_i hone
    have hlarge : 2 ^ 63 ≤ b.toNat := by
      by_contra hsmall
      refine hone (BitVec.eq_of_toNat_eq ?_)
      rw [hsign]
      show _ = 0
      omega
    exact (decide_eq_true hlarge).symm

/-- An unpacked number as it is taken apart. -/
def takenApart : UnpackedFloat → Binary64
  | .notANumber => .nan
  | .infinity s => .infinite (isNegative s)
  | .zero s => .finite (isNegative s) 0 (-1074)
  | .finite s m e _ => .finite (isNegative s) m e

/-- The integers of a float are those of the unpacked number. -/
theorem ofFloat_eq (x : Float) : Binary64.ofFloat x = takenApart x.toModel.unpack := by
  have hbits : x.toBits.toNat = x.toModel.toBits.toBitVec.toNat := rfl
  have hunpack : x.toModel.unpack = unpack Format.binary64 x.toModel.toBits.toBitVec := rfl
  rw [Binary64.ofFloat, hbits, hunpack]
  generalize (x.toModel.toBits.toBitVec : BitVec 64) = b
  have hones := unpackExponent_eq_iff b (-1#11)
  have hzeros := unpackExponent_eq_iff b 0#11
  have hnone := unpackMantissa_eq_zero_iff b
  have hsign := isNegative_unpackSign b
  unfold unpack
  dsimp only
  by_cases hspecial : b.toNat >>> 52 % 2048 = 2047
  · rw [if_pos hspecial, if_pos (hones.2 hspecial)]
    by_cases hinf : b.toNat % 1 <<< 52 = 0
    · rw [if_pos hinf, if_pos (hnone.2 hinf)]
      exact congrArg _ hsign.symm
    · rw [if_neg hinf, if_neg (mt hnone.1 hinf)]
      rfl
  · rw [if_neg hspecial, if_neg (mt hones.1 hspecial)]
    by_cases hsub : b.toNat >>> 52 % 2048 = 0
    · rw [if_pos hsub, if_pos (hzeros.2 hsub)]
      by_cases hzero : b.toNat % 1 <<< 52 = 0
      · rw [dif_pos (hnone.2 hzero), hzero]
        exact congrArg (Binary64.finite · 0 (-1074)) hsign.symm
      · rw [dif_neg (mt hnone.1 hzero)]
        show Binary64.finite _ _ _ = Binary64.finite _ _ _
        rw [hsign, toNat_unpackMantissa, hzeros.2 hsub]
        rfl
    · rw [if_neg hsub, if_neg (mt hzeros.1 hsub)]
      show Binary64.finite _ _ _ = Binary64.finite _ _ _
      rw [hsign, toNat_fullMantissa, toNat_unpackExponent, Nat.shiftRight_eq_div_pow]
      rfl

/-- The fields of a finite number make a mantissa and an exponent of the format. -/
theorem canonical_fields {b : BitVec Format.binary64.numBits} {e : ℤ}
    (he : e = (unpackExponent b).toNat - 1075) (h : unpackExponent b ≠ -1#11) :
    (unpackExponent b = 0#11 → Canonical (unpackMantissa b).toNat (e + 1)) ∧
    (unpackExponent b ≠ 0#11 → Canonical (1#1 ++ unpackMantissa b).toNat e) := by
  have hmantissa := toNat_unpackMantissa b
  have hexponent : (unpackExponent b).toNat < 2 ^ 11 := (unpackExponent b).isLt
  have hmax : (unpackExponent b).toNat ≠ 2047 := fun hones => h (BitVec.eq_of_toNat_eq hones)
  constructor
  · intro hzero
    rw [hzero] at he
    have he : e = -1075 := he
    exact ⟨by omega, by omega, by omega, .inr (by omega)⟩
  · intro hpos
    have hmin : (unpackExponent b).toNat ≠ 0 := fun hzeros => hpos (BitVec.eq_of_toNat_eq hzeros)
    have hfull : (1#1 ++ unpackMantissa b).toNat = 2 ^ 52 + b.toNat % 2 ^ 52 := toNat_fullMantissa b
    exact ⟨by omega, by omega, by omega, .inl (by omega)⟩

/-- What is neither a NaN nor infinite has a value. -/
theorem exists_value_unpack (b : BitVec Format.binary64.numBits) :
    unpack Format.binary64 b = .notANumber ∨ (∃ s, unpack Format.binary64 b = .infinity s) ∨
      ∃ v, Value (unpack Format.binary64 b) v := by
  unfold unpack
  dsimp only
  split
  · split
    · exact .inr (.inl ⟨_, rfl⟩)
    · exact .inl rfl
  · rename_i hfinite
    obtain ⟨hsub, hnormal⟩ := canonical_fields (b := b) rfl hfinite
    split
    · rename_i hzero
      split
      · exact .inr (.inr ⟨_, .zero _⟩)
      · exact .inr (.inr ⟨_, .finite _ _ (hsub hzero)⟩)
    · rename_i hpos
      exact .inr (.inr ⟨_, .finite _ _ (hnormal hpos)⟩)

/-! ## What a float holds -/

/-- A power of two is shifted in on one side or the other. -/
theorem magnitude_eq (m : ℕ) (e : ℤ) :
    (if 0 ≤ e then ((m <<< e.toNat : ℕ) : ℚ) else mkRat m (1 <<< (-e).toNat)) = m * 2 ^ e := by
  split
  · rename_i he
    obtain ⟨k, rfl⟩ := Int.eq_ofNat_of_zero_le he
    rw [Int.toNat_natCast, Nat.shiftLeft_eq, zpow_natCast]
    push_cast
    rfl
  · rename_i he
    obtain ⟨k, rfl⟩ : ∃ k : ℕ, e = -k := ⟨(-e).toNat, by omega⟩
    rw [neg_neg, Int.toNat_natCast, Nat.shiftLeft_eq, one_mul, zpow_neg, zpow_natCast, ← div_eq_mul_inv,
      Rat.mkRat_eq_div]
    push_cast
    rfl

theorem wholeMagnitude_down (m : ℕ) (e : ℤ) : (Binary64.wholeMagnitude .down m e : ℤ) = ⌊(m : ℚ) * 2 ^ e⌋ := by
  rw [← magnitude_eq]
  unfold Binary64.wholeMagnitude
  split
  · exact (Int.floor_natCast _).symm
  · rw [Rat.mkRat_eq_div]
    exact (Rat.floor_natCast_div_natCast m _).symm

theorem wholeMagnitude_halfUp (m : ℕ) (e : ℤ) : (Binary64.wholeMagnitude .halfUp m e : ℤ) = ⌊(m : ℚ) * 2 ^ e + 1 / 2⌋ := by
  rw [← magnitude_eq]
  unfold Binary64.wholeMagnitude
  split
  · rw [Int.floor_natCast_add, show ⌊(1 / 2 : ℚ)⌋ = 0 by norm_num, add_zero]
  · have hpos : (0 : ℚ) < (1 <<< (-e).toNat : ℕ) := by
      rw [Nat.shiftLeft_eq, one_mul]
      positivity
    have hsum : mkRat m (1 <<< (-e).toNat) + (1 / 2 : ℚ) =
        ((2 * m + 1 <<< (-e).toNat : ℕ) : ℚ) / (2 * 1 <<< (-e).toNat : ℕ) := by
      rw [Rat.mkRat_eq_div]
      push_cast
      field_simp
    rw [hsum]
    exact (Rat.floor_natCast_div_natCast _ _).symm

/-- With decimal places, no mantissa is rounded to more than its bits. -/
theorem wholeMagnitude_halfUp_lt {m : ℕ} {e : ℤ} (hc : Canonical m e) (he : e < 0) :
    Binary64.wholeMagnitude .halfUp m e < 2 ^ 53 := by
  obtain ⟨n, hn⟩ : ∃ n, (-e).toNat = n + 1 := ⟨(-e).toNat - 1, by omega⟩
  have hunit : 2 ≤ 1 <<< (-e).toNat := by
    rw [hn, Nat.shiftLeft_eq, one_mul, pow_succ]
    have := Nat.one_le_two_pow (n := n)
    omega
  have hbits := hc.bits
  unfold Binary64.wholeMagnitude Binary64.cutQuotient
  rw [if_neg (not_le.2 he)]
  dsimp only
  generalize 1 <<< (-e).toNat = unit at hunit ⊢
  exact Nat.div_lt_of_lt_mul (by omega)

/-- The integer part of what a float holds. -/
theorem Holds.toInt64 {x : Float} {v : ℚ} (h : Holds x v) (hlow : 0 ≤ v) (hhigh : v < 2 ^ 63) :
    Binary64.toInt64 x = ⌊v⌋ := by
  unfold Holds at h
  have hfloor : 0 ≤ ⌊v⌋ := Int.floor_nonneg.2 hlow
  have hmax : ⌊v⌋ < 2 ^ 63 := Int.floor_lt.2 (by exact_mod_cast hhigh)
  unfold Binary64.toInt64 Binary64.saturate
  rw [ofFloat_eq]
  generalize x.toModel.unpack = u at h
  cases h with
  | zero s => cases s <;> decide
  | @finite s m e hm hc =>
    cases s with
    | positive =>
      have hwhole := wholeMagnitude_down m e
      rw [factor, one_mul] at hfloor hmax ⊢
      simp only [takenApart, isNegative, hwhole, minInt64, maxInt64, Bool.false_eq_true, if_false]
      omega
    | negative =>
      have hpos : (0 : ℚ) < m * 2 ^ e := by
        have : (0 : ℚ) < m := Nat.cast_pos.2 hm
        positivity
      rw [factor] at hlow
      linarith

/-- The nearest whole number of what a float holds. -/
theorem Holds.round {x : Float} {v : ℚ} (h : Holds x v) (hv : 0 ≤ v) : Holds (Binary64.round x) ⌊v + 1 / 2⌋ := by
  have hvalue : Value x.toModel.unpack v := h
  unfold Binary64.round
  rw [ofFloat_eq]
  generalize x.toModel.unpack = u at hvalue
  cases hvalue with
  | zero s =>
    have hzero : ⌊(0 : ℚ) + 1 / 2⌋ = 0 := by norm_num
    have hwhole : Binary64.wholeMagnitude .halfUp 0 (-1074) = 0 := by decide
    have hnone : Holds (Float.ofNat 0) 0 := Value.zero .positive
    simp only [takenApart]
    rw [hzero, Int.cast_zero, if_neg (by norm_num), hwhole]
    cases s
    · exact neg_zero (G := ℚ) ▸ hnone.neg
    · exact hnone
  | @finite s m e hm hc =>
    have hpos : (0 : ℚ) < m * 2 ^ e := by
      have : (0 : ℚ) < m := Nat.cast_pos.2 hm
      positivity
    cases s with
    | negative =>
      rw [factor] at hv
      linarith
    | positive =>
      have hwhole := wholeMagnitude_halfUp m e
      rw [factor, one_mul] at h ⊢
      simp only [takenApart, isNegative]
      split
      · rename_i he
        rw [← hwhole, Binary64.wholeMagnitude, if_pos he]
        have hexact := magnitude_eq m e
        rw [if_pos he] at hexact
        rwa [Int.cast_natCast, hexact]
      · rename_i he
        have hbits := wholeMagnitude_halfUp_lt hc (not_le.1 he)
        rw [← hwhole, Int.cast_natCast]
        refine RoundsTo.holds (roundsTo_ofNat _) (OnGrid.int ?_) ?_
        · rw [Nat.abs_cast]
          exact_mod_cast hbits.le
        · rw [Nat.abs_cast]
          exact lt_pow_of_lt (k := 53) (by norm_num) (by exact_mod_cast hbits)

/-- A positive number below a half becomes the positive zero. -/
theorem Holds.round_eq_zero {x : Float} {v : ℚ} (h : Holds x v) (hlow : 0 < v) (hhigh : v < 1 / 2) :
    Binary64.round x = Float.ofNat 0 := by
  unfold Holds at h
  unfold Binary64.round
  rw [ofFloat_eq]
  generalize x.toModel.unpack = u at h
  cases h with
  | zero s => exact absurd hlow (lt_irrefl 0)
  | @finite s m e hm hc =>
    have hpos : (0 : ℚ) ≤ m * 2 ^ e := by positivity
    cases s with
    | negative =>
      rw [factor] at hlow
      linarith
    | positive =>
      rw [factor, one_mul] at hhigh
      have hwhole := wholeMagnitude_halfUp m e
      have hzero : ⌊(m : ℚ) * 2 ^ e + 1 / 2⌋ = 0 := Int.floor_eq_zero_iff.2 ⟨by linarith, by linarith⟩
      rw [hzero, Int.natCast_eq_zero] at hwhole
      simp only [takenApart, isNegative]
      split
      · -- a number with this exponent is at least one
        rename_i he
        have hone : (1 : ℚ) ≤ m := by exact_mod_cast hm
        have hunit : (1 : ℚ) ≤ 2 ^ e := one_le_zpow₀ (by norm_num) he
        have := one_le_mul_of_one_le_of_one_le hone hunit
        linarith
      · rw [hwhole]
        rfl

/-- The exact value of the integers that a float is taken apart into. -/
theorem Holds.toRat {x : Float} {v : ℚ} (h : Holds x v) : (Binary64.ofFloat x).toRat = v := by
  unfold Holds at h
  rw [ofFloat_eq]
  generalize x.toModel.unpack = u at h
  cases h with
  | zero s => cases s <;> rfl
  | @finite s m e hm hc =>
    have hmagnitude := magnitude_eq m e
    cases s with
    | positive => simpa [takenApart, isNegative, Binary64.toRat, factor] using hmagnitude
    | negative =>
      rw [factor, neg_one_mul, ← hmagnitude]
      rfl

/-- What is between two numbers is neither a NaN nor infinite. -/
theorem Value.finite_between {u w z : UnpackedFloat} {a b : ℚ} (hu : Value u a) (hw : Value w b) (hlow : u.lt z = true)
    (hhigh : z.le w = true) : z ≠ .notANumber ∧ ∀ s, z ≠ .infinity s := by
  constructor
  · rintro rfl
    cases hu <;> cases hlow
  · rintro s rfl
    cases s
    · cases hu <;> cases hlow
    · cases hw <;> cases hhigh

theorem exists_holds_of_finite {x : Float} (hnan : x.toModel.unpack ≠ .notANumber)
    (hinf : ∀ s, x.toModel.unpack ≠ .infinity s) : ∃ v, Holds x v := by
  rcases exists_value_unpack x.toModel.toBits.toBitVec with h | ⟨s, h⟩ | h
  · exact absurd h hnan
  · exact absurd h (hinf s)
  · exact h

/-- A finite float holds its exact value. -/
theorem holds_of_isFinite {x : Float} (h : x.isFinite = true) : Holds x (Binary64.ofFloat x).toRat := by
  have hfinite : x.toModel.unpack.isFinite = true := h
  have hvalue : ∃ v, Holds x v := by
    refine exists_holds_of_finite (fun hnan => ?_) (fun s hinf => ?_)
    · rw [hnan] at hfinite
      cases hfinite
    · rw [hinf] at hfinite
      cases hfinite
  obtain ⟨v, hv⟩ := hvalue
  rwa [hv.toRat]

theorem Value.isFinite {u : UnpackedFloat} {v : ℚ} (h : Value u v) : u.isFinite = true := by
  cases h <;> rfl

theorem Holds.isFinite {x : Float} {v : ℚ} (h : Holds x v) : x.isFinite = true := Value.isFinite h

/-- A float between two floats that hold something holds something between. -/
theorem exists_holds {x a b : Float} {v w : ℚ} (ha : Holds a v) (hb : Holds b w) (hlow : a < x) (hhigh : x ≤ b) :
    ∃ d, Holds x d ∧ v < d ∧ d ≤ w := by
  obtain ⟨hnan, hinf⟩ := Value.finite_between ha hb (decide_eq_true_iff.1 hlow) (decide_eq_true_iff.1 hhigh)
  obtain ⟨d, hd⟩ := exists_holds_of_finite hnan hinf
  refine ⟨d, hd, (ha.lt_iff hd).1 hlow, ?_⟩
  by_contra hlarge
  exact not_le_of_lt ((hb.lt_iff hd).2 (not_le.1 hlarge)) hhigh

end TuningAdvisor.Rounding
