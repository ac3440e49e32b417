import TuningAdvisor.Number.Binary64
import TuningAdvisor.Proofs.Rounding
/-!
# Arithmetic of floats: what `check_duration` and `ContainerGenerator` compute with

A float that is neither infinite nor a NaN holds a rational. **The operations hold a number nearest to the
exact result** as long as it is not too large, decimal numerals are read as such a number, and floats compare as the
rationals that they hold.
-/

namespace TuningAdvisor.Rounding

open Float.Model (Format UnpackedFloat totalExponent)
open Float.Model.UnpackedFloat

/-- The float is finite, and its value is `v`. -/
def Holds (x : Float) (v : ℚ) : Prop := Value x.toModel.unpack v

theorem Value.holds {u : UnpackedFloat} {v : ℚ} (h : Value u v) : Holds (.ofModel (.pack u)) v := by
  show Value (unpack Format.binary64 (pack Format.binary64 u)) v
  rwa [h.unpack_pack]

theorem Value.onGrid {u : UnpackedFloat} {v : ℚ} (h : Value u v) : OnGrid v := by
  cases h with
  | zero s => exact .int (n := 0) (by norm_num)
  | @finite s m e hm hc =>
    have hpos : OnGrid (m * 2 ^ e) := ⟨m, e, by rw [Nat.abs_cast]; exact_mod_cast hc.bits.le, hc.low, by simp⟩
    cases s with
    | positive => simpa [factor] using hpos
    | negative => simpa [factor] using hpos.neg

theorem Holds.onGrid {x : Float} {v : ℚ} (h : Holds x v) : OnGrid v := Value.onGrid h

/-- The float is the exact result rounded, or infinite where that is too large. -/
def RoundsTo (x : Float) (y : ℚ) : Prop := ∃ u v, x = .ofModel (.pack u) ∧ Nearest v y ∧ Rounded u v

theorem RoundsTo.exists_holds {x : Float} {y : ℚ} (h : RoundsTo x y) (hsmall : |y| < 2 ^ 1000) :
    ∃ v, Nearest v y ∧ Holds x v := by
  obtain ⟨u, v, rfl, hv, hu⟩ := h
  exact ⟨v, hv, (hv.value hu hsmall).holds⟩

/-- A result on the grid is held as it is. -/
theorem RoundsTo.holds {x : Float} {y : ℚ} (h : RoundsTo x y) (hgrid : OnGrid y) (hsmall : |y| < 2 ^ 1000) :
    Holds x y := by
  obtain ⟨v, hv, hholds⟩ := h.exists_holds hsmall
  rwa [hv.eq hgrid] at hholds

/-! ## Order -/

/-- A greater exponent outweighs the mantissa. -/
theorem Canonical.lt_of_exponent_lt {m n : ℕ} {e f : ℤ} (hm : Canonical m e) (hn : Canonical n f) (h : e < f) :
    (m : ℚ) * 2 ^ e < n * 2 ^ f := by
  have hfull : (2 : ℚ) ^ 52 ≤ n := by exact_mod_cast hn.full.resolve_right (by have := hm.low; omega)
  have hbits : (m : ℚ) < 2 ^ 53 := by exact_mod_cast hm.bits
  calc (m : ℚ) * 2 ^ e < 2 ^ 53 * 2 ^ e := mul_lt_mul_of_pos_right hbits (by positivity)
    _ = 2 ^ 52 * 2 ^ (e + 1) := by rw [zpow_add_one₀ (by norm_num)]; ring
    _ ≤ n * 2 ^ f := mul_le_mul hfull (zpow_le_zpow_right₀ (by norm_num) (by omega)) (by positivity) (by positivity)

theorem Canonical.lt_iff {m n : ℕ} {e f : ℤ} (hm : Canonical m e) (hn : Canonical n f) :
    ((compare e f).then (compare m n)) = .lt ↔ (m : ℚ) * 2 ^ e < n * 2 ^ f := by
  rcases lt_trichotomy e f with h | rfl | h
  · simp [Int.compare_eq_lt.2 h, hm.lt_of_exponent_lt hn h]
  · have hunit : (0 : ℚ) < 2 ^ e := by positivity
    simp [Nat.compare_eq_lt, mul_lt_mul_iff_left₀ hunit]
  · simp [Int.compare_eq_gt.2 h, (hn.lt_of_exponent_lt hm h).le]

theorem compare_then_swap (m n : ℕ) (e f : ℤ) :
    ((compare e f).then (compare m n)).swap = (compare f e).then (compare n m) := by
  rw [Ordering.swap_then, ← Std.OrientedOrd.eq_swap, ← Std.OrientedOrd.eq_swap]

/-- Floats compare as what they hold. -/
theorem Value.lt_iff {u w : UnpackedFloat} {v z : ℚ} (hu : Value u v) (hw : Value w z) :
    u.lt w = true ↔ v < z := by
  have hpos : ∀ {m : ℕ} {e : ℤ}, 0 < m → (0 : ℚ) < m * 2 ^ e := fun h => by
    have : (0 : ℚ) < _ := Nat.cast_pos.2 h
    positivity
  cases hu with
  | zero s =>
    cases hw with
    | zero s' => simp [UnpackedFloat.lt, UnpackedFloat.compare]
    | @finite s' n f hn hc' =>
      have := hpos (e := f) hn
      cases s' <;> simp [UnpackedFloat.lt, UnpackedFloat.compare, factor, this, this.le]
  | @finite s m e hm hc =>
    have hmpos := hpos (e := e) hm
    cases hw with
    | zero s' => cases s <;> simp [UnpackedFloat.lt, UnpackedFloat.compare, factor, hmpos, hmpos.le]
    | @finite s' n f hn hc' =>
      have hnpos := hpos (e := f) hn
      cases s <;> cases s'
      · simp only [UnpackedFloat.lt, UnpackedFloat.compare, factor, compare_then_swap]
        simpa using hc'.lt_iff hc
      · simp [UnpackedFloat.lt, UnpackedFloat.compare, factor]
        linarith
      · simp [UnpackedFloat.lt, UnpackedFloat.compare, factor]
        linarith
      · simp only [UnpackedFloat.lt, UnpackedFloat.compare, factor]
        simpa using hc.lt_iff hc'

theorem Holds.lt_iff {x y : Float} {v w : ℚ} (hx : Holds x v) (hy : Holds y w) : x < y ↔ v < w :=
  decide_eq_true_iff.trans (Value.lt_iff hx hy)

/-- The other way round, floats compare the other way round. -/
theorem compare_swap (u w : UnpackedFloat) : w.compare u = (u.compare w).map Ordering.swap := by
  cases u <;> cases w <;> try rfl
  case infinity.infinity s s' => cases s <;> cases s' <;> rfl
  case infinity.zero s s' => cases s <;> rfl
  case infinity.finite s s' m e hm => cases s <;> cases s' <;> rfl
  case zero.infinity s s' => cases s' <;> rfl
  case zero.finite s s' m e hm => cases s' <;> rfl
  case finite.infinity s m e hm s' => cases s <;> cases s' <;> rfl
  case finite.zero s m e hm s' => cases s <;> rfl
  case finite.finite s m e hm s' n f hn =>
    cases s <;> cases s' <;> simp [UnpackedFloat.compare, compare_then_swap]

theorem Value.le_iff {u w : UnpackedFloat} {v z : ℚ} (hu : Value u v) (hw : Value w z) : u.le w = true ↔ v ≤ z := by
  have hsome : ∃ o, u.compare w = some o := by
    cases hu with
    | zero s =>
      cases hw with
      | zero s' => exact ⟨_, rfl⟩
      | finite s' _ _ => cases s' <;> exact ⟨_, rfl⟩
    | finite s _ _ =>
      cases hw with
      | zero s' => cases s <;> exact ⟨_, rfl⟩
      | finite s' _ _ => cases s <;> cases s' <;> exact ⟨_, rfl⟩
  obtain ⟨o, ho⟩ := hsome
  rw [← not_lt, ← hw.lt_iff hu]
  unfold UnpackedFloat.lt UnpackedFloat.le
  rw [compare_swap u w, ho]
  cases o <;> decide

theorem Holds.le_iff {x y : Float} {v w : ℚ} (hx : Holds x v) (hy : Holds y w) : x ≤ y ↔ v ≤ w :=
  decide_eq_true_iff.trans (Value.le_iff hx hy)

/-- This holds of the floats that are not finite too. -/
theorem not_le_of_lt {x y : Float} (h : x < y) : ¬y ≤ x := by
  intro hle
  have hlt : x.toModel.unpack.lt y.toModel.unpack = true := decide_eq_true_iff.1 h
  have hle : y.toModel.unpack.le x.toModel.unpack = true := decide_eq_true_iff.1 hle
  unfold UnpackedFloat.lt at hlt
  unfold UnpackedFloat.le at hle
  rw [compare_swap x.toModel.unpack, beq_iff_eq.1 hlt] at hle
  cases hle

/-! ## Sign -/

theorem factor_neg (s : Sign) : factor (-s) = -factor s := by
  cases s
  · exact (neg_neg (1 : ℚ)).symm
  · rfl

theorem Value.neg {u : UnpackedFloat} {v : ℚ} (h : Value u v) : Value u.neg (-v) := by
  cases h with
  | zero s =>
    rw [neg_zero]
    exact .zero (-s)
  | finite s hm hc =>
    rw [← neg_mul, ← factor_neg]
    exact .finite (-s) hm hc

theorem Holds.neg {x : Float} {v : ℚ} (h : Holds x v) : Holds (-x) (-v) := (Value.neg h).holds

theorem holds_zero : Holds 0.0 0 := Value.zero .positive

theorem Holds.abs {x : Float} {v : ℚ} (h : Holds x v) : Holds (Binary64.abs x) |v| := by
  unfold Binary64.abs
  split
  · rename_i hneg
    rw [abs_of_neg ((h.lt_iff holds_zero).1 hneg)]
    exact h.neg
  · rename_i hpos
    rw [abs_of_nonneg (not_lt.1 (mt (h.lt_iff holds_zero).2 hpos))]
    exact h

/-! ## Products -/

theorem factor_mul (s s' : Sign) : factor (s * s') = factor s * factor s' := by
  cases s <;> cases s' <;> simp [factor]

theorem Value.exists_mul {u w : UnpackedFloat} {v z : ℚ} (hu : Value u v) (hw : Value w z) :
    ∃ r, Nearest r (v * z) ∧ Rounded (mul Format.binary64 u w) r := by
  cases hu with
  | zero s => exact ⟨0, by rw [zero_mul]; exact nearest_zero, by cases hw <;> exact .zero _⟩
  | @finite s m e hm hc =>
    cases hw with
    | zero s' => exact ⟨0, by rw [mul_zero]; exact nearest_zero, .zero _⟩
    | @finite s' n f hn hc' =>
      have hexact : factor s * (m * 2 ^ e) * (factor s' * (n * 2 ^ f)) =
          factor (s * s') * ((m * n : ℕ) * 2 ^ (e + f)) := by
        rw [factor_mul, zpow_add₀ (by norm_num)]
        push_cast
        ring
      have hbits : 52 ≤ (m * n).log2 ∨ e + f ≤ -1074 := by
        rcases hc.full with hfull | he
        · exact .inl ((Nat.le_log2 (by positivity)).2 (hfull.trans (Nat.le_mul_of_pos_right _ hn)))
        · rcases hc'.full with hfull | hf
          · exact .inl ((Nat.le_log2 (by positivity)).2 (hfull.trans (Nat.le_mul_of_pos_left _ hm)))
          · exact .inr (by omega)
      rw [hexact]
      exact exists_rounded_roundWithAccuracy (s * s') (describes_exact (m * n)) hbits

theorem Holds.roundsTo_mul {x y : Float} {v w : ℚ} (hx : Holds x v) (hy : Holds y w) : RoundsTo (x * y) (v * w) := by
  obtain ⟨r, hr, hrounded⟩ := Value.exists_mul hx hy
  exact ⟨_, r, rfl, hr, hrounded⟩

theorem Holds.exists_mul {x y : Float} {v w : ℚ} (hx : Holds x v) (hy : Holds y w) (hsmall : |v * w| < 2 ^ 1000) :
    ∃ r, Nearest r (v * w) ∧ Holds (x * y) r :=
  (hx.roundsTo_mul hy).exists_holds hsmall

/-! ## Differences -/

theorem cast_apply (s : Sign) (n : ℕ) : ((s.apply n : ℤ) : ℚ) = factor s * n := by
  cases s <;> simp [Sign.apply, factor]

/-- A mantissa brought to a lower exponent. -/
theorem value_decreaseExponent (m : ℕ) {e t : ℤ} (h : t ≤ e) :
    ((decreaseExponent m e t).1 : ℚ) * 2 ^ t = m * 2 ^ e := by
  have hshift : (2 : ℚ) ^ e = 2 ^ (e - t).toNat * 2 ^ t := by
    rw [← zpow_natCast, ← zpow_add₀ (by norm_num), Int.toNat_of_nonneg (by omega), sub_add_cancel]
  simp only [decreaseExponent, Nat.shiftLeft_eq]
  rw [hshift]
  push_cast
  ring

theorem Value.exists_sub {u w : UnpackedFloat} {v z : ℚ} (hu : Value u v) (hw : Value w z)
    (hsmall : |v - z| < 2 ^ 1000) : ∃ r, Nearest r (v - z) ∧ Value (sub Format.binary64 u w) r := by
  have hz := hw.neg
  have hv := hu
  cases hu with
  | zero s =>
    cases hw with
    | zero s' =>
      refine ⟨0, by rw [sub_zero]; exact nearest_zero, ?_⟩
      simp only [sub]
      split
      · exact .zero s
      · exact .zero .positive
    | finite s' hn hc' =>
      rw [zero_sub]
      exact ⟨_, hz.onGrid.nearest, hz⟩
  | @finite s m e hm hc =>
    cases hw with
    | zero s' =>
      rw [sub_zero]
      exact ⟨_, hv.onGrid.nearest, hv⟩
    | @finite s' n f hn hc' =>
      have hexact : ((s.apply ((decreaseExponent m e (min e f)).1 : ℕ) -
          s'.apply ((decreaseExponent n f (min e f)).1 : ℕ) : ℤ) : ℚ) * 2 ^ min e f =
          factor s * (m * 2 ^ e) - factor s' * (n * 2 ^ f) := by
        rw [← value_decreaseExponent m (min_le_left e f), ← value_decreaseExponent n (min_le_right e f)]
        push_cast [cast_apply]
        ring
      rw [← hexact] at hsmall ⊢
      rw [abs_mul, abs_of_pos (a := (2 : ℚ) ^ min e f) (by positivity)] at hsmall
      exact exists_nearest_normalize _ _ _ hsmall

theorem Holds.exists_sub {x y : Float} {v w : ℚ} (hx : Holds x v) (hy : Holds y w) (hsmall : |v - w| < 2 ^ 1000) :
    ∃ r, Nearest r (v - w) ∧ Holds (x - y) r := by
  obtain ⟨r, hr, hvalue⟩ := Value.exists_sub hx hy hsmall
  exact ⟨r, hr, hvalue.holds⟩

/-! ## Quotients -/

/-- The remainder says what is behind the point of a quotient. -/
theorem describes_div (m : ℕ) {d : ℕ} (hd : 0 < d) :
    Describes (ExtendedMantissa.ofMantissaAndAccuracy (m / d) (accuracyOfFraction (m % d) d)) ((m : ℚ) / d) := by
  have hdpos : (0 : ℚ) < d := Nat.cast_pos.2 hd
  have hmod := Nat.mod_lt m hd
  have hm : (m : ℚ) = d * (m / d : ℕ) + (m % d : ℕ) := by exact_mod_cast (Nat.div_add_mod m d).symm
  have hy : 2 * ((m : ℚ) / d) = 2 * (m / d : ℕ) + (2 * (m % d) : ℕ) / d := by
    rw [hm]
    push_cast
    field_simp
  generalize m / d = q at hy ⊢
  generalize m % d = r at hmod hy ⊢
  unfold accuracyOfFraction
  by_cases hzero : r = 0
  · rw [if_pos hzero]
    have hfraction : ((2 * r : ℕ) : ℚ) / d = 0 := by simp [hzero]
    rw [hfraction] at hy
    refine .of_le ?_ ?_ ?_ <;> simp [hy]
  · rw [if_neg hzero]
    rcases lt_trichotomy (2 * r) d with h | h | h
    · have hlow : (0 : ℚ) < (2 * r : ℕ) / d := div_pos (by exact_mod_cast (by omega : 0 < 2 * r)) hdpos
      have hhigh : ((2 * r : ℕ) : ℚ) / d < 1 := by rw [div_lt_one hdpos]; exact_mod_cast h
      rw [Nat.compare_eq_lt.2 h]
      refine .of_le ?_ ?_ ?_ <;> simp only [hy, Bool.toNat_false, Nat.cast_zero, add_zero, true_iff, ne_eq] <;> linarith
    · have hfraction : ((2 * r : ℕ) : ℚ) / d = 1 := by rw [div_eq_one_iff_eq hdpos.ne']; exact_mod_cast h
      rw [Nat.compare_eq_eq.2 h]
      rw [hfraction] at hy
      refine .of_le ?_ ?_ ?_ <;> simp [hy]
    · have hlow : (1 : ℚ) < (2 * r : ℕ) / d := by rw [one_lt_div hdpos]; exact_mod_cast h
      have hhigh : ((2 * r : ℕ) : ℚ) / d < 2 := by rw [div_lt_iff₀ hdpos]; exact_mod_cast (by omega : 2 * r < 2 * d)
      rw [Nat.compare_eq_gt.2 h]
      refine .of_le ?_ ?_ ?_ <;> simp only [hy, Bool.toNat_true, Nat.cast_one, true_iff, ne_eq] <;> linarith

theorem factor_div (s s' : Sign) : factor (s / s') = factor s / factor s' := by
  cases s <;> cases s' <;> simp [factor] <;> rfl

/-- The quotient is taken of a mantissa shifted far enough to have all its bits. -/
theorem log2_quotient {m n k : ℕ} (hm : 0 < m) (hn : 0 < n) (h : n.log2 + 53 ≤ m.log2 + k) :
    52 ≤ ((m <<< k) / n).log2 := by
  have hlow : 2 ^ 52 * n ≤ m <<< k := by
    rw [Nat.shiftLeft_eq]
    calc 2 ^ 52 * n ≤ 2 ^ 52 * 2 ^ (n.log2 + 1) := Nat.mul_le_mul_left _ Nat.lt_log2_self.le
      _ = 2 ^ (n.log2 + 53) := by rw [← pow_add]; congr 1; omega
      _ ≤ 2 ^ (m.log2 + k) := Nat.pow_le_pow_right (by norm_num) h
      _ = 2 ^ m.log2 * 2 ^ k := pow_add ..
      _ ≤ m * 2 ^ k := Nat.mul_le_mul_right _ (Nat.log2_self_le hm.ne')
  have hquotient : 2 ^ 52 ≤ (m <<< k) / n := (Nat.le_div_iff_mul_le hn).2 hlow
  exact (Nat.le_log2 (by omega)).2 hquotient

/-- The quotient of two mantissas, whatever bits they have. -/
theorem exists_rounded_div (s s' : Sign) {m n : ℕ} (hm : 0 < m) (hn : 0 < n) (e f : ℤ) :
    ∃ r, Nearest r (factor s * (m * 2 ^ e) / (factor s' * (n * 2 ^ f))) ∧
      Rounded (div Format.binary64 (.finite s m e hm) (.finite s' n f hn)) r := by
  set t := min (e - f) (Format.binary64.targetExponent (totalExponent m e - totalExponent n f)) with ht
  rw [targetExponent_eq, totalExponent, totalExponent] at ht
  obtain ⟨k, hk⟩ : ∃ k : ℕ, e - f - t = k := ⟨(e - f - t).toNat, by omega⟩
  have hcore : divCore Format.binary64 m e n f = ((m <<< k) / n, t, accuracyOfFraction ((m <<< k) % n) n) := by
    have : (e - f - t).toNat = k := by omega
    rw [← this]
    rfl
  have hexact : factor s * (m * 2 ^ e) / (factor s' * (n * 2 ^ f)) =
      factor (s / s') * (((m <<< k : ℕ) : ℚ) / n * 2 ^ t) := by
    rw [mul_div_mul_comm, ← factor_div, Nat.shiftLeft_eq, show t = e - f - k by omega, zpow_sub₀ (by norm_num),
      zpow_sub₀ (by norm_num), zpow_natCast]
    push_cast
    field_simp
  have hbits : 52 ≤ ((m <<< k) / n).log2 ∨ t ≤ -1074 := by
    by_cases hlow : t ≤ -1074
    · exact .inr hlow
    · exact .inl (log2_quotient hm hn (by omega))
  rw [hexact]
  simp only [div, hcore]
  exact exists_rounded_roundWithAccuracy (s / s') (describes_div (m <<< k) hn) hbits

theorem Value.exists_div {u w : UnpackedFloat} {v z : ℚ} (hu : Value u v) (hw : Value w z) (hz : z ≠ 0) :
    ∃ r, Nearest r (v / z) ∧ Rounded (div Format.binary64 u w) r := by
  cases hw with
  | zero s' => exact absurd rfl hz
  | @finite s' n f hn hc' =>
    cases hu with
    | zero s => exact ⟨0, by rw [zero_div]; exact nearest_zero, .zero _⟩
    | @finite s m e hm hc => exact exists_rounded_div s s' hm hn e f

theorem Holds.roundsTo_div {x y : Float} {v w : ℚ} (hx : Holds x v) (hy : Holds y w) (hw : w ≠ 0) :
    RoundsTo (x / y) (v / w) := by
  obtain ⟨r, hr, hrounded⟩ := Value.exists_div hx hy hw
  exact ⟨_, r, rfl, hr, hrounded⟩

theorem Holds.exists_div {x y : Float} {v w : ℚ} (hx : Holds x v) (hy : Holds y w) (hw : w ≠ 0)
    (hsmall : |v / w| < 2 ^ 1000) : ∃ r, Nearest r (v / w) ∧ Holds (x / y) r :=
  (hx.roundsTo_div hy hw).exists_holds hsmall

/-! ## Whole numbers -/

theorem lt_pow_of_lt {x : ℚ} {k : ℕ} (hk : k ≤ 1000) (h : x < 2 ^ k) : x < 2 ^ 1000 :=
  h.trans_le (pow_le_pow_right₀ (by norm_num) hk)

theorem exists_nearest_toFloat (n : UInt64) : ∃ v, Nearest v n.toNat ∧ Holds n.toFloat v := by
  have hsmall : |((n.toNat : ℤ) : ℚ)| * 2 ^ (0 : ℤ) < 2 ^ 1000 := by
    rw [zpow_zero, mul_one, Int.cast_natCast, Nat.abs_cast]
    exact lt_pow_of_lt (k := 64) (by norm_num) (by exact_mod_cast n.toNat_lt)
  obtain ⟨v, hv, hvalue⟩ := exists_nearest_normalize n.toNat 0 .positive hsmall
  exact ⟨v, by simpa using hv, hvalue.holds⟩

theorem holds_one : Holds (Float.ofBits 0x3FF0000000000000) 1 := by
  have hc : Canonical (2 ^ 52) (-52) := ⟨by norm_num, by norm_num, by norm_num, .inl le_rfl⟩
  have h : Value (.finite .positive (2 ^ 52) (-52) (by norm_num)) 1 := .of_eq _ hc (by norm_num)
  exact h

/-- A number without decimal places is rounded as it is. -/
theorem ofScientific_nat {n : ℕ} (hn : n ≠ 0) :
    ofScientific Format.binary64 n 0 = roundWithAccuracy Format.binary64 .positive (n <<< 53) (-53) .exact := by
  unfold ofScientific
  rw [dif_neg hn, if_neg (by norm_num), if_neg (by norm_num), if_pos le_rfl]
  simp only [mul, mantissaBits_eq, Int.toNat_zero, pow_zero, mul_one, add_zero]
  rfl

/-- A whole number that is on the grid is held as it is. -/
theorem holds_toFloat {n : ℕ} (hn : n < 2 ^ 53) : Holds n.toUInt64.toFloat n := by
  have hgrid : OnGrid n := OnGrid.int (n := n) (by rw [Nat.abs_cast]; exact_mod_cast hn.le)
  obtain ⟨v, hv, hholds⟩ := exists_nearest_toFloat n.toUInt64
  rw [Nat.toUInt64_eq, UInt64.toNat_ofNat_of_lt' (hn.trans (by decide))] at hv
  rwa [hv.eq hgrid] at hholds

theorem roundsTo_ofNat (n : ℕ) : RoundsTo (Float.ofNat n) n := by
  by_cases hexact : n < 2 ^ 53
  · have hof : Float.ofNat n = n.toUInt64.toFloat * Float.ofBits 0x3FF0000000000000 := by
      show Float.ofScientific n false 0 = _
      rw [Float.ofScientific, dif_pos ⟨hexact, by norm_num⟩]
      rfl
    rw [hof, ← mul_one (n : ℚ)]
    exact (holds_toFloat hexact).roundsTo_mul holds_one
  · have hpos : 0 < n <<< 53 := by rw [Nat.shiftLeft_eq]; omega
    have hof : Float.ofNat n =
        .ofModel (.pack (roundWithAccuracy Format.binary64 .positive (n <<< 53) (-53) .exact)) := by
      show Float.ofScientific n false 0 = _
      rw [Float.ofScientific, dif_neg (fun h => hexact h.1)]
      exact congrArg (fun u => Float.ofModel (.pack u)) (ofScientific_nat (by omega))
    have hbits : 52 ≤ (n <<< 53).log2 := (Nat.le_log2 hpos.ne').2 (by rw [Nat.shiftLeft_eq]; omega)
    have hvalue : ((n <<< 53 : ℕ) : ℚ) * 2 ^ (-53 : ℤ) = n := by
      rw [Nat.shiftLeft_eq, Nat.cast_mul, Nat.cast_pow, Nat.cast_ofNat, mul_assoc, ← zpow_natCast,
        ← zpow_add₀ (by norm_num)]
      simp
    obtain ⟨v, hv, hround⟩ := exists_rounded_roundWithAccuracy .positive (describes_exact (n <<< 53)) (e := -53)
      (.inl hbits)
    rw [hvalue, factor, one_mul] at hv
    exact ⟨_, v, hof, hv, hround⟩

theorem exists_nearest_ofNat {n : ℕ} (hn : n < 2 ^ 64) : ∃ v, Nearest v n ∧ Holds (Float.ofNat n) v :=
  (roundsTo_ofNat n).exists_holds (by rw [Nat.abs_cast]; exact lt_pow_of_lt (k := 64) (by norm_num) (by exact_mod_cast hn))

theorem exists_nearest_ofInt {n : ℤ} (hn : |n| < 2 ^ 64) : ∃ v, Nearest v n ∧ Holds (Float.ofInt n) v := by
  cases n with
  | ofNat n => exact exists_nearest_ofNat (by simpa using hn)
  | negSucc n =>
    obtain ⟨v, hv, hholds⟩ := exists_nearest_ofNat (n := n + 1) (by rw [abs_lt] at hn; omega)
    refine ⟨-v, ?_, hholds.neg⟩
    simpa using hv.neg

end TuningAdvisor.Rounding
