import TuningAdvisor.Proofs.FloatBits
/-!
# Lower bounds of floats: the limits of `ContainerGenerator`

A result that is too large is infinite, which is no harm where only a lower bound is wanted. **A bound on the grid goes
through products, quotients and rounding** (`AtLeast`), whatever the size of the floats is; and a float above zero is
either infinite or holds something.
-/

namespace TuningAdvisor.Rounding

open Float.Model (Format UnpackedFloat)
open Float.Model.UnpackedFloat

variable {x y : Float} {b c v w : ℚ}

/-- What holds something is below infinity. -/
theorem lt_of_infinite (hy : Holds y w) (hx : x.toModel.unpack = .infinity .positive) : y < x ∧ y ≤ x := by
  have hboth : y.toModel.unpack.lt x.toModel.unpack = true ∧ y.toModel.unpack.le x.toModel.unpack = true := by
    have hvalue : Value y.toModel.unpack w := hy
    rw [hx]
    generalize y.toModel.unpack = u at hvalue
    cases hvalue with
    | zero s => exact ⟨rfl, rfl⟩
    | finite s _ _ => cases s <;> exact ⟨rfl, rfl⟩
  exact ⟨decide_eq_true_iff.2 hboth.1, decide_eq_true_iff.2 hboth.2⟩

/-- The float is infinite, or holds a number that is not less than `b`. -/
def AtLeast (x : Float) (b : ℚ) : Prop := x.toModel.unpack = .infinity .positive ∨ ∃ v, Holds x v ∧ b ≤ v

theorem AtLeast.lt (h : AtLeast x b) (hy : Holds y w) (hw : w < b) : y < x := by
  obtain hinf | ⟨v, hv, hle⟩ := h
  · exact (lt_of_infinite hy hinf).1
  · exact (hy.lt_iff hv).2 (hw.trans_le hle)

theorem AtLeast.pos (h : AtLeast x b) (hb : 0 < b) : 0.0 < x := h.lt holds_zero hb

theorem Value.below {u z : UnpackedFloat} (h : Value u v) (hz : u.lt z = true) :
    z ≠ .notANumber ∧ z ≠ .infinity .negative := by
  constructor <;> rintro rfl <;> cases h <;> cases hz

/-- A float above one that holds something is infinite, or holds something itself. -/
theorem infinite_or_holds (hy : Holds y w) (h : y < x) :
    x.toModel.unpack = .infinity .positive ∨ ∃ v, Holds x v ∧ w < v := by
  obtain ⟨hnan, hneg⟩ := Value.below hy (decide_eq_true_iff.1 h)
  by_cases hinf : x.toModel.unpack = .infinity .positive
  · exact .inl hinf
  · obtain ⟨v, hv⟩ := exists_holds_of_finite hnan fun s => by
      cases s
      · exact hneg
      · exact hinf
    exact .inr ⟨v, hv, (hy.lt_iff hv).1 h⟩

theorem RoundsTo.atLeast {z : ℚ} (h : RoundsTo x z) (hb : 0 < b) (hgrid : OnGrid b) (hz : b ≤ z) : AtLeast x b := by
  obtain ⟨u, v, rfl, hv, hu⟩ := h
  have hle := hv.le hgrid hz
  obtain hvalue | ⟨s, hinf, hsign⟩ := hu.value_or_infinite
  · exact .inr ⟨v, hvalue.holds, hle⟩
  · cases s with
    | positive => exact .inl hinf
    | negative =>
      rw [factor] at hsign
      linarith

/-! ## What keeps a bound -/

/-- The factor is told by its kind. -/
theorem Value.eq_finite {u : UnpackedFloat} (h : Value u w) (hw : 0 < w) :
    ∃ m e, ∃ hm : 0 < m, u = .finite .positive m e hm := by
  cases h with
  | zero s => exact absurd hw (lt_irrefl 0)
  | @finite s m e hm hc =>
    cases s with
    | positive => exact ⟨m, e, hm, rfl⟩
    | negative =>
      have hpos : (0 : ℚ) ≤ m * 2 ^ e := by positivity
      rw [factor] at hw
      linarith

theorem AtLeast.mul (h : AtLeast x b) (hy : Holds y w) (hw : 0 < w) (hc : 0 < c) (hgrid : OnGrid c) (hle : c ≤ b * w) :
    AtLeast (x * y) c := by
  obtain hinf | ⟨v, hv, hbound⟩ := h
  · left
    obtain ⟨m, e, hm, hfinite⟩ := Value.eq_finite hy hw
    show unpack Format.binary64 (pack Format.binary64 (UnpackedFloat.mul Format.binary64 x.toModel.unpack y.toModel.unpack)) = _
    rw [hinf, hfinite]
    exact unpack_packedInfinity .positive
  · exact (hv.roundsTo_mul hy).atLeast hc hgrid (hle.trans (mul_le_mul_of_nonneg_right hbound hw.le))

theorem AtLeast.div (h : AtLeast x b) (hy : Holds y w) (hw : 0 < w) (hc : 0 < c) (hgrid : OnGrid c) (hle : c ≤ b / w) :
    AtLeast (x / y) c := by
  obtain hinf | ⟨v, hv, hbound⟩ := h
  · left
    obtain ⟨m, e, hm, hfinite⟩ := Value.eq_finite hy hw
    show unpack Format.binary64 (pack Format.binary64 (UnpackedFloat.div Format.binary64 x.toModel.unpack y.toModel.unpack)) = _
    rw [hinf, hfinite]
    exact unpack_packedInfinity .positive
  · exact (hv.roundsTo_div hy hw.ne').atLeast hc hgrid (hle.trans (div_le_div_of_nonneg_right hbound hw.le))

/-- From a half on, the nearest whole number is at least one. -/
theorem AtLeast.round (h : AtLeast x (1 / 2)) : AtLeast (Binary64.round x) 1 := by
  obtain hinf | ⟨v, hv, hbound⟩ := h
  · left
    have hkept : Binary64.round x = x := by
      unfold Binary64.round
      rw [ofFloat_eq, hinf]
      rfl
    rwa [hkept]
  · have hone : (1 : ℤ) ≤ ⌊v + 1 / 2⌋ := Int.le_floor.2 (by push_cast; linarith)
    exact .inr ⟨_, hv.round (by linarith), by exact_mod_cast hone⟩

end TuningAdvisor.Rounding
