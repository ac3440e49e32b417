import TuningAdvisor.Proofs.DecimalFloats
import TuningAdvisor.Proofs.Numerals
import TuningAdvisor.Proofs.ShortestDigits
/-!
# Written numbers are read back: the values between `generate` and `numeric_value`

A number goes through its text from one tunable to the next. **What is read back is a text's decimal rounded once**
(`Numeral.exists_number?`), and a text with the shortest digits has a decimal so near to its number that no lower bound
is lost but for a half (`AtLeast.exists_number?_plain`). Whole numbers are written rounded, and read back as they are.
-/

namespace TuningAdvisor

open Rounding (AtLeast Holds OnGrid RoundsTo Value)

/-- Zeros behind shift the digits. -/
theorem Written.ofDigits_zeros (k n : Nat) : Decimal.ofDigits (Nat.toDigits 10 n ++ List.replicate k '0') = n * 10 ^ k := by
  have hzeros := Nat.ofDigitChars_append (b := 10) (l := Nat.toDigits 10 n) (m := List.replicate k '0') 0
  rw [Nat.ofDigitChars_replicate_zero, Nat.ofDigitChars_ten_toDigits, Nat.mul_comm] at hzeros
  exact hzeros

namespace EnvEntry

theorem number?_inf (name : String) : ({ name, value := "inf" } : EnvEntry).number? = some (1.0 / 0.0) := by
  rw [number?_of_solid (Readable.solid_of_all (by decide)) name]
  rfl

theorem number?_zero (name : String) : ({ name, value := "0" } : EnvEntry).number? = some 0.0 := by
  rw [number?_of_solid (Readable.solid_of_all (by decide)) name]
  decide +kernel

end EnvEntry

/-- A text that stands for a decimal, without blanks and equals signs. -/
structure Numeral (s : String) (q : ℚ) : Prop where
  solid : ∀ c ∈ s.toList, isBlank c = false ∧ c ≠ '='
  read : ∃ m : ℕ, ∃ e : ℤ, e ≤ 0 ∧ (m : ℚ) * 10 ^ e = q ∧ Decimal.read? s.toList = some ⟨false, m, e⟩

namespace Numeral

variable {s : String} {q : ℚ}

/-- An entry with such a text carries the decimal, rounded. -/
theorem exists_number? (h : Numeral s q) (name : String) :
    ∃ x, ({ name, value := s } : EnvEntry).number? = some x ∧ RoundsTo x q := by
  obtain ⟨m, e, he, hvalue, hread⟩ := h.read
  refine ⟨_, ?_, hvalue ▸ Decimal.roundsTo_toFloat m he⟩
  rw [EnvEntry.number?_of_solid h.solid]
  unfold readFloat?
  rw [hread]

/-- Digits alone. -/
theorem of_digits {cs : List Char} (hs : s.toList = cs) (hne : cs ≠ []) (hdigits : ∀ c ∈ cs, c.isDigit = true)
    (hq : (Decimal.ofDigits cs : ℚ) = q) : Numeral s q where
  solid c hc := Readable.solid_of_digit (.inl (hdigits c (hs ▸ hc)))
  read := by
    have hsign := Decimal.takeSign_of_digits hne hdigits []
    rw [List.append_nil] at hsign
    refine ⟨Decimal.ofDigits cs, 0, le_rfl, by rw [zpow_zero, mul_one, hq], ?_⟩
    rw [hs]
    exact Decimal.read?_of_mantissa hsign (Decimal.takeMantissa_of_digits hne hdigits) false

/-- Digits with the point before the last of them. -/
theorem withPoint (n places : ℕ) : Numeral (Written.withPoint n places) (n / 10 ^ places) := by
  obtain ⟨whole, fraction, hne, hwhole, hfraction, hdigits, hplaces, htext⟩ := Written.exists_withPoint n places
  by_cases hzero : places = 0
  · rw [if_pos hzero] at htext
    have hnone : fraction = [] := List.eq_nil_of_length_eq_zero (hplaces.trans hzero)
    rw [hnone, List.append_nil] at hdigits
    exact of_digits htext hne hwhole (by rw [hdigits, hzero, pow_zero, div_one])
  · rw [if_neg hzero] at htext
    refine ⟨fun c hc => ?_, n, -places, by omega, by rw [zpow_neg, zpow_natCast, div_eq_mul_inv], ?_⟩
    · rw [htext, List.mem_append, List.mem_cons] at hc
      rcases hc with hc | rfl | hc
      · exact Readable.solid_of_digit (.inl (hwhole c hc))
      · exact Readable.solid_of_digit (.inr rfl)
      · exact Readable.solid_of_digit (.inl (hfraction c hc))
    · rw [htext]
      have hmantissa := Decimal.takeMantissa_of_point hne hwhole hfraction
      rw [hdigits, hplaces] at hmantissa
      exact Decimal.read?_of_mantissa (Decimal.takeSign_of_digits hne hwhole _) hmantissa false

theorem positional (d : DecimalDigits) : Numeral (Written.positional d) d.value := by
  unfold Written.positional DecimalDigits.value
  split
  · rename_i he
    obtain ⟨k, hk⟩ := Int.eq_ofNat_of_zero_le he
    have hdigits : ∀ c ∈ Nat.toDigits 10 d.digits ++ List.replicate k '0', c.isDigit = true := by
      intro c hc
      rcases List.mem_append.1 hc with hc | hc
      · exact Written.isDigit_of_mem_digits hc
      · rw [List.eq_of_mem_replicate hc]
        decide
    refine of_digits ?_ (by simp) hdigits ?_
    · rw [hk]
      simp [Written.digitsOf, Written.zeros]
    · rw [Written.ofDigits_zeros, hk, zpow_natCast]
      push_cast
      rfl
  · rename_i he
    obtain ⟨k, hk⟩ : ∃ k : ℕ, -d.exponent = k := ⟨(-d.exponent).toNat, by omega⟩
    have hpow : (10 : ℚ) ^ d.exponent = (10 ^ k)⁻¹ := by rw [← neg_neg d.exponent, hk, zpow_neg, zpow_natCast]
    rw [hk, Int.toNat_natCast, hpow, ← div_eq_mul_inv]
    exact withPoint d.digits k

end Numeral

/-! ## Shortest digits -/

variable {x : Float} {b v : ℚ}

/-- The text of a positive number has a decimal of at least half the number. -/
theorem exists_numeral_plain (h : Holds x v) (hv : 0 < v) : ∃ q, v / 2 ≤ q ∧ Numeral (plain x) q := by
  unfold Holds at h
  unfold plain
  rw [Rounding.ofFloat_eq]
  generalize x.toModel.unpack = u at h
  obtain ⟨m, e, hm, rfl⟩ := Value.eq_finite h hv
  cases h with
  | finite s hm hc =>
    refine ⟨(shortest .up m e).value, ?_, ?_⟩
    · have hnear := (abs_le.1 (shortest_near hm hc.bits .up e)).1
      have hone : (2 : ℚ) ^ e ≤ m * 2 ^ e := le_mul_of_one_le_left (by positivity) (by exact_mod_cast hm)
      rw [Rounding.factor, one_mul]
      linarith
    · simp only [Rounding.takenApart, Rounding.isNegative, Written.sign]
      rw [if_neg hm.ne']
      exact Numeral.positional _

theorem written_of_infinite (hx : x.toModel.unpack = .infinity .positive) (places : ℕ) :
    plain x = "inf" ∧ fixed places x = "inf" := by
  unfold plain fixed
  rw [Rounding.ofFloat_eq, hx]
  exact ⟨rfl, rfl⟩

/-- A bound is kept but for a half. -/
theorem Rounding.AtLeast.exists_number?_plain (h : AtLeast x b) (hb : 0 < b) (hgrid : OnGrid (b / 2)) (name : String) :
    ∃ y, ({ name, value := plain x } : EnvEntry).number? = some y ∧ AtLeast y (b / 2) := by
  obtain hinf | ⟨v, hv, hle⟩ := h
  · rw [(written_of_infinite hinf 0).1]
    exact ⟨1.0 / 0.0, EnvEntry.number?_inf name, .inl rfl⟩
  · obtain ⟨q, hq, hnumeral⟩ := exists_numeral_plain hv (by linarith)
    obtain ⟨y, hy, hrounds⟩ := hnumeral.exists_number? name
    exact ⟨y, hy, hrounds.atLeast (half_pos hb) hgrid (by linarith)⟩

/-! ## Whole numbers -/

/-- More than a half is not rounded away. -/
theorem roundHalfEven_pos_iff {n d : ℕ} (hd : 0 < d) : 0 < roundHalfEven n d ↔ d < 2 * n := by
  have hdiv := Nat.div_add_mod n d
  have hmod := Nat.mod_lt n hd
  unfold roundHalfEven
  generalize n / d = quotient at hdiv ⊢
  generalize n % d = rest at hdiv hmod ⊢
  dsimp only
  rcases quotient.eq_zero_or_pos with rfl | hpos
  · rw [mul_zero, zero_add] at hdiv
    split
    · omega
    · split <;> omega
  · have hle : d * 1 ≤ d * quotient := Nat.mul_le_mul_left d hpos
    split
    · omega
    · split <;> omega

/-- Without places, a positive number is written as a whole number, zero up to a half. -/
theorem exists_fixed (h : Holds x v) (hv : 0 < v) :
    ∃ n : ℕ, fixed 0 x = Written.withPoint n 0 ∧ (0 < n ↔ 1 / 2 < v) := by
  unfold Holds at h
  unfold fixed
  rw [Rounding.ofFloat_eq]
  generalize x.toModel.unpack = u at h
  obtain ⟨m, e, hm, rfl⟩ := Value.eq_finite h hv
  cases h with
  | finite s hm hc =>
    simp only [Rounding.takenApart, Rounding.isNegative, Written.sign, Rounding.factor, one_mul, Nat.pow_eq, pow_zero,
      mul_one]
    generalize hn : (if 0 ≤ e then m <<< e.toNat else roundHalfEven m (1 <<< (-e).toNat)) = n
    refine ⟨n, rfl, ?_⟩
    have hexact := Rounding.magnitude_eq m e
    rw [← hn, ← hexact]
    split
    · have hwhole : 0 < m <<< e.toNat := by
        rw [Nat.shiftLeft_eq]
        positivity
      have hone : (1 : ℚ) ≤ (m <<< e.toNat : ℕ) := by exact_mod_cast hwhole
      exact iff_of_true hwhole (by linarith)
    · have hunit : 0 < 1 <<< (-e).toNat := by
        rw [Nat.shiftLeft_eq]
        positivity
      have hunit' : (0 : ℚ) < (1 <<< (-e).toNat : ℕ) := Nat.cast_pos.2 hunit
      rw [roundHalfEven_pos_iff hunit, Rat.mkRat_eq_div, Int.cast_natCast, div_lt_div_iff₀ two_pos hunit', one_mul,
        mul_comm (m : ℚ)]
      exact_mod_cast Iff.rfl

end TuningAdvisor
