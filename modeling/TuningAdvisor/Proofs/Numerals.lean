import Mathlib.Data.List.TakeWhile
import TuningAdvisor.Number.Notation
import TuningAdvisor.Recommendation.Env
/-!
# Written numbers are read: `numeric_value` of what the generators write

A number in an entry goes to later tunables through its text. **Whatever is written with a fixed number of places, or as
a whole number, stands for a number again** (`Readable`): digits with a point in them, or one of the words for what
is not finite. Nothing in such a text is a blank or an equals sign, so an entry carries it whole.
-/

namespace TuningAdvisor

/-! ## Reading digits -/

namespace Decimal

variable {whole fraction : List Char}

theorem takeSign_of_digits (hne : whole ≠ []) (hwhole : ∀ c ∈ whole, c.isDigit = true) (rest : List Char) :
    takeSign (whole ++ rest) = (false, whole ++ rest) := by
  obtain ⟨c, cs, rfl⟩ := List.exists_cons_of_ne_nil hne
  have hc := hwhole c List.mem_cons_self
  have hminus : c ≠ '-' := fun h => absurd hc (h ▸ by decide)
  have hplus : c ≠ '+' := fun h => absurd hc (h ▸ by decide)
  unfold takeSign
  split <;> simp_all

theorem takeMantissa_of_digits (hne : whole ≠ []) (hwhole : ∀ c ∈ whole, c.isDigit = true) :
    takeMantissa whole = some ((ofDigits whole, 0), []) := by
  have htake := List.takeWhile_eq_self_iff.2 hwhole
  have hdrop := List.dropWhile_eq_nil_iff.2 hwhole
  unfold takeMantissa
  simp [htake, hdrop, hne]

theorem takeMantissa_of_point (hne : whole ≠ []) (hwhole : ∀ c ∈ whole, c.isDigit = true)
    (hfraction : ∀ c ∈ fraction, c.isDigit = true) :
    takeMantissa (whole ++ '.' :: fraction) = some ((ofDigits (whole ++ fraction), -(fraction.length : Int)), []) := by
  have hpoint : ¬Char.isDigit '.' = true := by decide
  have htake : (whole ++ '.' :: fraction).takeWhile Char.isDigit = whole := by
    rw [List.takeWhile_append_of_pos hwhole, List.takeWhile_cons_of_neg hpoint, List.append_nil]
  have hdrop : (whole ++ '.' :: fraction).dropWhile Char.isDigit = '.' :: fraction := by
    rw [List.dropWhile_append_of_pos hwhole, List.dropWhile_cons_of_neg hpoint]
  unfold takeMantissa
  simp [htake, hdrop, hne, List.takeWhile_eq_self_iff.2 hfraction, List.dropWhile_eq_nil_iff.2 hfraction]

/-- A sign and a mantissa without an exponent are a numeral. -/
theorem read?_of_mantissa {cs : List Char} {mantissa : Nat} {shift : Int} (hsign : takeSign cs = (false, cs))
    (hmantissa : takeMantissa cs = some ((mantissa, shift), [])) (negative : Bool) :
    read? ((Written.sign negative).toList ++ cs) = some { negative, mantissa, exponent := shift } := by
  have hread : ∀ negative, readMagnitude negative cs = some { negative, mantissa, exponent := shift } := by
    intro negative
    simp [readMagnitude, hmantissa, readExponent]
  cases negative with
  | false =>
    unfold read?
    simp [Written.sign, hsign, hread]
  | true => exact hread true

end Decimal

/-! ## Writing digits -/

namespace Written

theorem isDigit_of_mem_digits {n : Nat} {c : Char} (h : c ∈ Nat.toDigits 10 n) : c.isDigit = true :=
  Nat.isDigit_of_mem_toDigits (by decide) (by decide) h

/-- Zeros in front count for nothing. -/
theorem ofDigits_padded (k n : Nat) : Decimal.ofDigits (List.replicate k '0' ++ Nat.toDigits 10 n) = n := by
  have hpadded := Nat.ofDigitChars_append (b := 10) (l := List.replicate k '0') (m := Nat.toDigits 10 n) 0
  rw [Nat.ofDigitChars_replicate_zero, Nat.mul_zero, Nat.ofDigitChars_ten_toDigits] at hpadded
  exact hpadded

/-- Digits, with a point behind at least one of them unless there are no places. -/
theorem exists_withPoint (digits places : Nat) : ∃ whole fraction : List Char, whole ≠ [] ∧
    (∀ c ∈ whole, c.isDigit = true) ∧ (∀ c ∈ fraction, c.isDigit = true) ∧
    Decimal.ofDigits (whole ++ fraction) = digits ∧ fraction.length = places ∧
    (withPoint digits places).toList = if places = 0 then whole else whole ++ '.' :: fraction := by
  let cs := Nat.toDigits 10 digits
  let padded := List.replicate (places + 1 - cs.length) '0' ++ cs
  have hpadded : ∀ c ∈ padded, c.isDigit = true := by
    intro c hc
    rcases List.mem_append.1 hc with hc | hc
    · rw [List.eq_of_mem_replicate hc]
      decide
    · exact isDigit_of_mem_digits hc
  have hlength : places < padded.length := by
    simp only [padded, List.length_append, List.length_replicate]
    omega
  refine ⟨padded.take (padded.length - places), padded.drop (padded.length - places), ?_,
    fun c hc => hpadded c (List.mem_of_mem_take hc), fun c hc => hpadded c (List.mem_of_mem_drop hc), ?_, ?_, ?_⟩
  · refine List.ne_nil_of_length_pos ?_
    rw [List.length_take]
    omega
  · rw [List.take_append_drop]
    exact ofDigits_padded _ digits
  · rw [List.length_drop]
    omega
  · exact String.toList_ofList

end Written

/-! ## Readable texts -/

/-- A text that stands for a number, without blanks and equals signs. -/
structure Readable (s : String) : Prop where
  solid : ∀ c ∈ s.toList, isBlank c = false ∧ c ≠ '='
  number : (readFloat? s).isSome = true

namespace Readable

theorem solid_of_digit {c : Char} (h : c.isDigit = true ∨ c = '.') : isBlank c = false ∧ c ≠ '=' := by
  rcases h with h | rfl
  · refine ⟨?_, fun he => absurd h (he ▸ by decide)⟩
    have hrange : 48 ≤ c.toNat ∧ c.toNat ≤ 57 := by
      simpa [Char.isDigit, UInt32.le_iff_toNat_le] using h
    simp [isBlank]
    omega
  · decide

theorem solid_of_all {cs : List Char} (h : (cs.all fun c => !isBlank c && c != '=') = true) :
    ∀ c ∈ cs, isBlank c = false ∧ c ≠ '=' := by
  simpa [List.all_eq_true] using h

/-- A sign and a mantissa without an exponent. -/
theorem of_mantissa {s : String} {cs : List Char} {mantissa : Nat} {shift : Int} (negative : Bool)
    (hs : s.toList = (Written.sign negative).toList ++ cs) (hcs : ∀ c ∈ cs, c.isDigit = true ∨ c = '.')
    (hsign : Decimal.takeSign cs = (false, cs)) (hmantissa : Decimal.takeMantissa cs = some ((mantissa, shift), [])) :
    Readable s where
  solid c hc := by
    rw [hs, List.mem_append] at hc
    refine hc.elim (fun hc => ?_) fun hc => solid_of_digit (hcs c hc)
    cases negative with
    | false => cases hc
    | true => exact solid_of_all (by decide) c hc
  number := by
    unfold readFloat?
    rw [hs, Decimal.read?_of_mantissa hsign hmantissa negative]
    rfl

/-- Whole numbers. -/
theorem nat (n : Nat) : Readable (toString n) := by
  have hdigits : ∀ c ∈ Nat.toDigits 10 n, c.isDigit = true := fun _ hc => Written.isDigit_of_mem_digits hc
  have hsign := Decimal.takeSign_of_digits Nat.toDigits_ne_nil hdigits []
  rw [List.append_nil] at hsign
  have htext : (toString n).toList = (Written.sign false).toList ++ Nat.toDigits 10 n := String.toList_ofList
  exact of_mantissa false htext (fun c hc => .inl (hdigits c hc)) hsign
    (Decimal.takeMantissa_of_digits Nat.toDigits_ne_nil hdigits)

/-- Numbers with a fixed number of places, the ones that are not finite too. -/
theorem fixed (places : Nat) (x : Float) : Readable (fixed places x) := by
  unfold TuningAdvisor.fixed
  split
  · exact ⟨solid_of_all (by decide), by decide +kernel⟩
  · rename_i negative _
    cases negative <;> exact ⟨solid_of_all (by decide), by decide +kernel⟩
  · rename_i negative m e _
    dsimp only
    generalize (if 0 ≤ e then (m * Nat.pow 10 places) <<< e.toNat else
      roundHalfEven (m * Nat.pow 10 places) (1 <<< (-e).toNat)) = digits
    obtain ⟨whole, fraction, hne, hwhole, hfraction, -, -, htext⟩ := Written.exists_withPoint digits places
    by_cases hplaces : places = 0
    · rw [if_pos hplaces] at htext
      have hsign := Decimal.takeSign_of_digits hne hwhole []
      rw [List.append_nil] at hsign
      exact of_mantissa negative (by rw [String.toList_append, htext]) (fun c hc => .inl (hwhole c hc)) hsign
        (Decimal.takeMantissa_of_digits hne hwhole)
    · rw [if_neg hplaces] at htext
      refine of_mantissa negative (by rw [String.toList_append, htext]) (fun c hc => ?_)
        (Decimal.takeSign_of_digits hne hwhole _) (Decimal.takeMantissa_of_point hne hwhole hfraction)
      simp only [List.mem_append, List.mem_cons] at hc
      rcases hc with hc | rfl | hc
      · exact .inl (hwhole c hc)
      · exact .inr rfl
      · exact .inl (hfraction c hc)

end Readable

/-! ## Entries that carry them -/

theorem trimChars_of_solid {cs : List Char} (h : ∀ c ∈ cs, isBlank c = false) : trimChars cs = cs := by
  have hkeep : ∀ {ds : List Char}, (∀ c ∈ ds, isBlank c = false) → ds.dropWhile isBlank = ds := by
    intro ds hds
    rw [List.dropWhile_eq_self_iff]
    intro hlength hblank
    rw [hds _ (List.getElem_mem hlength)] at hblank
    cases hblank
  have hreverse : ∀ c ∈ cs.reverse, isBlank c = false := fun c hc => h c (List.mem_reverse.1 hc)
  unfold trimChars trimBack trimFront
  rw [hkeep h, hkeep hreverse, List.reverse_reverse]

namespace EnvEntry

/-- A text without an equals sign is all value. -/
theorem number?_of_solid {s : String} (hs : ∀ c ∈ s.toList, isBlank c = false ∧ c ≠ '=') (name : String) :
    ({ name, value := s } : EnvEntry).number? = readFloat? s := by
  have hvalue : valueText s = s.toList := by
    have hall : ∀ c ∈ s.toList.reverse, (c != '=') = true := by
      intro c hc
      rw [bne_iff_ne]
      exact (hs c (List.mem_reverse.1 hc)).2
    unfold valueText
    rw [List.takeWhile_eq_self_iff.2 hall, List.reverse_reverse]
  unfold number?
  rw [hvalue, trimChars_of_solid fun c hc => (hs c hc).1, String.ofList_toList]

/-- The text behind the last equals sign. -/
theorem valueText_flag {s : String} (hs : '=' ∉ s.toList) (flag : String) :
    valueText (flag ++ ("=" ++ s)) = s.toList := by
  have hall : ∀ c ∈ s.toList.reverse, (c != '=') = true := by
    intro c hc
    rw [bne_iff_ne]
    rintro rfl
    exact hs (List.mem_reverse.1 hc)
  unfold valueText
  rw [String.toList_append, String.toList_append, List.reverse_append, List.reverse_append, List.append_assoc,
    List.takeWhile_append_of_pos hall]
  simp

/-- A flag with a readable text carries its number. -/
theorem number?_flag {s : String} (hs : Readable s) (name flag : String) :
    ({ name, value := flag ++ ("=" ++ s) } : EnvEntry).number? = readFloat? s := by
  unfold number?
  rw [valueText_flag fun hc => (hs.solid _ hc).2 rfl, trimChars_of_solid fun c hc => (hs.solid c hc).1,
    String.ofList_toList]

end EnvEntry

end TuningAdvisor
