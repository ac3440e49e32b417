import Mathlib
import TuningAdvisor.Proofs.Numerals
import TuningAdvisor.Quantity
/-!
# The grammar of quantities: `parse_duration_secs`, `parse_memory_bytes`, `parse_cpu_cores`

A quantity is a number, blanks, and a unit of its table (`Quantity.Spells`). **The readers of durations, memory sizes and
processor shares accept exactly the texts of their grammar, and tell all other texts apart in one way**
(`Quantity.parsers_exact`): a blank text is empty, a text whose longest stretch of digits, points and signs is no
number has an invalid number, and what is left has an unknown unit. Values are exact; whether a text is accepted, and
why it is not, is the same in every reading of the formulas.
-/

namespace TuningAdvisor

/-! ## Blanks at the ends -/

theorem trimFront_eq_nil_iff {cs : List Char} : trimFront cs = [] ↔ ∀ c ∈ cs, isBlank c = true :=
  List.dropWhile_eq_nil_iff

theorem trimChars_eq_nil_iff {cs : List Char} : trimChars cs = [] ↔ ∀ c ∈ cs, isBlank c = true := by
  have hback : trimChars cs = [] ↔ ∀ c ∈ trimFront cs, isBlank c = true := by
    simp [trimChars, trimBack]
  rw [hback, ← trimFront_eq_nil_iff, ← trimFront_eq_nil_iff, trimFront, trimFront, List.dropWhile_idempotent]

@[simp] theorem trimBack_trimChars (cs : List Char) : trimBack (trimChars cs) = trimChars cs := by
  simp [trimChars, trimBack, List.dropWhile_idempotent]

/-- What ends without a blank ends without a blank. -/
theorem trimBack_of_append (front : List Char) {back : List Char} (h : trimBack (front ++ back) = front ++ back) :
    trimBack back = back := by
  unfold trimBack at h ⊢
  rw [List.reverse_eq_iff] at h ⊢
  rw [List.reverse_append] at h
  cases hback : back.reverse with
  | nil => rfl
  | cons c cs =>
    rw [hback, List.cons_append, List.dropWhile_eq_self_iff] at h
    exact List.dropWhile_eq_self_iff.2 fun _ => h (by simp)

/-- What ends without a blank is blanks and the text without them. -/
theorem exists_blanks {cs : List Char} (h : trimBack cs = cs) :
    ∃ blanks, (∀ c ∈ blanks, isBlank c = true) ∧ cs = blanks ++ trimChars cs := by
  refine ⟨cs.takeWhile isBlank, fun c hc => List.mem_takeWhile_imp hc, ?_⟩
  have hsplit : cs.takeWhile isBlank ++ trimFront cs = cs := List.takeWhile_append_dropWhile
  rw [trimChars, trimBack_of_append (cs.takeWhile isBlank) (by rw [hsplit, h]), hsplit]

theorem trimChars_blanks_append {blanks cs : List Char} (hblanks : ∀ c ∈ blanks, isBlank c = true)
    (hcs : ∀ c ∈ cs, isBlank c = false) : trimChars (blanks ++ cs) = cs := by
  have hfront : trimFront (blanks ++ cs) = trimFront cs := List.dropWhile_append_of_pos hblanks
  rw [trimChars, hfront, ← trimChars, trimChars_of_solid hcs]

namespace Quantity

/-! ## Numbers -/

/-- `digits`, `digits.digits*` or `.digits`, with its value. -/
inductive Magnitude : List Char → ℚ → Prop where
  | whole {digits : List Char} : digits ≠ [] → (∀ c ∈ digits, c.isDigit = true) →
    Magnitude digits (Nat.ofDigitChars 10 digits 0)
  | pointed {digits places : List Char} : digits ≠ [] → (∀ c ∈ digits, c.isDigit = true) →
    (∀ c ∈ places, c.isDigit = true) →
    Magnitude (digits ++ '.' :: places) (Nat.ofDigitChars 10 (digits ++ places) 0 / 10 ^ places.length)
  | fraction {places : List Char} : places ≠ [] → (∀ c ∈ places, c.isDigit = true) →
    Magnitude ('.' :: places) (Nat.ofDigitChars 10 places 0 / 10 ^ places.length)

/-- A magnitude with an optional sign. -/
inductive Number : List Char → ℚ → Prop where
  | unsigned {cs : List Char} {q : ℚ} : Magnitude cs q → Number cs q
  | plus {cs : List Char} {q : ℚ} : Magnitude cs q → Number ('+' :: cs) q
  | minus {cs : List Char} {q : ℚ} : Magnitude cs q → Number ('-' :: cs) (-q)

theorem toRat_places (negative : Bool) (m p : ℕ) :
    (⟨negative, m, -(p : ℤ)⟩ : Decimal).toRat = if negative then -(m / 10 ^ p : ℚ) else m / 10 ^ p := by
  have hmagnitude : (if 0 ≤ -(p : ℤ) then ((m * Nat.pow 10 (-(p : ℤ)).toNat : ℕ) : ℚ)
      else mkRat m (Nat.pow 10 (-(-(p : ℤ))).toNat)) = m / 10 ^ p := by
    split
    · have hp : p = 0 := by omega
      simp [hp]
    · simp [Rat.mkRat_eq_div]
  simp only [Decimal.toRat]
  rw [hmagnitude]

/-- What is read in front of a text is a magnitude. -/
theorem magnitude_of_takeMantissa {cs rest : List Char} {m : ℕ} {shift : ℤ}
    (h : Decimal.takeMantissa cs = some ((m, shift), rest)) :
    ∃ magnitude p, cs = magnitude ++ rest ∧ shift = -(p : ℕ) ∧ Magnitude magnitude (m / 10 ^ p) := by
  have hdigits : ∀ ds : List Char, ∀ c ∈ ds.takeWhile Char.isDigit, c.isDigit = true := fun _ _ hc =>
    List.mem_takeWhile_imp hc
  have hsplit : ∀ ds : List Char, ds.takeWhile Char.isDigit ++ ds.dropWhile Char.isDigit = ds := fun _ =>
    List.takeWhile_append_dropWhile
  unfold Decimal.takeMantissa at h
  dsimp only at h
  split at h
  · rename_i behind hpoint
    split at h
    · cases h
    · rename_i hne
      cases h
      refine ⟨cs.takeWhile Char.isDigit ++ '.' :: behind.takeWhile Char.isDigit, _, ?_, rfl, ?_⟩
      · rw [List.append_assoc, List.cons_append, hsplit behind, ← hpoint, hsplit cs]
      · cases hwhole : cs.takeWhile Char.isDigit with
        | nil =>
          refine .fraction (fun hplaces => hne ?_) (hdigits behind)
          simp [hwhole, hplaces]
        | cons c digits =>
          exact .pointed (List.cons_ne_nil _ _) (hwhole ▸ hdigits cs) (hdigits behind)
  · split at h
    · cases h
    · rename_i hne
      cases h
      refine ⟨cs.takeWhile Char.isDigit, 0, (hsplit cs).symm, rfl, ?_⟩
      rw [pow_zero, div_one]
      exact .whole (by simpa using hne) (hdigits cs)

/-- A magnitude has no sign, and is read whole. -/
theorem Magnitude.read {cs : List Char} {q : ℚ} (h : Magnitude cs q) :
    Decimal.takeSign cs = (false, cs) ∧
      ∃ m p : ℕ, Decimal.takeMantissa cs = some ((m, -(p : ℤ)), []) ∧ (m / 10 ^ p : ℚ) = q := by
  cases h with
  | whole hne hdigits =>
    refine ⟨by simpa using Decimal.takeSign_of_digits hne hdigits [], _, 0, Decimal.takeMantissa_of_digits hne hdigits, ?_⟩
    rw [pow_zero, div_one]
    rfl
  | pointed hne hdigits hplaces =>
    exact ⟨Decimal.takeSign_of_digits hne hdigits _, _, _, Decimal.takeMantissa_of_point hne hdigits hplaces, rfl⟩
  | @fraction places hne hplaces =>
    have hpoint : ¬Char.isDigit '.' = true := by decide
    refine ⟨rfl, Decimal.ofDigits places, places.length, ?_, rfl⟩
    simp [Decimal.takeMantissa, List.takeWhile_cons_of_neg hpoint, List.dropWhile_cons_of_neg hpoint,
      List.takeWhile_eq_self_iff.2 hplaces, List.dropWhile_eq_nil_iff.2 hplaces, hne]

theorem readMagnitude_of_takeMantissa {cs : List Char} {m p : ℕ} (negative : Bool)
    (h : Decimal.takeMantissa cs = some ((m, -(p : ℤ)), [])) :
    Decimal.readMagnitude negative cs = some ⟨negative, m, -p⟩ := by
  simp [Decimal.readMagnitude, h, Decimal.readExponent]

/-- Behind digits, points and signs there is no exponent. -/
theorem readExponent_eq_some {cs : List Char} {e : ℤ} (hcs : ∀ c ∈ cs, isNumberChar c = true)
    (h : Decimal.readExponent cs = some e) : cs = [] ∧ e = 0 := by
  cases cs with
  | nil => simpa [Decimal.readExponent, eq_comm] using h
  | cons c rest =>
    have hc := hcs c List.mem_cons_self
    have hletter : ¬(c = 'e' ∨ c = 'E') := by
      rintro (rfl | rfl) <;> exact absurd hc (by decide)
    rw [Decimal.readExponent, if_neg hletter] at h
    cases h

/-- Of texts that have an optional sign and a magnitude, these are read. -/
theorem exists_readMagnitude_iff {cs : List Char} {q : ℚ} (negative : Bool) (hcs : ∀ c ∈ cs, isNumberChar c = true) :
    (∃ d, Decimal.readMagnitude negative cs = some d ∧ d.toRat = q) ↔
      ∃ v, Magnitude cs v ∧ q = if negative then -v else v := by
  constructor
  · rintro ⟨d, hd, rfl⟩
    simp only [Decimal.readMagnitude, Option.bind_eq_bind, Option.bind_eq_some_iff] at hd
    obtain ⟨⟨⟨m, shift⟩, rest⟩, hmantissa, e, hexponent, hd⟩ := hd
    obtain ⟨magnitude, p, rfl, rfl, hmagnitude⟩ := magnitude_of_takeMantissa hmantissa
    obtain ⟨rfl, rfl⟩ := readExponent_eq_some (fun c hc => hcs c (List.mem_append_right _ hc)) hexponent
    cases hd
    rw [List.append_nil, add_zero, toRat_places]
    exact ⟨_, hmagnitude, rfl⟩
  · rintro ⟨v, hmagnitude, rfl⟩
    obtain ⟨-, m, p, hmantissa, rfl⟩ := hmagnitude.read
    exact ⟨_, readMagnitude_of_takeMantissa negative hmantissa, toRat_places negative m p⟩

/-- Of the texts of digits, points and signs, the numbers are read. -/
theorem exists_read?_iff {cs : List Char} {q : ℚ} (hcs : ∀ c ∈ cs, isNumberChar c = true) :
    (∃ d, Decimal.read? cs = some d ∧ d.toRat = q) ↔ Number cs q := by
  constructor
  · rintro ⟨d, hd, hq⟩
    unfold Decimal.read? Decimal.takeSign at hd
    split at hd
    rename_i negative rest hsign
    split at hsign
    · cases hsign
      obtain ⟨v, hv, rfl⟩ := (exists_readMagnitude_iff true fun c hc => hcs c (List.mem_cons_of_mem _ hc)).1 ⟨d, hd, hq⟩
      exact .minus hv
    · cases hsign
      obtain ⟨v, hv, rfl⟩ := (exists_readMagnitude_iff false fun c hc => hcs c (List.mem_cons_of_mem _ hc)).1 ⟨d, hd, hq⟩
      exact .plus hv
    · cases hsign
      obtain ⟨v, hv, rfl⟩ := (exists_readMagnitude_iff false hcs).1 ⟨d, hd, hq⟩
      exact .unsigned hv
  · intro h
    cases h with
    | unsigned hv =>
      unfold Decimal.read?
      rw [hv.read.1]
      exact (exists_readMagnitude_iff false hcs).2 ⟨_, hv, rfl⟩
    | plus hv => exact (exists_readMagnitude_iff false fun c hc => hcs c (List.mem_cons_of_mem _ hc)).2 ⟨_, hv, rfl⟩
    | minus hv => exact (exists_readMagnitude_iff true fun c hc => hcs c (List.mem_cons_of_mem _ hc)).2 ⟨_, hv, rfl⟩

theorem Magnitude.isNumberChar {cs : List Char} {q : ℚ} (h : Magnitude cs q) : ∀ c ∈ cs, isNumberChar c = true := by
  have hdigits : ∀ {ds : List Char}, (∀ c ∈ ds, c.isDigit = true) → ∀ c ∈ ds, Quantity.isNumberChar c = true :=
    fun hds c hc => by simp [Quantity.isNumberChar, hds c hc]
  have hpoint : Quantity.isNumberChar '.' = true := rfl
  cases h with
  | whole _ h => exact hdigits h
  | pointed _ h h' => simpa [hpoint, or_imp, forall_and] using ⟨hdigits h, hdigits h'⟩
  | fraction _ h => simpa [hpoint] using hdigits h

theorem Number.isNumberChar {cs : List Char} {q : ℚ} (h : Number cs q) : ∀ c ∈ cs, isNumberChar c = true := by
  cases h with
  | unsigned h => exact h.isNumberChar
  | plus h => exact List.forall_mem_cons.2 ⟨rfl, h.isNumberChar⟩
  | minus h => exact List.forall_mem_cons.2 ⟨rfl, h.isNumberChar⟩

theorem not_number_nil {q : ℚ} : ¬Number [] q := by
  intro h
  obtain ⟨d, hd, -⟩ := (exists_read?_iff (by simp)).2 h
  cases hd

/-! ## Numbers with units -/

/-- A number, blanks and a unit; there may be blanks at both ends. -/
def Spells (input : String) (q : ℚ) (unit : String) : Prop :=
  ∃ number blanks, trimChars input.toList = number ++ blanks ++ unit.toList ∧ Number number q ∧
    ∀ c ∈ blanks, isBlank c = true

/-- The longest stretch of digits, points and signs in front. -/
def numberOf (input : String) : List Char := (trimChars input.toList).takeWhile isNumberChar

/-- What is left behind it, without blanks. -/
def unitOf (input : String) : String := String.ofList (trimChars ((trimChars input.toList).dropWhile isNumberChar))

theorem isNumberChar_of_mem_numberOf {input : String} {c : Char} (h : c ∈ numberOf input) : isNumberChar c = true :=
  List.mem_takeWhile_imp h

theorem split_eq (input : String) :
    split input =
      if trimChars input.toList = [] then .error .empty
      else
        match Decimal.read? (numberOf input) with
        | none => .error (.invalidNumber input)
        | some number => .ok (number, unitOf input) := by
  simp only [split, List.isEmpty_iff]
  rfl

theorem split_ok_iff {input unit : String} {d : Decimal} :
    split input = .ok (d, unit) ↔ Decimal.read? (numberOf input) = some d ∧ unit = unitOf input := by
  rw [split_eq]
  split
  · rename_i hblank
    have hnone : Decimal.read? (numberOf input) = none := by rw [numberOf, hblank]; rfl
    simp [hnone]
  · cases Decimal.read? (numberOf input) <;> simp [eq_comm]

theorem split_error_iff {input : String} {why : QuantityError} :
    split input = .error why ↔
      (why = .empty ∧ ∀ c ∈ input.toList, isBlank c = true) ∨
      (why = .invalidNumber input ∧ ¬(∀ c ∈ input.toList, isBlank c = true) ∧ ¬∃ q, Number (numberOf input) q) := by
  have hread : (∃ q, Number (numberOf input) q) ↔ (Decimal.read? (numberOf input)).isSome = true := by
    simp only [← exists_read?_iff fun c => isNumberChar_of_mem_numberOf, Option.isSome_iff_exists]
    exact ⟨fun ⟨_, d, hd, _⟩ => ⟨d, hd⟩, fun ⟨d, hd⟩ => ⟨_, d, hd, rfl⟩⟩
  rw [split_eq, hread, ← trimChars_eq_nil_iff]
  split
  · rename_i hblank
    simp [hblank, @eq_comm _ why]
  · rename_i hblank
    cases Decimal.read? (numberOf input) <;> simp [hblank, @eq_comm _ why]

theorem toNat_of_isAlpha {c : Char} (h : c.isAlpha = true) :
    (65 ≤ c.toNat ∧ c.toNat ≤ 90) ∨ (97 ≤ c.toNat ∧ c.toNat ≤ 122) := by
  simpa [Char.isAlpha, Char.isUpper, Char.isLower, UInt32.le_iff_toNat_le] using h

theorem isBlank_of_isAlpha {c : Char} (h : c.isAlpha = true) : isBlank c = false := by
  have hrange := toNat_of_isAlpha h
  simp [isBlank]
  omega

theorem isNumberChar_of_isAlpha {c : Char} (h : c.isAlpha = true) : isNumberChar c = false := by
  have hdigit : c.isDigit = false := by
    have hrange := toNat_of_isAlpha h
    simp [Char.isDigit, UInt32.le_iff_toNat_le]
    omega
  have hne : c ≠ '.' ∧ c ≠ '-' ∧ c ≠ '+' :=
    ⟨fun e => absurd h (e ▸ by decide), fun e => absurd h (e ▸ by decide), fun e => absurd h (e ▸ by decide)⟩
  simp [isNumberChar, hdigit, hne]

theorem isNumberChar_of_isBlank {c : Char} (h : isBlank c = true) : isNumberChar c = false := by
  have hdigit : c.isDigit = false := by
    by_contra hdigit
    rw [(Readable.solid_of_digit (.inl (by simpa using hdigit))).1] at h
    cases h
  have hne : c ≠ '.' ∧ c ≠ '-' ∧ c ≠ '+' :=
    ⟨fun e => absurd h (e ▸ by decide), fun e => absurd h (e ▸ by decide), fun e => absurd h (e ▸ by decide)⟩
  simp [isNumberChar, hdigit, hne]

/-- A unit of letters can be told from the number in front of it, so that there is one way to read a text. -/
theorem spells_iff {input unit : String} {q : ℚ} (hunit : ∀ c ∈ unit.toList, c.isAlpha = true) :
    Spells input q unit ↔ Number (numberOf input) q ∧ unit = unitOf input := by
  constructor
  · rintro ⟨number, blanks, hinput, hnumber, hblanks⟩
    have hrest : ∀ c ∈ blanks ++ unit.toList, isNumberChar c = false := by
      intro c hc
      rcases List.mem_append.1 hc with hc | hc
      · exact isNumberChar_of_isBlank (hblanks c hc)
      · exact isNumberChar_of_isAlpha (hunit c hc)
    have hstop : (blanks ++ unit.toList).takeWhile isNumberChar = [] ∧
        (blanks ++ unit.toList).dropWhile isNumberChar = blanks ++ unit.toList := by
      cases h : blanks ++ unit.toList with
      | nil => exact ⟨rfl, rfl⟩
      | cons c rest =>
        have hc : isNumberChar c = false := hrest c (h ▸ List.mem_cons_self)
        simp [hc]
    rw [List.append_assoc] at hinput
    rw [numberOf, unitOf, hinput, List.takeWhile_append_of_pos hnumber.isNumberChar,
      List.dropWhile_append_of_pos hnumber.isNumberChar, hstop.1, hstop.2, List.append_nil,
      trimChars_blanks_append hblanks fun c hc => isBlank_of_isAlpha (hunit c hc), String.ofList_toList]
    exact ⟨hnumber, rfl⟩
  · rintro ⟨hnumber, rfl⟩
    have hsplit : numberOf input ++ (trimChars input.toList).dropWhile isNumberChar = trimChars input.toList :=
      List.takeWhile_append_dropWhile
    obtain ⟨blanks, hblanks, hback⟩ := exists_blanks
      (trimBack_of_append (numberOf input) (by rw [hsplit, trimBack_trimChars]))
    refine ⟨numberOf input, blanks, ?_, hnumber, hblanks⟩
    rw [unitOf, String.toList_ofList, List.append_assoc, ← hback, hsplit]

/-! ## Readers -/

/-- Reads a number and a unit of a table; the three readers differ in the table and in what they make of the two. -/
def measure {β : Type} (factor? : String → Option ℕ) (value : Decimal → ℕ → β) (input : String) :
    Except QuantityError β :=
  match split input with
  | .error why => .error why
  | .ok (number, unit) =>
    match factor? unit with
    | some factor => .ok (value number factor)
    | none => .error (.unknownUnit input unit)

section
variable (α : Type) [Arithmetic α]

theorem durationSeconds_eq : durationSeconds α = measure (fun unit => durationFactor? (lowerText unit))
    fun d n => Arithmetic.toInt64 (Arithmetic.round (Arithmetic.ofDecimal d * Arithmetic.ofNat n : α)) := by
  funext input
  unfold durationSeconds measure
  cases split input with
  | error why => rfl
  | ok found => cases h : durationFactor? (lowerText found.2) <;> simp [bind, Except.bind, h] <;> rfl

theorem memoryBytes_eq : memoryBytes α = measure memoryFactor? fun d n =>
    Arithmetic.ofDecimal d * Arithmetic.ofNat n := by
  funext input
  unfold memoryBytes measure
  cases split input with
  | error why => rfl
  | ok found => cases h : memoryFactor? found.2 <;> simp [bind, Except.bind, h] <;> rfl

theorem cpuCores_eq : cpuCores α = measure cpuDivisor? fun d n =>
    Arithmetic.ofDecimal d / Arithmetic.ofNat n := by
  funext input
  unfold cpuCores measure
  cases split input with
  | error why => rfl
  | ok found => cases h : cpuDivisor? found.2 <;> simp [bind, Except.bind, h] <;> rfl

end

section
variable {β : Type} {factor? : String → Option ℕ} {value : Decimal → ℕ → β} {input : String}

theorem measure_ok_iff {v : β} : measure factor? value input = .ok v ↔
    ∃ d n, Decimal.read? (numberOf input) = some d ∧ factor? (unitOf input) = some n ∧ value d n = v := by
  unfold measure
  cases h : split input with
  | error why =>
    have hnone : ∀ d, Decimal.read? (numberOf input) ≠ some d := fun d hd => by
      rw [split_ok_iff.2 ⟨hd, rfl⟩] at h
      cases h
    simp [hnone]
  | ok found =>
    obtain ⟨d, unit⟩ := found
    obtain ⟨hd, rfl⟩ := split_ok_iff.1 h
    cases hf : factor? (unitOf input) <;> simp [hd, hf]

theorem measure_error_iff {why : QuantityError} : measure factor? value input = .error why ↔
    split input = .error why ∨
      (why = .unknownUnit input (unitOf input) ∧ (∃ q, Number (numberOf input) q) ∧ factor? (unitOf input) = none) := by
  unfold measure
  cases h : split input with
  | error other =>
    have hnone : ¬∃ q, Number (numberOf input) q := by
      rcases split_error_iff.1 h with ⟨-, hblank⟩ | ⟨-, -, hnone⟩
      · rw [numberOf, trimChars_eq_nil_iff.2 hblank]
        exact fun ⟨_, h⟩ => not_number_nil h
      · exact hnone
    simp [hnone]
  | ok found =>
    obtain ⟨d, unit⟩ := found
    obtain ⟨hd, rfl⟩ := split_ok_iff.1 h
    have hnumber : ∃ q, Number (numberOf input) q :=
      ⟨_, (exists_read?_iff fun c => isNumberChar_of_mem_numberOf).1 ⟨d, hd, rfl⟩⟩
    cases hf : factor? (unitOf input) <;> simp [hnumber, hf, eq_comm]

/-- What is wrong with a text does not depend on what is made of numbers and units. -/
theorem measure_error_congr {γ : Type} {value' : Decimal → ℕ → γ} {why : QuantityError} :
    measure factor? value input = .error why ↔ measure factor? value' input = .error why := by
  rw [measure_error_iff, measure_error_iff]

end

/-- A reader accepts the texts of its grammar, with the values that it gives them, and says of all others what is wrong. -/
structure Parses {β : Type} (parse : String → Except QuantityError β) (IsUnit : String → ℚ → Prop)
    (Value : ℚ → β → Prop) : Prop where
  returns_iff : ∀ input, (∃ v, parse input = .ok v) ↔ ∃ q unit factor, Spells input q unit ∧ IsUnit unit factor
  ok_iff : ∀ input v, parse input = .ok v ↔
    ∃ q unit factor, Spells input q unit ∧ IsUnit unit factor ∧ Value (q * factor) v
  empty_iff : ∀ input, parse input = .error .empty ↔ ∀ c ∈ input.toList, isBlank c = true
  invalidNumber_iff : ∀ input text, parse input = .error (.invalidNumber text) ↔
    text = input ∧ ¬(∀ c ∈ input.toList, isBlank c = true) ∧ ¬∃ q, Number (numberOf input) q
  unknownUnit_iff : ∀ input text unit, parse input = .error (.unknownUnit text unit) ↔
    text = input ∧ unit = unitOf input ∧ (∃ q, Number (numberOf input) q) ∧ ∀ factor, ¬IsUnit unit factor

/-- A table of letters gives a grammar, once values are computed from the number and the rate of the unit. -/
theorem parses_measure {β : Type} {factor? : String → Option ℕ} {value : Decimal → ℕ → β} {rate : ℕ → ℚ}
    {IsUnit : String → ℚ → Prop} {Value : ℚ → β → Prop}
    (hunit : ∀ unit q, IsUnit unit q ↔ ∃ n, factor? unit = some n ∧ q = rate n)
    (hletters : ∀ unit q, IsUnit unit q → ∀ c ∈ unit.toList, c.isAlpha = true)
    (hvalue : ∀ d n v, value d n = v ↔ Value (d.toRat * rate n) v) : Parses (measure factor? value) IsUnit Value := by
  have hok : ∀ input v, measure factor? value input = .ok v ↔
      ∃ q unit factor, Spells input q unit ∧ IsUnit unit factor ∧ Value (q * factor) v := by
    intro input v
    rw [measure_ok_iff]
    constructor
    · rintro ⟨d, n, hd, hn, hv⟩
      have hlisted := (hunit _ _).2 ⟨n, hn, rfl⟩
      have hnumber := (exists_read?_iff fun c => isNumberChar_of_mem_numberOf).1 ⟨d, hd, rfl⟩
      exact ⟨_, _, _, (spells_iff (hletters _ _ hlisted)).2 ⟨hnumber, rfl⟩, hlisted, (hvalue d n v).1 hv⟩
    · rintro ⟨q, unit, factor, hspells, hlisted, hv⟩
      obtain ⟨hnumber, rfl⟩ := (spells_iff (hletters _ _ hlisted)).1 hspells
      obtain ⟨d, hd, rfl⟩ := (exists_read?_iff fun c => isNumberChar_of_mem_numberOf).2 hnumber
      obtain ⟨n, hn, rfl⟩ := (hunit _ _).1 hlisted
      exact ⟨d, n, hd, hn, (hvalue d n v).2 hv⟩
  refine ⟨fun input => ⟨?_, ?_⟩, hok, fun input => ?_, fun input text => ?_, fun input text unit => ?_⟩
  · rintro ⟨v, hv⟩
    obtain ⟨q, unit, factor, hspells, hlisted, -⟩ := (hok input v).1 hv
    exact ⟨q, unit, factor, hspells, hlisted⟩
  · rintro ⟨q, unit, factor, hspells, hlisted⟩
    obtain ⟨hnumber, rfl⟩ := (spells_iff (hletters _ _ hlisted)).1 hspells
    obtain ⟨d, hd, rfl⟩ := (exists_read?_iff fun c => isNumberChar_of_mem_numberOf).2 hnumber
    obtain ⟨n, hn, rfl⟩ := (hunit _ _).1 hlisted
    exact ⟨value d n, measure_ok_iff.2 ⟨d, n, hd, hn, rfl⟩⟩
  · simp [measure_error_iff, split_error_iff]
  · simp [measure_error_iff, split_error_iff]
  · have hnone : factor? (unitOf input) = none ↔ ∀ factor, ¬IsUnit (unitOf input) factor := by
      simp only [hunit, Option.eq_none_iff_forall_ne_some, not_exists, not_and]
      exact ⟨fun h factor n hn _ => h n hn, fun h n hn => h _ n hn rfl⟩
    rw [measure_error_iff, split_error_iff, hnone]
    constructor
    · rintro ((⟨h, -⟩ | ⟨h, -⟩) | ⟨h, hnumber, hlisted⟩) <;> cases h
      exact ⟨rfl, rfl, hnumber, hlisted⟩
    · rintro ⟨rfl, rfl, hnumber, hlisted⟩
      exact .inr ⟨rfl, hnumber, hlisted⟩

/-! ## Units -/

/-- The units of durations, in lower case, with their seconds. -/
def durationUnits : List (String × ℚ) :=
  ["", "s", "sec", "secs", "second", "seconds"].map (·, 1) ++ ["m", "min", "mins", "minute", "minutes"].map (·, 60)
    ++ ["h", "hr", "hrs", "hour", "hours"].map (·, 3600)

/-- The units of memory sizes with their bytes. -/
def memoryUnits : List (String × ℚ) :=
  [("", 1), ("Ki", 2 ^ 10), ("Mi", 2 ^ 20), ("Gi", 2 ^ 30), ("Ti", 2 ^ 40), ("k", 10 ^ 3), ("K", 10 ^ 3), ("M", 10 ^ 6),
    ("G", 10 ^ 9), ("T", 10 ^ 12)]

/-- The units of processor shares with their cores. -/
def cpuUnits : List (String × ℚ) := [("", 1), ("m", 1 / 1000)]

theorem mem_durationUnits_iff (unit : String) (q : ℚ) :
    (unit, q) ∈ durationUnits ↔ ∃ n, durationFactor? unit = some n ∧ q = n := by
  unfold durationFactor?
  split <;> simp_all [durationUnits]

theorem mem_memoryUnits_iff (unit : String) (q : ℚ) :
    (unit, q) ∈ memoryUnits ↔ ∃ n, memoryFactor? unit = some n ∧ q = n := by
  unfold memoryFactor?
  split <;> simp_all [memoryUnits] <;> norm_num

theorem mem_cpuUnits_iff (unit : String) (q : ℚ) :
    (unit, q) ∈ cpuUnits ↔ ∃ n, cpuDivisor? unit = some n ∧ q = 1 / n := by
  unfold cpuDivisor?
  split <;> simp_all [cpuUnits]

theorem isAlpha_of_mem_durationUnits {unit : String} {q : ℚ} (h : (lowerText unit, q) ∈ durationUnits) :
    ∀ c ∈ unit.toList, c.isAlpha = true := by
  have hall : ∀ entry ∈ durationUnits, entry.1.toList.all Char.isAlpha = true := by decide +kernel
  have hlower := hall _ h
  simpa [lowerText] using hlower

theorem isAlpha_of_mem_memoryUnits {unit : String} {q : ℚ} (h : (unit, q) ∈ memoryUnits) :
    ∀ c ∈ unit.toList, c.isAlpha = true := by
  have hall : ∀ entry ∈ memoryUnits, entry.1.toList.all Char.isAlpha = true := by decide +kernel
  simpa using hall _ h

theorem isAlpha_of_mem_cpuUnits {unit : String} {q : ℚ} (h : (unit, q) ∈ cpuUnits) :
    ∀ c ∈ unit.toList, c.isAlpha = true := by
  have hall : ∀ entry ∈ cpuUnits, entry.1.toList.all Char.isAlpha = true := by decide +kernel
  simpa using hall _ h

/-! ## Whole seconds -/

/-- A nearest whole number, of two the one away from zero. -/
structure NearestAway (q : ℚ) (r : ℤ) : Prop where
  near : |q - r| ≤ 1 / 2
  away : |q - r| = 1 / 2 → |q| < |(r : ℚ)|

theorem exists_nearestAway (q : ℚ) : ∃ r : ℤ, Exact.round q = r ∧ NearestAway q r := by
  unfold Exact.round
  split
  · rename_i hneg
    have hlow := Rat.floor_le (1 / 2 - q)
    have hhigh := Rat.lt_floor_add_one (1 / 2 - q)
    rw [Int.cast_add, Int.cast_one] at hhigh
    refine ⟨-(1 / 2 - q).floor, (Int.cast_neg _).symm, ?_, fun htie => ?_⟩
    · rw [abs_le]
      push_cast
      constructor <;> linarith
    · have hhalf : q + (1 / 2 - q).floor = 1 / 2 := by
        rw [Int.cast_neg, sub_neg_eq_add] at htie
        rcases abs_choice (q + ((1 / 2 - q).floor : ℚ)) with h | h <;> linarith
      rw [Int.cast_neg, abs_neg, abs_of_neg hneg]
      exact lt_of_lt_of_le (by linarith) (le_abs_self _)
  · rename_i hpos
    rw [not_lt] at hpos
    have hlow := Rat.floor_le (q + 1 / 2)
    have hhigh := Rat.lt_floor_add_one (q + 1 / 2)
    rw [Int.cast_add, Int.cast_one] at hhigh
    refine ⟨(q + 1 / 2).floor, rfl, ?_, fun htie => ?_⟩
    · rw [abs_le]
      constructor <;> linarith
    · have hhalf : q - (q + 1 / 2).floor = -(1 / 2) := by
        rcases abs_choice (q - ((q + 1 / 2).floor : ℚ)) with h | h <;> linarith
      rw [abs_of_nonneg hpos]
      exact lt_of_lt_of_le (by linarith) (le_abs_self _)

theorem NearestAway.le {q : ℚ} {r s : ℤ} (hr : NearestAway q r) (hs : NearestAway q s) : s ≤ r := by
  by_contra! hlt
  have hr' := (abs_le.1 hr.near).2
  have hs' := (abs_le.1 hs.near).1
  have hstep : (r : ℚ) + 1 ≤ s := by exact_mod_cast hlt
  -- both are half a unit away, so the one towards zero is not farther from zero
  have hq : q = r + 1 / 2 := by linarith
  have hsr : (s : ℚ) = r + 1 := by linarith
  have htieR := hr.away (by rw [hq]; norm_num)
  have htieS := hs.away (by rw [hq, hsr]; norm_num [abs_of_neg])
  rw [hq] at htieR htieS
  rw [hsr] at htieS
  rcases le_or_gt 0 r with h | h
  · have h : (0 : ℚ) ≤ r := by exact_mod_cast h
    rw [abs_of_nonneg h, abs_of_nonneg (by linarith)] at htieR
    linarith
  · have h : (r : ℚ) + 1 ≤ 0 := by exact_mod_cast h
    rw [abs_of_nonpos h, abs_of_neg (by linarith)] at htieS
    linarith

/-- A whole number of seconds, held within 64 bits. -/
def Seconds (q : ℚ) (n : ℤ) : Prop := ∃ r, NearestAway q r ∧ n = max minInt64 (min maxInt64 r)

theorem seconds_iff {q : ℚ} {n : ℤ} :
    (Arithmetic.toInt64 (Arithmetic.round q) : ℤ) = n ↔ Seconds q n := by
  obtain ⟨r, hround, hr⟩ := exists_nearestAway q
  have htruncate : Exact.truncate (r : ℚ) = r := by simp [Exact.truncate]
  have hvalue : (Arithmetic.toInt64 (Arithmetic.round q) : ℤ) = max minInt64 (min maxInt64 r) := by
    show max minInt64 (min maxInt64 (Exact.truncate (Exact.round q))) = _
    rw [hround, htruncate]
  rw [hvalue]
  constructor
  · rintro rfl
    exact ⟨r, hr, rfl⟩
  · rintro ⟨s, hs, rfl⟩
    rw [le_antisymm (hs.le hr) (hr.le hs)]

/-! ## The three readers -/

/-- **The readers of quantities accept exactly their grammar.** Durations take their units in any letter case and come out
as whole seconds within 64 bits; memory sizes and processor shares are the number times the unit. Every other text is
refused for one reason, and the reason is the same in every reading of the formulas. -/
theorem parsers_exact :
    Parses (durationSeconds ℚ) (fun unit factor => (lowerText unit, factor) ∈ durationUnits) Seconds ∧
    Parses (memoryBytes ℚ) (fun unit factor => (unit, factor) ∈ memoryUnits) Eq ∧
    Parses (cpuCores ℚ) (fun unit factor => (unit, factor) ∈ cpuUnits) Eq ∧
    ∀ (α : Type) [Arithmetic α] (input : String) (why : QuantityError),
      (durationSeconds α input = .error why ↔ durationSeconds ℚ input = .error why) ∧
      (memoryBytes α input = .error why ↔ memoryBytes ℚ input = .error why) ∧
      (cpuCores α input = .error why ↔ cpuCores ℚ input = .error why) := by
  simp only [durationSeconds_eq, memoryBytes_eq, cpuCores_eq]
  refine ⟨?_, ?_, ?_, fun α _ input why => ⟨measure_error_congr, measure_error_congr, measure_error_congr⟩⟩
  · exact parses_measure (fun unit q => mem_durationUnits_iff _ q) (fun unit q => isAlpha_of_mem_durationUnits)
      fun d n v => seconds_iff
  · exact parses_measure mem_memoryUnits_iff (fun unit q => isAlpha_of_mem_memoryUnits) fun d n v => Iff.rfl
  · refine parses_measure mem_cpuUnits_iff (fun unit q => isAlpha_of_mem_cpuUnits) fun d n v => ?_
    rw [mul_one_div]
    exact Iff.rfl

/-- A half goes away from zero. -/
example : durationSeconds ℚ " -0.5 SEC " = .ok (-1) := by decide +kernel

/-- The number comes before the unit. -/
example : cpuCores ℚ "+-1 kg" = .error (.invalidNumber "+-1 kg") := by rfl

end Quantity

end TuningAdvisor
