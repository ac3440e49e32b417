import Mathlib
import TuningAdvisor.Number.Shortest
/-!
# The shortest decimal is near: the values of `RecommendationConfigEnv`

The search for the shortest decimal that reads back tries one grid after the other and gives up behind seventeen digits.
**It never has to** (`Target.Wide.isSome_neighbour?`): on the last grid one of the two neighbours is at most half a step
away, and the interval reaches farther than that on both sides. So the decimal that is found lies in the interval, half a
unit from the number at most (`shortest_near`).
-/

namespace TuningAdvisor

/-- What the digits stand for. -/
def DecimalDigits.value (d : DecimalDigits) : ℚ := d.digits * 10 ^ d.exponent

namespace Shortest

variable {tie : Tie} {t : Target} {c k m : ℕ} {e p : ℤ}

/-! ## One grid -/

/-- A power of either sign is a quotient of whole numbers. -/
theorem zpow_eq_div {b : ℕ} (hb : b ≠ 0) (k : ℤ) : (b : ℚ) ^ k = (b ^ k.toNat : ℕ) / (b ^ (-k).toNat : ℕ) := by
  push_cast
  rw [← zpow_natCast, ← zpow_natCast, ← zpow_sub₀ (Nat.cast_ne_zero.2 hb)]
  congr 1
  omega

theorem onGrid_eq (t : Target) (k : ℤ) : t.onGrid k =
    { t with
      low := t.low * 10 ^ (-k).toNat
      value := t.value * 10 ^ (-k).toNat
      high := t.high * 10 ^ (-k).toNat
      denominator := t.denominator * 10 ^ k.toNat } := by
  unfold Target.onGrid
  split
  · have hnone : (-k).toNat = 0 := by omega
    simp [hnone]
  · have hnone : k.toNat = 0 := by omega
    simp [hnone]

/-- What lies in the interval on some grid lies in the interval. -/
theorem bounds_of_holds (h : (t.onGrid p).holds c = true) :
    (t.low : ℚ) ≤ c * 10 ^ p * t.denominator ∧ (c : ℚ) * 10 ^ p * t.denominator ≤ t.high := by
  have hpow : (10 : ℚ) ^ p = _ := zpow_eq_div (b := 10) (by norm_num) p
  have hb : 0 < 10 ^ (-p).toNat := by positivity
  rw [onGrid_eq] at h
  generalize 10 ^ p.toNat = a at h hpow
  generalize 10 ^ (-p).toNat = b at h hpow hb
  have hnat : t.low * b ≤ c * (t.denominator * a) ∧ c * (t.denominator * a) ≤ t.high * b := by
    simp only [Target.holds] at h
    split at h
    · simpa using h
    · simp only [Bool.and_eq_true, decide_eq_true_eq] at h
      exact ⟨h.1.le, h.2.le⟩
  have hlow : (t.low : ℚ) * b ≤ c * (t.denominator * a) := by exact_mod_cast hnat.1
  have hhigh : (c : ℚ) * (t.denominator * a) ≤ t.high * b := by exact_mod_cast hnat.2
  have hpoint : (c : ℚ) * 10 ^ p * t.denominator = c * (t.denominator * a) / b := by
    rw [hpow]
    ring
  rw [hpoint]
  have hbpos : (0 : ℚ) < b := Nat.cast_pos.2 hb
  exact ⟨(le_div_iff₀ hbpos).2 hlow, (div_le_iff₀ hbpos).2 hhigh⟩

theorem holds_of_neighbour? (h : t.neighbour? tie = some c) : t.holds c = true := by
  unfold Target.neighbour? at h
  dsimp only at h
  split at h
  · -- both neighbours lie in the interval, whichever is taken
    rename_i hbelow habove
    split at h
    · cases h
      exact hbelow
    · split at h
      · cases h
        exact habove
      · cases tie with
        | even =>
          cases h
          split
          · exact hbelow
          · exact habove
        | up =>
          cases h
          exact habove
  · rename_i hbelow _
    cases h
    exact hbelow
  · rename_i _ habove
    cases h
    exact habove
  · cases h

theorem isSome_neighbour?_of_holds (h : t.holds (t.value / t.denominator) = true ∨
    t.holds (t.value / t.denominator + 1) = true) : (t.neighbour? tie).isSome = true := by
  unfold Target.neighbour?
  dsimp only
  split
  · split
    · rfl
    · split
      · rfl
      · cases tie <;> rfl
  · rfl
  · rfl
  · rename_i hbelow habove
    rcases h with h | h
    · rw [hbelow] at h
      cases h
    · rw [habove] at h
      cases h

theorem holds_of_inside (hlow : t.low < c * t.denominator) (hhigh : c * t.denominator < t.high) : t.holds c = true := by
  unfold Target.holds
  split
  · simp [hlow.le, hhigh.le]
  · simp [hlow, hhigh]

/-- An interval that reaches farther than half a step on both sides has one of the two neighbours in it. -/
theorem isSome_neighbour? (hlow : t.denominator + 2 * t.low < 2 * t.value)
    (hhigh : 2 * t.value + t.denominator < 2 * t.high) (ht : 0 < t.denominator) :
    (t.neighbour? tie).isSome = true := by
  have hdiv := Nat.div_add_mod t.value t.denominator
  have hmod := Nat.mod_lt t.value ht
  have habove : (t.value / t.denominator + 1) * t.denominator = t.denominator * (t.value / t.denominator) + t.denominator := by
    ring
  refine isSome_neighbour?_of_holds ?_
  rcases le_total (2 * (t.value % t.denominator)) t.denominator with hnear | hnear
  · left
    refine holds_of_inside ?_ ?_ <;> rw [mul_comm] <;> omega
  · right
    refine holds_of_inside ?_ ?_ <;> rw [habove] <;> omega

/-! ## The last grid -/

theorem digitCount_lt (n : ℕ) : n < 10 ^ digitCount n :=
  (Nat.length_toDigits_le_iff (by decide) Nat.length_toDigits_pos).1 le_rfl

theorem pow_digitCount_le {n : ℕ} (hn : 0 < n) : 10 ^ (digitCount n - 1) ≤ n := by
  by_contra hlt
  by_cases hone : digitCount n = 1
  · rw [hone] at hlt
    exact hlt (by simpa using Nat.succ_le_of_lt hn)
  · have hpos : 0 < digitCount n := Nat.length_toDigits_pos
    have hle := (Nat.length_toDigits_le_iff (b := 10) (by decide) (show 0 < digitCount n - 1 by omega)).2 (not_le.1 hlt)
    have : digitCount n ≤ digitCount n - 1 := hle
    omega

/-- A power of ten that is not above the number, in whole numbers. -/
theorem reached_iff (t : Target) (g : ℤ) : (if 0 ≤ g then decide (t.denominator * Nat.pow 10 g.toNat ≤ t.value)
    else decide (t.denominator ≤ t.value * Nat.pow 10 (-g).toNat)) = true ↔ (10 : ℚ) ^ g * t.denominator ≤ t.value := by
  have hboth : (if 0 ≤ g then decide (t.denominator * Nat.pow 10 g.toNat ≤ t.value)
      else decide (t.denominator ≤ t.value * Nat.pow 10 (-g).toNat)) =
      decide (t.denominator * 10 ^ g.toNat ≤ t.value * 10 ^ (-g).toNat) := by
    split
    · have hnone : (-g).toNat = 0 := by omega
      simp [hnone]
    · have hnone : g.toNat = 0 := by omega
      simp [hnone]
  have hpow : (10 : ℚ) ^ g = _ := zpow_eq_div (b := 10) (by norm_num) g
  have hpos : (0 : ℚ) < (10 ^ (-g).toNat : ℕ) := by positivity
  rw [hboth, decide_eq_true_iff, hpow, div_mul_eq_mul_div, div_le_iff₀ hpos, mul_comm t.denominator]
  exact_mod_cast Iff.rfl

/-- The power is not above the number. -/
theorem pow_magnitude_le (hv : 0 < t.value) : (10 : ℚ) ^ t.magnitude * t.denominator ≤ t.value := by
  unfold Target.magnitude
  dsimp only
  by_cases hguess : (10 : ℚ) ^ ((digitCount t.value : ℤ) - digitCount t.denominator) * t.denominator ≤ t.value
  · rw [if_pos ((reached_iff t _).2 hguess)]
    exact hguess
  · rw [if_neg (mt (reached_iff t _).1 hguess)]
    -- one power less is not above, by the numbers of digits alone
    have hdenominator : (t.denominator : ℚ) ≤ 10 ^ digitCount t.denominator := by
      exact_mod_cast (digitCount_lt t.denominator).le
    have hvalue : (10 : ℚ) ^ (digitCount t.value - 1) ≤ t.value := by exact_mod_cast pow_digitCount_le hv
    have hpos : 0 < digitCount t.value := Nat.length_toDigits_pos
    calc (10 : ℚ) ^ ((digitCount t.value : ℤ) - digitCount t.denominator - 1) * t.denominator
        ≤ 10 ^ ((digitCount t.value : ℤ) - digitCount t.denominator - 1) * 10 ^ digitCount t.denominator := by gcongr
      _ = 10 ^ (digitCount t.value - 1) := by
        rw [← zpow_natCast, ← zpow_natCast, ← zpow_add₀ (by norm_num)]
        congr 1
        omega
      _ ≤ t.value := hvalue

/-- An interval that reaches far enough for seventeen digits. -/
structure Target.Wide (t : Target) : Prop where
  denominator : 0 < t.denominator
  value : 0 < t.value
  low : t.value + 2 * 10 ^ 16 * t.low < 2 * 10 ^ 16 * t.value
  high : t.value + 2 * 10 ^ 16 * t.value < 2 * 10 ^ 16 * t.high

namespace Target.Wide

/-- Seventeen digits are enough. -/
theorem isSome_neighbour? (h : t.Wide) : ((t.onGrid (t.magnitude - 16)).neighbour? tie).isSome = true := by
  have hpow : (10 : ℚ) ^ (t.magnitude - 16) = _ := zpow_eq_div (b := 10) (by norm_num) (t.magnitude - 16)
  have ha : 0 < 10 ^ (t.magnitude - 16).toNat := by positivity
  have hb : 0 < 10 ^ (-(t.magnitude - 16)).toNat := by positivity
  rw [onGrid_eq]
  generalize 10 ^ (t.magnitude - 16).toNat = a at hpow ha ⊢
  generalize 10 ^ (-(t.magnitude - 16)).toNat = b at hpow hb ⊢
  have hbpos : (0 : ℚ) < b := Nat.cast_pos.2 hb
  -- the step is a part of `10 ^ 16` of the number at most
  have hstep : 10 ^ 16 * (t.denominator * a) ≤ t.value * b := by
    have hle := pow_magnitude_le h.value
    have hsplit : (10 : ℚ) ^ t.magnitude = 10 ^ 16 * (a / b) := by
      rw [← hpow, ← zpow_natCast, ← zpow_add₀ (by norm_num)]
      congr 1
      push_cast
      ring
    rw [hsplit, mul_assoc, div_mul_eq_mul_div, ← mul_div_assoc, div_le_iff₀ hbpos] at hle
    have hle : ((10 ^ 16 * (a * t.denominator) : ℕ) : ℚ) ≤ (t.value * b : ℕ) := by
      push_cast
      exact hle
    have hle : 10 ^ 16 * (a * t.denominator) ≤ t.value * b := by exact_mod_cast hle
    rwa [mul_comm a] at hle
  have hlow := (Nat.mul_lt_mul_right hb).2 h.low
  have hhigh := (Nat.mul_lt_mul_right hb).2 h.high
  rw [add_mul, mul_assoc, mul_assoc (2 * 10 ^ 16)] at hlow hhigh
  refine Shortest.isSome_neighbour? ?_ ?_ (Nat.mul_pos h.denominator ha)
  · dsimp only
    omega
  · dsimp only
    omega

end Target.Wide

/-! ## The interval of a number -/

/-- The interval in quarters of the unit. It reaches two of them up, and one or two of them down. -/
theorem exists_of (m : ℕ) (e : ℤ) : ∃ a b gap : ℕ, 0 < a ∧ 0 < b ∧ (2 : ℚ) ^ (e - 2) = a / b ∧
    (gap = 2 ∨ gap = 1 ∧ m = 2 ^ 52) ∧
    Target.of m e = ⟨(4 * m - gap) * a, 4 * m * a, (4 * m + 2) * a, b, decide (m % 2 = 0)⟩ := by
  refine ⟨2 ^ (e - 2).toNat, 2 ^ (-(e - 2)).toNat, if m = 1 <<< 52 ∧ -1074 < e then 1 else 2, by positivity,
    by positivity, zpow_eq_div (b := 2) (by norm_num) (e - 2), ?_, ?_⟩
  · split
    · rename_i hpower
      exact .inr ⟨rfl, hpower.1⟩
    · exact .inl rfl
  · unfold Target.of
    rw [neg_sub]
    by_cases he : 2 ≤ e
    · have hnone : (2 - e).toNat = 0 := by omega
      simp [he, hnone, Nat.shiftLeft_eq]
    · have hnone : (e - 2).toNat = 0 := by omega
      simp [he, hnone, Nat.shiftLeft_eq]

theorem wide_of (hm : 0 < m) (hbits : m < 2 ^ 53) (e : ℤ) : (Target.of m e).Wide := by
  obtain ⟨a, b, gap, ha, hb, -, hgap, htarget⟩ := exists_of m e
  have hlow : 4 * m + 2 * 10 ^ 16 * (4 * m - gap) < 2 * 10 ^ 16 * (4 * m) := by omega
  have hhigh : 4 * m + 2 * 10 ^ 16 * (4 * m) < 2 * 10 ^ 16 * (4 * m + 2) := by omega
  rw [htarget]
  generalize 4 * m - gap = low at hlow ⊢
  refine ⟨hb, by positivity, ?_, ?_⟩
  · calc 4 * m * a + 2 * 10 ^ 16 * (low * a) = (4 * m + 2 * 10 ^ 16 * low) * a := by ring
      _ < 2 * 10 ^ 16 * (4 * m) * a := (Nat.mul_lt_mul_right ha).2 hlow
      _ = 2 * 10 ^ 16 * (4 * m * a) := mul_assoc ..
  · calc 4 * m * a + 2 * 10 ^ 16 * (4 * m * a) = (4 * m + 2 * 10 ^ 16 * (4 * m)) * a := by ring
      _ < 2 * 10 ^ 16 * (4 * m + 2) * a := (Nat.mul_lt_mul_right ha).2 hhigh
      _ = 2 * 10 ^ 16 * ((4 * m + 2) * a) := mul_assoc ..

/-! ## The search -/

/-- Where some grid has a hit, what is found lies in the interval. -/
theorem holds_search (tie : Tie) (t : Target) (p : ℤ) : ∀ fuel count,
    (∃ n < fuel, ((t.onGrid (p + 1 - (count + n : ℕ))).neighbour? tie).isSome = true) →
      (t.onGrid (search tie t p fuel count).exponent).holds (search tie t p fuel count).digits = true
  | 0, count, ⟨n, hn, _⟩ => absurd hn (Nat.not_lt_zero n)
  | fuel + 1, count, ⟨n, hn, hsome⟩ => by
    rw [search]
    split
    · rename_i digits hhit
      exact holds_of_neighbour? hhit
    · rename_i hmiss
      refine holds_search tie t p fuel (count + 1) ?_
      cases n with
      | zero =>
        rw [add_zero, hmiss] at hsome
        cases hsome
      | succ n => exact ⟨n, by omega, by rwa [show count + 1 + n = count + (n + 1) by omega]⟩

theorem value_stripZeros (d : DecimalDigits) : ∀ fuel, (stripZeros d fuel).value = d.value
  | 0 => rfl
  | fuel + 1 => by
    rw [stripZeros]
    split
    · rename_i hzero
      rw [value_stripZeros _ fuel]
      have hdigits : (d.digits : ℚ) = 10 * (d.digits / 10 : ℕ) := by
        have : d.digits = 10 * (d.digits / 10) := by omega
        exact_mod_cast this
      simp only [DecimalDigits.value]
      rw [hdigits, zpow_add_one₀ (by norm_num)]
      ring
    · rfl

end Shortest

open Shortest

/-- The shortest decimal lies in the interval of its number. -/
theorem shortest_within {m : ℕ} (hm : 0 < m) (hbits : m < 2 ^ 53) (tie : Tie) (e : ℤ) :
    ((Target.of m e).low : ℚ) ≤ (shortest tie m e).value * (Target.of m e).denominator ∧
      (shortest tie m e).value * (Target.of m e).denominator ≤ (Target.of m e).high := by
  have hwide := wide_of hm hbits e
  unfold shortest
  dsimp only
  rw [value_stripZeros]
  refine bounds_of_holds (holds_search tie _ _ 17 1 ⟨16, by norm_num, ?_⟩)
  rw [show (Target.of m e).magnitude + 1 - ((1 + 16 : ℕ) : ℤ) = (Target.of m e).magnitude - 16 by omega]
  exact hwide.isSome_neighbour?

/-- **The shortest decimal is half a unit from its number at most.** -/
theorem shortest_near {m : ℕ} (hm : 0 < m) (hbits : m < 2 ^ 53) (tie : Tie) (e : ℤ) :
    |(shortest tie m e).value - m * 2 ^ e| ≤ 2 ^ e / 2 := by
  obtain ⟨a, b, gap, ha, hb, hquarter, hgap, htarget⟩ := exists_of m e
  obtain ⟨hlow, hhigh⟩ := shortest_within hm hbits tie e
  have hbpos : (0 : ℚ) < b := Nat.cast_pos.2 hb
  have hunit : (2 : ℚ) ^ e = 4 * (a / b) := by
    rw [← hquarter, zpow_sub₀ (by norm_num)]
    norm_num
    ring
  have hgap : 4 * m - 2 ≤ 4 * m - gap := by omega
  have hreach : ((4 * m - 2 : ℕ) : ℚ) ≤ (4 * m - gap : ℕ) := by exact_mod_cast hgap
  rw [Nat.cast_sub (by omega)] at hreach
  rw [htarget] at hlow hhigh
  push_cast at hlow hhigh hreach
  rw [← div_le_iff₀ hbpos] at hlow
  rw [← le_div_iff₀ hbpos] at hhigh
  have hquarters := mul_le_mul_of_nonneg_right hreach (div_nonneg (Nat.cast_nonneg a) hbpos.le)
  rw [mul_div_assoc] at hlow hhigh
  rw [hunit, abs_le]
  constructor <;> linarith

end TuningAdvisor
