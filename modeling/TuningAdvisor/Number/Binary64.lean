import TuningAdvisor.Number.Range
/-!
# Binary64 numbers taken apart: `round_tenth`, `ceil_cores` and the casts

A `Float` is a bit pattern. Everything that has to be exact about it (its integer part, its
decimal digits, its value as a rational) is computed from three integers: sign, significand and
power of two. **`Binary64.ofFloat` is the only place that reads the bits**; rounding and
saturating casts below are integer arithmetic on its result, so they evaluate in proofs too.
-/

namespace TuningAdvisor

/-- A binary64 number taken apart. A finite one is `± significand · 2 ^ exponent`. -/
inductive Binary64 where
  | nan
  | infinite (negative : Bool)
  | finite (negative : Bool) (significand : Nat) (exponent : Int)
deriving DecidableEq, Repr

namespace Binary64

/-- The three fields of the format: one sign bit, eleven exponent bits, fifty-two fraction bits. -/
def ofFloat (x : Float) : Binary64 :=
  let bits : Nat := x.toBits.toNat
  let negative := decide (1 <<< 63 ≤ bits)
  let biased : Nat := bits >>> 52 % 2048
  let fraction : Nat := bits % 1 <<< 52
  if biased = 2047 then
    if fraction = 0 then .infinite negative else .nan
  else if biased = 0 then .finite negative fraction (-1074)
  else .finite negative (1 <<< 52 + fraction) (biased - 1075)

/-- The exact value; numbers that are not finite count as zero. -/
def toRat : Binary64 → Rat
  | .finite negative significand exponent =>
    let magnitude : Rat :=
      if 0 ≤ exponent then (significand <<< exponent.toNat : Nat)
      else mkRat significand (1 <<< (-exponent).toNat)
    if negative then -magnitude else magnitude
  | _ => 0

inductive Cut where
  | down
  | up
  | halfUp
deriving DecidableEq, Repr

/-- `numerator / denominator` as a whole number, the fraction dropped as `cut` says. -/
def cutQuotient (cut : Cut) (numerator denominator : Nat) : Nat :=
  match cut with
  | .down => numerator / denominator
  | .up => (numerator + (denominator - 1)) / denominator
  | .halfUp => (2 * numerator + denominator) / (2 * denominator)

/-- The magnitude `significand · 2 ^ exponent` as a whole number. -/
def wholeMagnitude (cut : Cut) (significand : Nat) (exponent : Int) : Nat :=
  if 0 ≤ exponent then significand <<< exponent.toNat
  else cutQuotient cut significand (1 <<< (-exponent).toNat)

def signed (negative : Bool) (magnitude : Nat) : Float :=
  if negative then -(Float.ofNat magnitude) else Float.ofNat magnitude

/-- The nearest whole number, a half away from zero. -/
def round (x : Float) : Float :=
  match ofFloat x with
  | .finite negative significand exponent =>
    if 0 ≤ exponent then x else signed negative (wholeMagnitude .halfUp significand exponent)
  | _ => x

/-- The least whole number that is not below `x`. -/
def ceil (x : Float) : Float :=
  match ofFloat x with
  | .finite negative significand exponent =>
    if 0 ≤ exponent then x
    else signed negative (wholeMagnitude (if negative then .down else .up) significand exponent)
  | _ => x

/-- The integer part of `x` held between `low` and `high`: NaN counts as zero, and a number beyond
an end becomes that end. -/
def saturate (low high : Int) (x : Float) : Int :=
  match ofFloat x with
  | .nan => 0
  | .infinite negative => if negative then low else high
  | .finite negative significand exponent =>
    let magnitude : Int := wholeMagnitude .down significand exponent
    max low (min high (if negative then -magnitude else magnitude))

def toInt64 (x : Float) : Int := saturate minInt64 maxInt64 x

def toNat32 (x : Float) : Nat := (saturate 0 maxNat32 x).toNat

/-- The larger of two numbers; a NaN loses to the other one. -/
def max (x y : Float) : Float :=
  if x.isNaN then y else if x < y then y else x

/-- The smaller of two numbers; a NaN loses to the other one. -/
def min (x y : Float) : Float :=
  if x.isNaN then y else if y < x then y else x

def abs (x : Float) : Float := if x < 0.0 then -x else x

end Binary64

end TuningAdvisor
