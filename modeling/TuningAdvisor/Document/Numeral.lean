import TuningAdvisor.Document.Basic
import TuningAdvisor.Number.Range
/-!
# Numbers in document texts: what `parse_documents` makes of them

A whole number that fits 64 bits is kept exactly. Every other number is read with one division or
multiplication: **its leading digits, as many as fit 64 bits, are rounded to binary64, and the
result is multiplied or divided by a power of ten.** A result beyond the finite numbers is refused.
-/

namespace TuningAdvisor.Numeral

def maxSignificand : Nat := maxNat64

/-- Digits appended to a significand while it fits; the count of those taken, and the rest. -/
def appendDigits (significand : Nat) (count : Nat) : List Char → (Nat × Nat) × List Char
  | [] => ((significand, count), [])
  | c :: rest =>
    if c.isDigit then
      let next := 10 * significand + (c.toNat - '0'.toNat)
      if maxSignificand < next then ((significand, count), c :: rest)
      else appendDigits next (count + 1) rest
    else ((significand, count), c :: rest)

/-- `x · 10 ^ exponent`, `none` beyond the finite numbers. Powers past the largest finite one are
applied in turns, and `fuel` turns bring every number to zero. -/
def scale (x : Float) (exponent : Int) : (fuel : Nat) → Option Float
  | 0 => some x
  | fuel + 1 =>
    if exponent.natAbs ≤ 308 then
      let power := Float.ofScientific 1 false exponent.natAbs
      if 0 ≤ exponent then
        let y := x * power
        if y.isInf then none else some y
      else some (x / power)
    else if x == 0.0 then some x
    else if 0 ≤ exponent then none
    else scale (x / 1e308) (exponent + 308) fuel

/-- The number with the given sign, significand and power of ten. -/
def toFloat? (negative : Bool) (significand : Nat) (exponent : Int) : Option Float :=
  (scale (Float.ofNat significand) exponent 4).map fun x => if negative then -x else x

/-- A whole number: kept while it fits 64 bits with its sign, and as a float else; minus zero is a
float as well. -/
def whole (negative : Bool) (significand : Nat) : Doc :=
  if negative then
    if significand = 0 ∨ -(significand : Int) < minInt64 then .float (-(Float.ofNat significand))
    else .int (-(significand : Int))
  else .int significand

end TuningAdvisor.Numeral
