import TuningAdvisor.Number.Decimal
/-!
# Arithmetic in two readings: `MemorySizing` and the quantities

Quantities and heap sizes are computed by formulas that do not care about rounding. They are
written once over `Arithmetic`: read in `Float` they are what runs, read in `Rat` they are exact.
-/

namespace TuningAdvisor

class Arithmetic (α : Type) extends Add α, Sub α, Mul α, Div α where
  ofNat : Nat → α
  ofDecimal : Decimal → α
  /-- The reading of a measured number. -/
  ofFloat : Float → α
  lt : α → α → Bool
  le : α → α → Bool
  max : α → α → α
  min : α → α → α
  /-- The nearest whole number, a half away from zero. -/
  round : α → α
  /-- The integer part within the signed numbers of 64 bits. -/
  toInt64 : α → Int

instance : Arithmetic Float where
  ofNat := Float.ofNat
  ofDecimal := Decimal.toFloat
  ofFloat x := x
  lt x y := x < y
  le x y := x ≤ y
  max := Binary64.max
  min := Binary64.min
  round := Binary64.round
  toInt64 := Binary64.toInt64

namespace Exact

def truncate (x : Rat) : Int := Int.tdiv x.num x.den

/-- The nearest whole number, a half away from zero. -/
def round (x : Rat) : Rat :=
  if x < 0 then -((1 / 2 - x).floor : Rat) else ((x + 1 / 2).floor : Rat)

end Exact

instance : Arithmetic Rat where
  ofNat n := n
  ofDecimal := Decimal.toRat
  ofFloat x := (Binary64.ofFloat x).toRat
  lt x y := x < y
  le x y := x ≤ y
  max x y := if x ≤ y then y else x
  min x y := if x ≤ y then x else y
  round := Exact.round
  toInt64 x := Max.max minInt64 (Min.min maxInt64 (Exact.truncate x))

end TuningAdvisor
