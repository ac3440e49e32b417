import TuningAdvisor.Number.Binary64
/-!
# The shortest decimal that reads back: the values of `RecommendationConfigEnv`

For a positive number `m · 2 ^ e` the reals that round to it form an interval whose ends belong to
it exactly when `m` is even. **Of all decimals in the interval `shortest` takes one with the fewest
digits and, of those, the nearest.** On every decimal grid only the value's two neighbours need to
be tried: if any point of the grid lies in the interval, one of the two does.
-/

namespace TuningAdvisor

/-- The number `digits · 10 ^ exponent`. -/
structure DecimalDigits where
  digits : Nat
  exponent : Int
deriving DecidableEq, Repr

/-- Which of two equally near neighbours is taken. -/
inductive Tie where
  | even
  | up
deriving DecidableEq, Repr

namespace Shortest

/-- A positive number with the interval of reals that round to it, all four over one denominator. -/
structure Target where
  low : Nat
  value : Nat
  high : Nat
  denominator : Nat
  /-- Whether the two ends belong to the interval. -/
  closed : Bool

/-- The interval of `m · 2 ^ e`. Below a power of two the neighbour is only half as far away,
except at the bottom of the range. -/
def Target.of (m : Nat) (e : Int) : Target :=
  let gap := if m = 1 <<< 52 ∧ -1074 < e then 1 else 2
  let (scale, denominator) :=
    if 2 ≤ e then (1 <<< (e - 2).toNat, 1) else (1, 1 <<< (2 - e).toNat)
  { low := (4 * m - gap) * scale
    value := 4 * m * scale
    high := (4 * m + 2) * scale
    denominator
    closed := m % 2 = 0 }

def digitCount (n : Nat) : Nat := (Nat.toDigits 10 n).length

/-- The power `p` with `10 ^ p ≤ value < 10 ^ (p + 1)`. -/
def Target.magnitude (t : Target) : Int :=
  let guess : Int := (digitCount t.value : Int) - digitCount t.denominator
  let reached : Bool :=
    if 0 ≤ guess then t.denominator * Nat.pow 10 guess.toNat ≤ t.value
    else t.denominator ≤ t.value * Nat.pow 10 (-guess).toNat
  if reached then guess else guess - 1

/-- The target on the grid of multiples of `10 ^ k`, that is, divided by that power. -/
def Target.onGrid (t : Target) (k : Int) : Target :=
  if 0 ≤ k then { t with denominator := t.denominator * Nat.pow 10 k.toNat }
  else
    let scale := Nat.pow 10 (-k).toNat
    { t with low := t.low * scale, value := t.value * scale, high := t.high * scale }

def Target.holds (t : Target) (c : Nat) : Bool :=
  let point := c * t.denominator
  if t.closed then t.low ≤ point && point ≤ t.high else t.low < point && point < t.high

/-- The nearer one of the two whole numbers around the value, if it lies in the interval. -/
def Target.neighbour? (tie : Tie) (t : Target) : Option Nat :=
  let below := t.value / t.denominator
  let above := below + 1
  match t.holds below, t.holds above with
  | true, true =>
    let toBelow := t.value - below * t.denominator
    let toAbove := above * t.denominator - t.value
    if toBelow < toAbove then some below
    else if toAbove < toBelow then some above
    else
      match tie with
      | .even => some (if below % 2 = 0 then below else above)
      | .up => some above
  | true, false => some below
  | false, true => some above
  | false, false => none

/-- The first grid with a hit, from `count` digits on; `fuel` grids are tried. -/
def search (tie : Tie) (t : Target) (magnitude : Int) : (fuel count : Nat) → DecimalDigits
  | 0, _ => { digits := 0, exponent := 0 }
  | fuel + 1, count =>
    let k := magnitude + 1 - count
    match (t.onGrid k).neighbour? tie with
    | some digits => { digits, exponent := k }
    | none => search tie t magnitude fuel (count + 1)

/-- Moves trailing zeros of the digits into the exponent. -/
def stripZeros (d : DecimalDigits) : (fuel : Nat) → DecimalDigits
  | 0 => d
  | fuel + 1 =>
    if d.digits % 10 = 0 then stripZeros { digits := d.digits / 10, exponent := d.exponent + 1 } fuel
    else d

end Shortest

/-- The shortest decimal that reads back as `m · 2 ^ e`, for positive `m`. Seventeen digits are
always enough. -/
def shortest (tie : Tie) (m : Nat) (e : Int) : DecimalDigits :=
  let t := Shortest.Target.of m e
  Shortest.stripZeros (Shortest.search tie t t.magnitude 17 1) 18

end TuningAdvisor
