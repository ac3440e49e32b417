import TuningAdvisor.Number.Binary64
/-!
# Decimal numerals: the numbers of `split_number`, `numeric_value` and `record_trial`

A decimal numeral is read into an exact `Decimal` first and only then rounded, once, to a `Float`.
The grammar is

    sign? ( "inf" | "infinity" | "nan" | digits ("." digits*)? exponent? | "." digits exponent? )

with the words in any letter case, and `exponent` an `e` or `E` with an optional sign and digits.
-/

namespace TuningAdvisor

/-- The exact number `± mantissa · 10 ^ exponent`. -/
structure Decimal where
  negative : Bool
  mantissa : Nat
  exponent : Int
deriving DecidableEq, Repr

namespace Decimal

/-- The value of a string of digits, the first one the most significant. -/
def ofDigits (digits : List Char) : Nat :=
  digits.foldl (fun n c => 10 * n + (c.toNat - '0'.toNat)) 0

def toRat (d : Decimal) : Rat :=
  let magnitude : Rat :=
    if 0 ≤ d.exponent then (d.mantissa * Nat.pow 10 d.exponent.toNat : Nat)
    else mkRat d.mantissa (Nat.pow 10 (-d.exponent).toNat)
  if d.negative then -magnitude else magnitude

/-- The nearest binary64 number, a tie to the even neighbour. -/
def toFloat (d : Decimal) : Float :=
  let magnitude := Float.ofScientific d.mantissa (decide (d.exponent < 0)) d.exponent.natAbs
  if d.negative then -magnitude else magnitude

def takeSign : List Char → Bool × List Char
  | '-' :: rest => (true, rest)
  | '+' :: rest => (false, rest)
  | cs => (false, cs)

/-- A mantissa `digits`, `digits.digits*` or `.digits`, and what follows it. -/
def takeMantissa (cs : List Char) : Option ((Nat × Int) × List Char) :=
  let whole := cs.takeWhile Char.isDigit
  match cs.dropWhile Char.isDigit with
  | '.' :: rest =>
    let fraction := rest.takeWhile Char.isDigit
    if whole.isEmpty && fraction.isEmpty then none
    else some ((ofDigits (whole ++ fraction), -fraction.length), rest.dropWhile Char.isDigit)
  | rest => if whole.isEmpty then none else some ((ofDigits whole, 0), rest)

def readExponent : List Char → Option Int
  | [] => some 0
  | c :: rest =>
    if c = 'e' ∨ c = 'E' then
      let (negative, digits) := takeSign rest
      if digits.isEmpty || !digits.all Char.isDigit then none
      else
        let size : Int := ofDigits digits
        some (if negative then -size else size)
    else none

/-- Reads an unsigned numeral that fills the whole text. -/
def readMagnitude (negative : Bool) (cs : List Char) : Option Decimal := do
  let ((mantissa, shift), rest) ← takeMantissa cs
  let exponent ← readExponent rest
  return { negative, mantissa, exponent := shift + exponent }

/-- Reads a finite numeral that fills the whole text. -/
def read? (cs : List Char) : Option Decimal :=
  let (negative, rest) := takeSign cs
  readMagnitude negative rest

end Decimal

/-- The number that a text stands for; `none` unless the whole text is a numeral. -/
def readFloat? (text : String) : Option Float :=
  match Decimal.read? text.toList with
  | some d => some d.toFloat
  | none =>
    let (negative, word) := Decimal.takeSign text.toList
    let magnitude : Option Float :=
      match String.ofList (word.map Char.toLower) with
      | "inf" | "infinity" => some (1.0 / 0.0)
      | "nan" => some (0.0 / 0.0)
      | _ => none
    magnitude.map fun x => if negative then -x else x

end TuningAdvisor
