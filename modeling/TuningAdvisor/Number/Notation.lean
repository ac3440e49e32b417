import TuningAdvisor.Number.Shortest
/-!
# Written numbers: the values of `RecommendationConfigEnv` and of `print_json`

Three ways of writing a binary64 number: `plain` in running text (shortest digits, never an
exponent), `json` in documents (shortest digits, always recognisably a float) and `fixed` with a
given number of places.
-/

namespace TuningAdvisor

namespace Written

def digitsOf (n : Nat) : String := String.ofList (Nat.toDigits 10 n)

def zeros (n : Nat) : String := String.ofList (List.replicate n '0')

def sign (negative : Bool) : String := if negative then "-" else ""

/-- The digits with the point before the last `places` of them, zeros put in front as needed. -/
def withPoint (digits : Nat) (places : Nat) : String :=
  let cs := Nat.toDigits 10 digits
  let padded := List.replicate (places + 1 - cs.length) '0' ++ cs
  let whole := padded.take (padded.length - places)
  let fraction := padded.drop (padded.length - places)
  String.ofList (if places = 0 then whole else whole ++ '.' :: fraction)

/-- Positional, with a point only where there is a fraction. -/
def positional (d : DecimalDigits) : String :=
  if 0 ≤ d.exponent then digitsOf d.digits ++ zeros d.exponent.toNat
  else withPoint d.digits (-d.exponent).toNat

/-- One digit, a point where more digits follow, and the exponent with its sign. -/
def scientific (d : DecimalDigits) : String :=
  let cs := Nat.toDigits 10 d.digits
  let exponent : Int := d.exponent + (cs.length - 1 : Nat)
  let mantissa := match cs with
    | [] => []
    | [c] => [c]
    | c :: rest => c :: '.' :: rest
  String.ofList mantissa ++ (if 0 ≤ exponent then "e+" else "e") ++ toString exponent

/-- Positional while the point stands at most sixteen digits from the left and the first digit at
most five places behind the point; a whole number keeps `.0`. -/
def document (d : DecimalDigits) : String :=
  let point : Int := (Shortest.digitCount d.digits : Int) + d.exponent
  if 0 ≤ d.exponent ∧ point ≤ 16 then positional d ++ ".0"
  else if -5 < point ∧ point ≤ 16 then positional d
  else scientific d

end Written

def plain (x : Float) : String :=
  match Binary64.ofFloat x with
  | .nan => "NaN"
  | .infinite negative => Written.sign negative ++ "inf"
  | .finite negative m e =>
    Written.sign negative ++ if m = 0 then "0" else Written.positional (shortest .up m e)

/-- Shortest digits as documents carry them; `none` for numbers that no document can carry. -/
def json? (x : Float) : Option String :=
  match Binary64.ofFloat x with
  | .finite negative m e =>
    some (Written.sign negative ++ if m = 0 then "0.0" else Written.document (shortest .even m e))
  | _ => none

/-- The quotient as a whole number, a half to the even neighbour. -/
def roundHalfEven (numerator denominator : Nat) : Nat :=
  let quotient := numerator / denominator
  let twice := 2 * (numerator % denominator)
  if twice < denominator then quotient
  else if denominator < twice then quotient + 1
  else quotient + quotient % 2

/-- Exactly `places` digits behind the point, rounded from the exact value. -/
def fixed (places : Nat) (x : Float) : String :=
  match Binary64.ofFloat x with
  | .nan => "NaN"
  | .infinite negative => Written.sign negative ++ "inf"
  | .finite negative m e =>
    let scaled := m * Nat.pow 10 places
    let digits :=
      if 0 ≤ e then scaled <<< e.toNat else roundHalfEven scaled (1 <<< (-e).toNat)
    Written.sign negative ++ Written.withPoint digits places

end TuningAdvisor
