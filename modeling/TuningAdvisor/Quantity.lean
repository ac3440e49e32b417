import TuningAdvisor.Number.Arithmetic
import TuningAdvisor.Text.Blank
import TuningAdvisor.Text.Quoted
/-!
# Quantities: `parse_duration_secs`, `parse_memory_bytes`, `parse_cpu_cores`

Durations (`15min`), memory sizes (`512Mi`) and processor shares (`500m`): a decimal number and a
unit, blanks allowed around both. **The number is the longest stretch of digits, points and signs
at the front**; what is left is the unit. A blank text is `empty`, a stretch that is no decimal
number is `invalidNumber`, and a unit that is not in the table is `unknownUnit`, in this order.
-/

namespace TuningAdvisor

inductive QuantityError where
  | empty
  | invalidNumber (input : String)
  | unknownUnit (input unit : String)
deriving DecidableEq, Repr

def QuantityError.message : QuantityError → String
  | .empty => "empty quantity"
  | .invalidNumber input => "invalid number in quantity " ++ quoted input
  | .unknownUnit input unit => "unknown unit " ++ quoted unit ++ " in " ++ quoted input

namespace Quantity

def isNumberChar (c : Char) : Bool := c.isDigit || c == '.' || c == '-' || c == '+'

/-- The number and the unit of a text. -/
def split (input : String) : Except QuantityError (Decimal × String) :=
  let cs := trimChars input.toList
  if cs.isEmpty then .error .empty
  else
    match Decimal.read? (cs.takeWhile isNumberChar) with
    | none => .error (.invalidNumber input)
    | some number => .ok (number, String.ofList (trimChars (cs.dropWhile isNumberChar)))

/-- Seconds per unit of duration; the unit is in lower case. -/
def durationFactor? : String → Option Nat
  | "" | "s" | "sec" | "secs" | "second" | "seconds" => some 1
  | "m" | "min" | "mins" | "minute" | "minutes" => some 60
  | "h" | "hr" | "hrs" | "hour" | "hours" => some 3600
  | _ => none

def memoryFactor? : String → Option Nat
  | "" => some 1
  | "Ki" => some 1024
  | "Mi" => some (1024 * 1024)
  | "Gi" => some (1024 * 1024 * 1024)
  | "Ti" => some (1024 * 1024 * 1024 * 1024)
  | "k" | "K" => some 1000
  | "M" => some (1000 * 1000)
  | "G" => some (1000 * 1000 * 1000)
  | "T" => some (1000 * 1000 * 1000 * 1000)
  | _ => none

/-- Parts of a core per unit of processor share. -/
def cpuDivisor? : String → Option Nat
  | "" => some 1
  | "m" => some 1000
  | _ => none

variable (α : Type) [Arithmetic α]

/-- A duration in seconds, to the nearest second. -/
def durationSeconds (input : String) : Except QuantityError Int := do
  let (number, unit) ← split input
  match durationFactor? (lowerText unit) with
  | some factor =>
    let seconds : α := Arithmetic.ofDecimal number * Arithmetic.ofNat factor
    return Arithmetic.toInt64 (Arithmetic.round seconds)
  | none => throw (.unknownUnit input unit)

def memoryBytes (input : String) : Except QuantityError α := do
  let (number, unit) ← split input
  match memoryFactor? unit with
  | some factor => return Arithmetic.ofDecimal number * Arithmetic.ofNat factor
  | none => throw (.unknownUnit input unit)

def cpuCores (input : String) : Except QuantityError α := do
  let (number, unit) ← split input
  match cpuDivisor? unit with
  | some divisor => return Arithmetic.ofDecimal number / Arithmetic.ofNat divisor
  | none => throw (.unknownUnit input unit)

variable {α}

def bytesToMb (bytes : α) : α := bytes / Arithmetic.ofNat (1024 * 1024)

def mbToBytes (mb : α) : α := mb * Arithmetic.ofNat (1024 * 1024)

end Quantity

end TuningAdvisor
