import TuningAdvisor.Number.Range
import TuningAdvisor.Text.Blank
import TuningAdvisor.Time.Instant
/-!
# Written timestamps: the keys of `IntervalMap` and the messages of `ResultValidator`

An instant is read from the internet date-time format, leniently: blanks between the parts, fewer
digits, a space or a `t` between date and time, `UTC` for `Z`, and more colons or none in the
offset. It is written in one of three forms, all in UTC.
-/

namespace TuningAdvisor

inductive TimestampError where
  | tooShort
  | invalid
  | outOfRange
  | tooLong
  | impossible
deriving DecidableEq, Repr

def TimestampError.message : TimestampError → String
  | .tooShort => "premature end of input"
  | .invalid => "input contains invalid characters"
  | .outOfRange => "input is out of range"
  | .tooLong => "trailing input"
  | .impossible => "no possible date and time matching input"

namespace Timestamp

/-- A step of the reader: it takes something off the front or fails. -/
abbrev Step (α : Type) := List Char → Except TimestampError (α × List Char)

/-- The largest number that a group of digits may stand for. -/
def maxNumber : Nat := maxInt64.toNat

/-- At least one and at most `width` digits. -/
def takeNumber (width : Nat) : Step Nat := fun cs =>
  let digits := (cs.take width).takeWhile Char.isDigit
  let value := digits.foldl (fun n c => 10 * n + (c.toNat - '0'.toNat)) 0
  if cs.isEmpty then .error .tooShort
  else if digits.isEmpty then .error .invalid
  else if maxNumber < value then .error .outOfRange
  else .ok (value, cs.drop digits.length)

def takeChar (c : Char) : Step Unit
  | [] => .error .tooShort
  | d :: rest => if d = c then .ok ((), rest) else .error .invalid

/-- A number of at most two digits that lies between two bounds, blanks in front skipped. -/
def takeField (low high : Nat) : Step Nat := fun cs => do
  let (value, rest) ← takeNumber 2 (trimFront cs)
  if low ≤ value ∧ value ≤ high then .ok (value, rest) else .error .outOfRange

/-- A year: four digits, or a sign and any number of them. -/
def takeYear : Step Int := fun cs => do
  let (year, rest) ← (match trimFront cs with
    | '-' :: digits => do
      let (n, rest) ← takeNumber digits.length digits
      return (-(n : Int), rest)
    | '+' :: digits => do
      let (n, rest) ← takeNumber digits.length digits
      return ((n : Int), rest)
    | digits => do
      let (n, rest) ← takeNumber 4 digits
      return ((n : Int), rest) : Except TimestampError (Int × List Char))
  if minInt32 ≤ year ∧ year ≤ maxInt32 then .ok (year, rest) else .error .outOfRange

/-- The fraction of a second in nanoseconds; digits from the tenth on are dropped. -/
def takeFraction : Step Nat
  | '.' :: cs => do
    let (value, rest) ← takeNumber 9 cs
    return (value * Nat.pow 10 (9 - (cs.length - rest.length)), rest.dropWhile Char.isDigit)
  | cs => .ok (0, cs)

/-- Two digits of an offset, the first one at most `top`; `beyond` is the fault of a larger one. -/
def takeTwoDigits (top : Char) (beyond : TimestampError) : Step Nat
  | a :: b :: rest =>
    if a.isDigit && b.isDigit then
      if a ≤ top then .ok (10 * (a.toNat - '0'.toNat) + (b.toNat - '0'.toNat), rest)
      else .error beyond
    else .error .invalid
  | [a] => .error (if a.utf8Size < 2 then .tooShort else .invalid)
  | [] => .error .tooShort

/-- The offset from UTC in seconds: `Z`, `UTC`, or a sign, hours and minutes. -/
def takeOffset (cs : List Char) : Except TimestampError (Int × List Char) := do
  let signed (negative : Bool) (rest : List Char) : Except TimestampError (Int × List Char) := do
    let (hours, rest) ← takeTwoDigits '9' .invalid rest
    let rest := rest.dropWhile fun c => c == ':' || isBlank c
    let (minutes, rest) ← takeTwoDigits '5' .outOfRange rest
    let seconds : Int := hours * 3600 + minutes * 60
    return (if negative then -seconds else seconds, rest)
  if (cs.take 3).map Char.toLower = ['u', 't', 'c'] then return (0, cs.drop 3)
  match cs with
  | 'Z' :: rest => return (0, rest)
  | 'z' :: rest => return (0, rest)
  | '+' :: rest => signed false rest
  | '-' :: rest => signed true rest
  | '\u2212' :: rest => signed true rest
  | [] => throw .tooShort
  | _ => throw .invalid

def takeSeparator : Step Unit
  | [] => .error .tooShort
  | c :: rest => if c = 't' ∨ c = 'T' ∨ c = ' ' then .ok ((), rest) else .error .invalid

end Timestamp

open Timestamp in
def Instant.parse (text : String) : Except TimestampError Instant := do
  let (year, cs) ← takeYear text.toList
  let (_, cs) ← takeChar '-' (trimFront cs)
  let (month, cs) ← takeField 1 12 cs
  let (_, cs) ← takeChar '-' (trimFront cs)
  let (day, cs) ← takeField 1 31 cs
  let (_, cs) ← takeSeparator cs
  let (hour, cs) ← takeField 0 23 cs
  let (_, cs) ← takeChar ':' (trimFront cs)
  let (minute, cs) ← takeField 0 59 cs
  let (_, cs) ← takeChar ':' (trimFront cs)
  let (second, cs) ← takeField 0 60 cs
  let (fraction, cs) ← takeFraction cs
  let (offset, cs) ← takeOffset (trimFront cs)
  unless (trimFront cs).isEmpty do throw .tooLong
  let some date := Date.of? year month day | throw .outOfRange
  unless offset.natAbs < 86400 do throw .outOfRange
  let local' : Int :=
    date.toDays * 86400 + hour * 3600 + minute * 60 + (if second = 60 then 59 else second : Nat)
  let seconds := local' - offset
  let some t := Instant.of? seconds (fraction + if second = 60 then 1000000000 else 0)
    | throw .impossible
  return t

namespace Timestamp

def padded (width n : Nat) : String :=
  let cs := Nat.toDigits 10 n
  String.ofList (List.replicate (width - cs.length) '0' ++ cs)

/-- Four digits for the years 0 to 9999, a sign in front of all others. -/
def year (y : Int) : String :=
  if 0 ≤ y ∧ y ≤ 9999 then padded 4 y.toNat
  else (if y < 0 then "-" else "+") ++ padded 4 y.natAbs

/-- The date, `1970-01-01`. -/
def date (t : Instant) : String :=
  let d := Date.ofDays (Int.fdiv t.seconds 86400)
  year d.year ++ "-" ++ padded 2 d.month ++ "-" ++ padded 2 d.day

/-- No fraction, or three, six or nine digits of it, as few as show all of it. -/
def fraction (nanos : Nat) : String :=
  if nanos = 0 then ""
  else if nanos % 1000000 = 0 then "." ++ padded 3 (nanos / 1000000)
  else if nanos % 1000 = 0 then "." ++ padded 6 (nanos / 1000)
  else "." ++ padded 9 nanos

/-- The time of day, `00:00:00` with the fraction; an inserted second has the number 60. -/
def timeOfDay (t : Instant) : String :=
  let second := t.secondOfDay.toNat
  let extra := if t.inserted then 1 else 0
  let nanos := if t.inserted then t.nanos - 1000000000 else t.nanos
  padded 2 (second / 3600) ++ ":" ++ padded 2 (second / 60 % 60) ++ ":"
    ++ padded 2 (second % 60 + extra) ++ fraction nanos

end Timestamp

/-- As documents carry it: `1970-01-01T00:00:00Z`. -/
def Instant.toZulu (t : Instant) : String := Timestamp.date t ++ "T" ++ Timestamp.timeOfDay t ++ "Z"

/-- With the offset in digits: `1970-01-01T00:00:00+00:00`. -/
def Instant.toOffset (t : Instant) : String :=
  Timestamp.date t ++ "T" ++ Timestamp.timeOfDay t ++ "+00:00"

/-- As messages carry it: `1970-01-01 00:00:00 UTC`. -/
def Instant.toText (t : Instant) : String :=
  Timestamp.date t ++ " " ++ Timestamp.timeOfDay t ++ " UTC"

end TuningAdvisor
