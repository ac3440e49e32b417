import TuningAdvisor.Document.Cursor
import TuningAdvisor.Document.Numeral
import TuningAdvisor.Number.Range
/-!
# Reading scalars: the words, numbers and strings of `parse_documents`

Words, numbers and strings at a cursor. Each reader answers with the value and the cursor behind it,
or with the first fault.
-/

namespace TuningAdvisor.Reader

/-! ## Words -/

/-- The remaining letters of a word. -/
def word (letters : List Char) (c : Cursor) : Except Misread Cursor :=
  match letters with
  | [] => .ok c
  | letter :: more =>
    match c.rest with
    | [] => .error (c.fault .endInValue)
    | x :: _ => if x = letter then word more c.skip else .error (c.fault .expectedWord)

def nullWord : Cursor → Except Misread Cursor := word ['n', 'u', 'l', 'l']

def trueWord : Cursor → Except Misread Cursor := word ['t', 'r', 'u', 'e']

def falseWord : Cursor → Except Misread Cursor := word ['f', 'a', 'l', 's', 'e']

/-! ## Numbers -/

/-- The number with the given parts. -/
def numberOf (negative : Bool) (significand : Nat) (exponent : Int) (next : Cursor) :
    Except Misread (Doc × Cursor) :=
  match Numeral.toFloat? negative significand exponent with
  | some x => .ok (.float x, next)
  | none => .error (next.faultHere .numberOutOfRange)

/-- The largest exponent that is counted; a larger one is beyond all numbers at once. -/
def maxExponent : Nat := maxInt32.toNat

/-- The digits of an exponent: its size, or the offset at which it became too large. -/
def exponentDigits (size : Nat) : List Char → (offset : Nat) → Except Nat Nat
  | [], _ => .ok size
  | c :: rest, offset =>
    let next := 10 * size + (c.toNat - '0'.toNat)
    if maxExponent < next then .error (offset + 1) else exponentDigits next rest (offset + 1)

/-- The exponent of a number, from the `e` on. -/
def exponentPart (negative : Bool) (significand : Nat) (exponent : Int) (c : Cursor) :
    Except Misread (Doc × Cursor) :=
  let afterE := c.skip
  let (minus, start) := match afterE.rest with
    | '-' :: _ => (true, afterE.skip)
    | '+' :: _ => (false, afterE.skip)
    | _ => (false, afterE)
  let digits := start.rest.takeWhile Char.isDigit
  let next := start.skipWhile Char.isDigit
  if start.rest.isEmpty then .error (start.fault .endInValue)
  else if digits.isEmpty then .error (start.fault .invalidNumber)
  else
    match exponentDigits 0 digits start.offset with
    | .error offset =>
      if significand ≠ 0 ∧ !minus then .error { fault := .numberOutOfRange, offset }
      else .ok (.float (if negative then -0.0 else 0.0), next)
    | .ok size =>
      numberOf negative significand (if minus then exponent - size else exponent + size) next

/-- What follows the digits of a significand: an exponent or nothing. -/
def afterDigits (negative : Bool) (significand : Nat) (exponent : Int) (c : Cursor) :
    Except Misread (Doc × Cursor) :=
  match c.rest with
  | 'e' :: _ => exponentPart negative significand exponent c
  | 'E' :: _ => exponentPart negative significand exponent c
  | _ => numberOf negative significand exponent c

/-- The fraction of a number, from the point on. Digits that no longer fit are dropped. -/
def fractionPart (negative : Bool) (significand : Nat) (exponent : Int) (c : Cursor) :
    Except Misread (Doc × Cursor) :=
  let start := c.skip
  let ((significand', taken), rest) := Numeral.appendDigits significand 0 start.rest
  let next : Cursor := { rest, offset := start.offset + taken }
  let next := next.skipWhile Char.isDigit
  if next.offset = start.offset then
    .error (start.fault (if start.rest.isEmpty then .endInValue else .invalidNumber))
  else afterDigits negative significand' (exponent - taken) next

/-- A number from its first digit on. -/
def number (negative : Bool) (c : Cursor) : Except Misread (Doc × Cursor) :=
  match c.rest with
  | [] => .error (c.fault .endInValue)
  | first :: more =>
    if !first.isDigit then .error (c.fault .invalidNumber)
    else if first = '0' ∧ (more.head?.any Char.isDigit) then .error (c.skip.fault .invalidNumber)
    else
      let ((significand, taken), rest) := Numeral.appendDigits 0 0 c.rest
      let kept : Cursor := { rest, offset := c.offset + taken }
      let next := kept.skipWhile Char.isDigit
      let dropped := next.offset - kept.offset
      match next.rest with
      | '.' :: _ => fractionPart negative significand dropped next
      | 'e' :: _ => exponentPart negative significand dropped next
      | 'E' :: _ => exponentPart negative significand dropped next
      | _ =>
        if dropped = 0 then .ok (Numeral.whole negative significand, next)
        else numberOf negative significand dropped next

/-! ## Strings -/

def hexDigit? (c : Char) : Option Nat :=
  if c.isDigit then some (c.toNat - '0'.toNat)
  else if 'a' ≤ c ∧ c ≤ 'f' then some (c.toNat - 'a'.toNat + 10)
  else if 'A' ≤ c ∧ c ≤ 'F' then some (c.toNat - 'A'.toNat + 10)
  else none

/-- Four hexadecimal digits, counted in bytes when they are not. -/
def hexQuad (c : Cursor) : Except Misread (Nat × Cursor) :=
  let bytes := (c.rest.take 4).foldl (fun n x => n + x.utf8Size) 0
  if bytes < 4 then .error { fault := .endInString, offset := c.offset + bytes }
  else
    let value := (c.rest.take 4).foldl (fun n x => do return 16 * (← n) + (← hexDigit? x)) (some 0)
    match value, c.rest.drop 3 with
    | some n, _ :: rest => .ok (n, { rest, offset := c.offset + 4 })
    | _, _ => .error { fault := .invalidEscape, offset := c.offset + 4 }

/-- One character of a string that is written as a code unit of four digits, and a second such
unit where the first is the leading half of a pair. -/
def unicodeEscape (c : Cursor) : Except Misread (Char × Cursor) := do
  let (lead, next) ← hexQuad c
  if 0xDC00 ≤ lead ∧ lead ≤ 0xDFFF then throw (next.faultHere .loneSurrogate)
  else if lead < 0xD800 ∨ 0xDBFF < lead then return (Char.ofNat lead, next)
  else
    match next.rest with
    | [] => throw (next.fault .endInString)
    | '\\' :: [] => throw (next.skip.fault .endInString)
    | '\\' :: 'u' :: _ =>
      let (trail, next) ← hexQuad next.skip.skip
      if trail < 0xDC00 ∨ 0xDFFF < trail then throw (next.faultHere .loneSurrogate)
      else return (Char.ofNat (0x10000 + 0x400 * (lead - 0xD800) + (trail - 0xDC00)), next)
    | '\\' :: _ => throw (next.skip.fault .unpairedSurrogate)
    | _ => throw (next.fault .unpairedSurrogate)

def simpleEscape? : Char → Option Char
  | '"' => some '"'
  | '\\' => some '\\'
  | '/' => some '/'
  | 'b' => some '\x08'
  | 'f' => some '\x0c'
  | 'n' => some '\n'
  | 'r' => some '\r'
  | 't' => some '\t'
  | _ => none

/-- The character that an escape stands for, from the letter behind the backslash on. -/
def escape (c : Cursor) : Except Misread (Char × Cursor) :=
  match c.rest with
  | [] => .error (c.fault .endInString)
  | 'u' :: _ => unicodeEscape c.skip
  | letter :: _ =>
    match simpleEscape? letter with
    | some x => .ok (x, c.skip)
    | none => .error (c.fault .invalidEscape)

/-- The characters of a string up to its closing quote, put in front of `read` in reverse. -/
def stringBody : (fuel : Nat) → Cursor → (read : List Char) → Except Misread (List Char × Cursor)
  | 0, c, _ => .error (c.fault .endInString)
  | fuel + 1, c, read =>
    match c.rest with
    | [] => .error (c.fault .endInString)
    | '"' :: _ => .ok (read, c.skip)
    | '\\' :: _ => do
      let (x, next) ← escape c.skip
      stringBody fuel next (x :: read)
    | x :: rest =>
      if x.toNat < 0x20 then .error (c.fault .controlCharacter)
      else stringBody fuel { rest, offset := c.offset + x.utf8Size } (x :: read)

/-- A string from its opening quote on. -/
def string (c : Cursor) : Except Misread (String × Cursor) := do
  let (read, next) ← stringBody (c.rest.length + 1) c.skip []
  return (String.ofList read.reverse, next)

def scalar (c : Cursor) : Except Misread (Doc × Cursor) :=
  match c.rest with
  | [] => .error (c.fault .endInValue)
  | 'n' :: _ => (Doc.null, ·) <$> nullWord c
  | 't' :: _ => (Doc.bool true, ·) <$> trueWord c
  | 'f' :: _ => (Doc.bool false, ·) <$> falseWord c
  | '"' :: _ => (fun (s, next) => (Doc.str s, next)) <$> string c
  | '-' :: _ => number true c.skip
  | x :: _ => if x.isDigit then number false c else .error (c.fault .expectedValue)

end TuningAdvisor.Reader
