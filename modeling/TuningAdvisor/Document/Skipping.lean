import TuningAdvisor.Document.Scalar
/-!
# Skipping values: the fields that `PerformanceProfile` does not have

A value that nobody looks at is passed over, however deep it is nested. **Less is asked of it than
of a value that is read**: a number may lie beyond all numbers, and halves of surrogate pairs may stand
alone. A comma promises a further item or field, so that what follows it is looked at as one.
-/

namespace TuningAdvisor.Skipping

/-! ## Scalars -/

/-- Past the digits of an exponent, from the `e` on. -/
def exponentPart (c : Cursor) : Except Misread Cursor :=
  let start := match c.skip.rest with
    | '-' :: _ => c.skip.skip
    | '+' :: _ => c.skip.skip
    | _ => c.skip
  if start.rest.head?.any Char.isDigit then .ok (start.skipWhile Char.isDigit)
  else .error (start.fault .invalidNumber)

/-- What follows the digits of a number: an exponent or nothing. -/
def afterDigits (c : Cursor) : Except Misread Cursor :=
  match c.rest with
  | 'e' :: _ => exponentPart c
  | 'E' :: _ => exponentPart c
  | _ => .ok c

/-- Past a number, from its first digit on. -/
def number (c : Cursor) : Except Misread Cursor :=
  match c.rest with
  | first :: more =>
    if !first.isDigit then .error (c.fault .invalidNumber)
    else if first = '0' ∧ (more.head?.any Char.isDigit) then .error (c.skip.fault .invalidNumber)
    else
      let next := c.skipWhile Char.isDigit
      match next.rest with
      | '.' :: digits =>
        if digits.head?.any Char.isDigit then afterDigits (next.skip.skipWhile Char.isDigit)
        else .error (next.skip.fault .invalidNumber)
      | _ => afterDigits next
  | [] => .error (c.fault .invalidNumber)

/-- Past an escape, from the letter behind the backslash on. -/
def escape (c : Cursor) : Except Misread Cursor :=
  match c.rest with
  | [] => .error (c.fault .endInString)
  | 'u' :: _ => (·.2) <$> Reader.hexQuad c.skip
  | letter :: _ =>
    if (Reader.simpleEscape? letter).isSome then .ok c.skip else .error (c.fault .invalidEscape)

/-- Past the characters of a string and its closing quote. -/
def stringBody : (fuel : Nat) → Cursor → Except Misread Cursor
  | 0, c => .error (c.fault .endInString)
  | fuel + 1, c =>
    match c.rest with
    | [] => .error (c.fault .endInString)
    | '"' :: _ => .ok c.skip
    | '\\' :: _ => do
      let next ← escape c.skip
      stringBody fuel next
    | x :: rest =>
      if x.toNat < 0x20 then .error (c.faultHere .controlCharacter)
      else stringBody fuel { rest, offset := c.offset + x.utf8Size }

/-- Past a string, from its opening quote on. -/
def string (c : Cursor) : Except Misread Cursor := stringBody (c.rest.length + 1) c.skip

def scalar (c : Cursor) : Except Misread Cursor :=
  match c.rest with
  | [] => .error (c.fault .endInValue)
  | 'n' :: _ => Reader.nullWord c
  | 't' :: _ => Reader.trueWord c
  | 'f' :: _ => Reader.falseWord c
  | '"' :: _ => string c
  | '-' :: _ => number c.skip
  | x :: _ => if x.isDigit then number c else .error (c.fault .expectedValue)

/-! ## Containers -/

inductive Container where
  | list
  | object
deriving DecidableEq, Repr

namespace Container

def closing : Container → Char
  | .list => ']'
  | .object => '}'

/-- The fault of a text that ends in it. -/
def unclosed : Container → TextFault
  | .list => .endInList
  | .object => .endInObject

/-- The fault of a part that neither a comma nor the end follows. -/
def unseparated : Container → TextFault
  | .list => .expectedListCommaOrEnd
  | .object => .expectedObjectCommaOrEnd

end Container

/-- Past the name of a field and its colon; an item of a list has neither. -/
def name : Container → Cursor → Except Misread Cursor
  | .list, c => .ok c
  | .object, c => do
    let c := c.skipBlanks
    match c.rest with
    | '"' :: _ =>
      let colon := (← string c).skipBlanks
      match colon.rest with
      | ':' :: _ => return colon.skip
      | [] => throw (colon.fault .endInObject)
      | _ => throw (colon.fault .expectedColon)
    | [] => throw (c.fault .endInObject)
    | _ => throw (c.fault .keyNotText)

/-- What comes next. -/
inductive Expected where
  | value
  /-- The first part of a container, or its end. -/
  | partOrEnd
  /-- A comma, or the end of a container. -/
  | commaOrEnd
deriving DecidableEq, Repr

/-- Past the rest of a value, in which the containers of `opened` are open, the innermost first. -/
def rest : (fuel : Nat) → (opened : List Container) → Expected → Cursor → Except Misread Cursor
  | 0, _, _, c => .error (c.fault .endInValue)
  | fuel + 1, opened, .value, c => do
    let c := c.skipBlanks
    match c.rest with
    | '[' :: _ => rest fuel (.list :: opened) .partOrEnd c.skip
    | '{' :: _ => rest fuel (.object :: opened) .partOrEnd c.skip
    | _ => rest fuel opened .commaOrEnd (← scalar c)
  | _, [], _, c => .ok c
  | fuel + 1, k :: opened, .partOrEnd, c => do
    let c := c.skipBlanks
    match c.rest with
    | [] => throw (c.fault k.unclosed)
    | x :: _ =>
      if x = k.closing then rest fuel opened .commaOrEnd c.skip
      else rest fuel (k :: opened) .value (← name k c)
  | fuel + 1, k :: opened, .commaOrEnd, c => do
    let c := c.skipBlanks
    match c.rest with
    | [] => throw (c.fault k.unclosed)
    | x :: _ =>
      if x = k.closing then rest fuel opened .commaOrEnd c.skip
      else if x = ',' then rest fuel (k :: opened) .value (← name k c.skip)
      else throw (c.fault k.unseparated)

/-- Past a value. Every step but the last moves on by a character, and opens at most one container. -/
def value (c : Cursor) : Except Misread Cursor := rest (2 * c.rest.length + 2) [] .value c

end TuningAdvisor.Skipping
