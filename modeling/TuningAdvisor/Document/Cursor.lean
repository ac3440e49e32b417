/-!
# Places in texts: where `parse_documents` finds a fault

A reader walks a text with a cursor, and says what is wrong with the text by a fault and the byte
offset at which it was noticed. Messages name an offset by its line and column.
-/

namespace TuningAdvisor

inductive TextFault where
  | endInList
  | endInObject
  | endInString
  | endInValue
  | expectedColon
  | expectedListCommaOrEnd
  | expectedObjectCommaOrEnd
  | expectedWord
  | expectedValue
  | invalidEscape
  | invalidNumber
  | numberOutOfRange
  | controlCharacter
  | keyNotText
  | loneSurrogate
  | unpairedSurrogate
  | trailingComma
  | trailingCharacters
  | tooDeep
deriving DecidableEq, Repr

def TextFault.message : TextFault → String
  | .endInList => "EOF while parsing a list"
  | .endInObject => "EOF while parsing an object"
  | .endInString => "EOF while parsing a string"
  | .endInValue => "EOF while parsing a value"
  | .expectedColon => "expected `:`"
  | .expectedListCommaOrEnd => "expected `,` or `]`"
  | .expectedObjectCommaOrEnd => "expected `,` or `\x7d`"
  | .expectedWord => "expected ident"
  | .expectedValue => "expected value"
  | .invalidEscape => "invalid escape"
  | .invalidNumber => "invalid number"
  | .numberOutOfRange => "number out of range"
  | .controlCharacter => "control character (\\u0000-\\u001F) found while parsing a string"
  | .keyNotText => "key must be a string"
  | .loneSurrogate => "lone leading surrogate in hex escape"
  | .unpairedSurrogate => "unexpected end of hex escape"
  | .trailingComma => "trailing comma"
  | .trailingCharacters => "trailing characters"
  | .tooDeep => "recursion limit exceeded"

structure Misread where
  fault : TextFault
  offset : Nat
deriving DecidableEq, Repr

/-- The characters still to be read and the byte offset of the first of them. -/
structure Cursor where
  rest : List Char
  offset : Nat

namespace Cursor

def ofText (text : String) : Cursor := { rest := text.toList, offset := 0 }

/-- A fault that is noticed in front of the next character. -/
def faultHere (c : Cursor) (fault : TextFault) : Misread := { fault, offset := c.offset }

/-- A fault of the next character, whose first byte counts as read. -/
def fault (c : Cursor) (fault : TextFault) : Misread :=
  { fault, offset := if c.rest.isEmpty then c.offset else c.offset + 1 }

/-- Past characters of one byte each that satisfy a test. -/
def skipWhile (c : Cursor) (test : Char → Bool) : Cursor :=
  let skipped := c.rest.takeWhile test
  { rest := c.rest.drop skipped.length, offset := c.offset + skipped.length }

def skipBlanks (c : Cursor) : Cursor :=
  c.skipWhile fun x => x == ' ' || x == '\n' || x == '\t' || x == '\r'

/-- Past one character that takes one byte. -/
def skip (c : Cursor) : Cursor := { rest := c.rest.drop 1, offset := c.offset + 1 }

/-- Past the characters in front of a byte offset. -/
def goto (offset : Nat) : List Char → (here : Nat) → Cursor
  | [], here => { rest := [], offset := here }
  | c :: rest, here =>
    if offset ≤ here then { rest := c :: rest, offset := here }
    else goto offset rest (here + c.utf8Size)

end Cursor

/-- A line and a column, the first line being 1 and the column a count of bytes. -/
structure Position where
  line : Nat
  column : Nat
deriving DecidableEq, Repr

namespace Position

/-- Moves over the characters that lie before the offset. -/
def advance (position : Position) (offset : Nat) : List Char → (here : Nat) → Position
  | [], _ => position
  | c :: rest, here =>
    if offset ≤ here then position
    else if c = '\n' then
      advance { line := position.line + 1, column := 0 } offset rest (here + 1)
    else
      let size := Nat.min c.utf8Size (offset - here)
      advance { position with column := position.column + size } offset rest (here + c.utf8Size)

/-- The position of a byte offset in a text. -/
def ofOffset (text : String) (offset : Nat) : Position :=
  advance { line := 1, column := 0 } offset text.toList 0

/-- How messages name a position. -/
def suffix (p : Position) : String :=
  " at line " ++ toString p.line ++ " column " ++ toString p.column

end Position

def Misread.message (text : String) (why : Misread) : String :=
  why.fault.message ++ (Position.ofOffset text why.offset).suffix

end TuningAdvisor
