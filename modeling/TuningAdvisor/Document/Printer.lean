import TuningAdvisor.Document.Basic
/-!
# Printing documents: `print_json`

A document as JSON text, on one line (`Doc.compact`) or indented by two spaces (`Doc.pretty`).
-/

namespace TuningAdvisor.Doc

/-- A character inside a JSON string. -/
def escapeChar (c : Char) : List Char :=
  if c = '"' then ['\\', '"']
  else if c = '\\' then ['\\', '\\']
  else if c = '\n' then ['\\', 'n']
  else if c = '\r' then ['\\', 'r']
  else if c = '\t' then ['\\', 't']
  else if c = '\x08' then ['\\', 'b']
  else if c = '\x0c' then ['\\', 'f']
  else if c.toNat < 0x20 then
    ['\\', 'u', '0', '0', Nat.digitChar (c.toNat / 16), Nat.digitChar (c.toNat % 16)]
  else [c]

def printText (s : String) : String :=
  String.ofList ('"' :: s.toList.flatMap escapeChar ++ ['"'])

/-- A null, a boolean, a number or a string; nothing else. -/
def printScalar : Doc → String
  | .null => "null"
  | .bool true => "true"
  | .bool false => "false"
  | .int n => toString n
  | .float x => (json? x).getD "null"
  | .str s => printText s
  | .arr _ => "[]"
  | .obj _ => "\x7b\x7d"

mutual

/-- The document on one line, without blanks. -/
def compact : Doc → String
  | .arr items => "[" ++ compactItems items ++ "]"
  | .obj fields => "\x7b" ++ compactFields fields ++ "\x7d"
  | d => printScalar d

def compactItems : List Doc → String
  | [] => ""
  | [d] => compact d
  | d :: rest => compact d ++ "," ++ compactItems rest

def compactFields : List (String × Doc) → String
  | [] => ""
  | [(name, d)] => printText name ++ ":" ++ compact d
  | (name, d) :: rest => printText name ++ ":" ++ compact d ++ "," ++ compactFields rest

end

/-- A new line that begins at the given depth. -/
def newLine (depth : Nat) : String := "\n" ++ String.ofList (List.replicate (2 * depth) ' ')

mutual

/-- The document with every item and field on a line of its own, inside the given depth. -/
def prettyAt (depth : Nat) : Doc → String
  | .arr [] => "[]"
  | .arr items => "[" ++ prettyItems (depth + 1) items ++ newLine depth ++ "]"
  | .obj [] => "\x7b\x7d"
  | .obj fields => "\x7b" ++ prettyFields (depth + 1) fields ++ newLine depth ++ "\x7d"
  | d => printScalar d

def prettyItems (depth : Nat) : List Doc → String
  | [] => ""
  | [d] => newLine depth ++ prettyAt depth d
  | d :: rest => newLine depth ++ prettyAt depth d ++ "," ++ prettyItems depth rest

def prettyFields (depth : Nat) : List (String × Doc) → String
  | [] => ""
  | [(name, d)] => newLine depth ++ printText name ++ ": " ++ prettyAt depth d
  | (name, d) :: rest =>
    newLine depth ++ printText name ++ ": " ++ prettyAt depth d ++ "," ++ prettyFields depth rest

end

/-- The document indented by two spaces. -/
def pretty (d : Doc) : String := prettyAt 0 d

end TuningAdvisor.Doc
