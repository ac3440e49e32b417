import TuningAdvisor.Text.Extending
import TuningAdvisor.Text.Unprintable
/-!
# Quoted texts: the inputs that `QuantityError` and `number_or_string` report

A text inside double quotes for a message: quotes, backslashes and the common controls get a
backslash, and every character that would not show on its own is written by its code point.
-/

namespace TuningAdvisor

namespace Quoted

def hexDigits (n : Nat) : List Char := Nat.toDigits 16 n

/-- A character by its code point, `\u{...}` around the digits. -/
def byCodePoint (c : Char) : List Char :=
  ['\\', 'u', '{'] ++ hexDigits c.toNat ++ ['}']

def escape (c : Char) : List Char :=
  if c = '"' then ['\\', '"']
  else if c = '\\' then ['\\', '\\']
  else if c = '\n' then ['\\', 'n']
  else if c = '\r' then ['\\', 'r']
  else if c = '\t' then ['\\', 't']
  else if c = '\x00' then ['\\', '0']
  else if isExtending c || isUnprintable c then byCodePoint c
  else [c]

end Quoted

/-- A text in double quotes. -/
def quoted (s : String) : String :=
  String.ofList ('"' :: s.toList.flatMap Quoted.escape ++ ['"'])

end TuningAdvisor
