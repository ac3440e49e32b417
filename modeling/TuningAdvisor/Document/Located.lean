import TuningAdvisor.Document.Decoder
import TuningAdvisor.Document.Reader
/-!
# Decoding texts: `load_profiles_from_dir` and `UserSettings::load_from`

Decoding a text reads it as far as the decoder's shape asks for, and decodes what was read. **The
fault that comes first in the text is reported**: one of the document if it was noticed before the
text went wrong, else the fault of the text. A fault of the document is noticed behind a scalar, in
front of a container of the wrong kind, behind a container that lacks something, or behind a value
that breaks a rule of its own and the comma or bracket that follows it.
-/

namespace TuningAdvisor

/-- Where a fault of a document is noticed in its text. -/
inductive Place where
  | offset (n : Nat)
  /-- Nowhere: the value is the whole text. -/
  | nowhere
  /-- Only behind the point at which the text went wrong. -/
  | beyond

inductive Holder where
  | text
  | sequence
  | mapping

namespace Place

/-- Behind a value that stops at `stop`: a closing bracket counts as read, and in an array a comma
with the blanks behind it as well. -/
def behind (text : String) (holder : Holder) (stop : Nat) : Place :=
  let c := (Cursor.goto stop text.toList 0).skipBlanks
  match holder, c.rest with
  | .text, _ => .nowhere
  | .mapping, '}' :: _ => .offset (c.offset + 1)
  | .sequence, ']' :: _ => .offset (c.offset + 1)
  | .sequence, ',' :: _ => .offset c.skip.skipBlanks.offset
  | _, _ => .offset c.offset

/-- A fault of a container that starts and stops at the given offsets. -/
def ofContainer (text : String) (holder : Holder) (cause : Cause) (start : Nat) :
    (stop : Option Nat) → Place
  | none =>
    match cause with
    | .wrongKind .. => .offset start
    | _ => .beyond
  | some stop =>
    match cause with
    | .missingField _ => .offset stop
    | .tooShort .. => .offset stop
    | .noAlternative _ => behind text holder stop
    | .invalid _ => behind text holder stop
    | _ => .offset start

/-- A fault of the value whose layout is given. -/
def ofValue (text : String) (holder : Holder) (cause : Cause) : Layout → Place
  | .unread => .beyond
  | .scalar _ stop _ =>
    match cause with
    | .noAlternative _ => behind text holder stop
    | .invalid _ => behind text holder stop
    | _ => .offset stop
  | .sequence start _ stop => ofContainer text holder cause start stop
  | .mapping start entries stop =>
    match cause, entries with
    | .unknownVariant .., (name, _) :: _ => .offset name.stop
    | _, _ => ofContainer text holder cause start stop

def ofPath (text : String) (cause : Cause) : Holder → Layout → List Nat → Place
  | holder, layout, [] => ofValue text holder cause layout
  | _, .sequence _ items _, i :: path =>
    match items[i]? with
    | some item => ofPath text cause .sequence item path
    | none => .beyond
  | _, .mapping _ entries _, i :: path =>
    match entries[i]?, cause, path with
    | some (name, _), .duplicateField _, [] => .offset name.colon
    | some (_, value), _, _ => ofPath text cause .mapping value path
    | none, _, _ => .beyond
  | _, _, _ => .beyond

end Place

/-- The fault as messages about a text name it; `ending` is the fault of the text itself. -/
def Fault.messageIn (text : String) (layout : Layout) (ending : Option Misread) (f : Fault) :
    String :=
  match Place.ofPath text f.cause .text layout f.path with
  | .offset n => f.cause.message ++ (Position.ofOffset text n).suffix
  | .nowhere => f.cause.message
  | .beyond => (ending.map (·.message text)).getD f.cause.message

/-- Decodes a text, or says why it cannot be done. -/
def Decoder.ofText {α : Type} (decoder : Decoder α) (text : String) : Except String α :=
  let (layout, ending) := Layout.ofText decoder.shape text
  match decoder layout.toDoc with
  | .error f => .error (f.messageIn text layout ending)
  | .ok v =>
    match ending with
    | some why => .error (why.message text)
    | none => .ok v

/-- Decodes a document, or says why it cannot be done. -/
def Decoder.ofDoc {α : Type} (decoder : Decoder α) (d : Doc) : Except String α :=
  (decoder d).mapError (·.cause.message)

end TuningAdvisor
