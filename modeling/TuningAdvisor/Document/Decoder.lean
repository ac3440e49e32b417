import TuningAdvisor.Document.Basic
import TuningAdvisor.Document.Shape
import TuningAdvisor.Number.Range
import TuningAdvisor.SortedMap
/-!
# Decoding documents: how `parse_documents` makes records

A decoder takes a document to a value or to the first fault, in the order of the document. **A
fault is a cause and the path to the part that has it**, so that the same decoders serve documents
and texts: where a fault lies in a text is found from its path alone.
-/

namespace TuningAdvisor

inductive Cause where
  | wrongKind (found : Doc) (expected : String)
  | outOfRange (n : Int) (expected : String)
  /-- A text that does not have the form that is read from it. -/
  | malformed (message : String)
  /-- A record written as an array that ends before the required field of the given number. -/
  | tooShort (length : Nat) (record : String) (fields : Nat)
  /-- A record of `fields` fields written as an array with further items. -/
  | tooLong (length : Nat) (fields : Nat)
  | missingField (name : String)
  | duplicateField (name : String)
  /-- A name that is none of the names of an enumeration. -/
  | unknownVariant (found : String) (known : List String)
  /-- A value that is no name of an enumeration at all. -/
  | notVariant (found : Doc)
  /-- A value that fits none of several forms. -/
  | noAlternative (union : String)
  /-- A value of the right form that breaks a rule of its own. -/
  | invalid (message : String)
deriving Inhabited

/-- A cause, and the path to the part that has it: numbers of items and fields. -/
structure Fault where
  path : List Nat
  cause : Cause
deriving Inhabited

namespace Fault

/-- A fault of the document itself. -/
def here (cause : Cause) : Fault := { path := [], cause }

/-- A fault of a part, seen from the whole. -/
def within (i : Nat) (f : Fault) : Fault := { f with path := i :: f.path }

end Fault

namespace Cause

def listNames : List String → String
  | [] => "there are no variants"
  | [a] => "expected `" ++ a ++ "`"
  | [a, b] => "expected `" ++ a ++ "` or `" ++ b ++ "`"
  | names => "expected one of " ++ ", ".intercalate (names.map fun n => "`" ++ n ++ "`")

def message : Cause → String
  | .wrongKind found expected => "invalid type: " ++ found.describe ++ ", expected " ++ expected
  | .outOfRange n expected => "invalid value: integer `" ++ toString n ++ "`, expected " ++ expected
  | .malformed text => text
  | .tooShort length record fields =>
    "invalid length " ++ toString length ++ ", expected struct " ++ record ++ " with "
      ++ toString fields ++ (if fields = 1 then " element" else " elements")
  | .tooLong length _ =>
    "invalid length " ++ toString length ++ ", expected fewer elements in array"
  | .missingField name => "missing field `" ++ name ++ "`"
  | .duplicateField name => "duplicate field `" ++ name ++ "`"
  | .unknownVariant found known => "unknown variant `" ++ found ++ "`, " ++ listNames known
  | .notVariant (.obj _) => "invalid value: map, expected map with a single key"
  | .notVariant found => "invalid type: " ++ found.describe ++ ", expected string or map"
  | .noAlternative union => "data did not match any variant of untagged enum " ++ union
  | .invalid text => text

end Cause

/-- Takes a document to a value or to its first fault. -/
structure Decoder (α : Type) where
  /-- How far a text has to be read for it. -/
  shape : Shape
  decode : Doc → Except Fault α

namespace Decoder

instance {α : Type} : CoeFun (Decoder α) fun _ => Doc → Except Fault α := ⟨decode⟩

instance : Functor Decoder where
  map f decoder := { shape := decoder.shape, decode := fun d => f <$> decoder d }

end Decoder

namespace Decode

/-! ## Scalars -/

def text : Decoder String where
  shape := .any
  decode
    | .str s => .ok s
    | d => .error (.here (.wrongKind d "a string"))

def bool : Decoder Bool where
  shape := .any
  decode
    | .bool b => .ok b
    | d => .error (.here (.wrongKind d "a boolean"))

/-- A finite number. -/
def float : Decoder Float where
  shape := .any
  decode
    | .int n => .ok (Float.ofInt n)
    | .float x => if x.isFinite then .ok x else .error (.here (.wrongKind (.float x) "f64"))
    | d => .error (.here (.wrongKind d "f64"))

/-- A whole number of a type with the given name and range. -/
def whole (name : String) (low high : Int) : Decoder Int where
  shape := .any
  decode
    | .int n => if low ≤ n ∧ n ≤ high then .ok n else .error (.here (.outOfRange n name))
    | d => .error (.here (.wrongKind d name))

def int64 : Decoder Int := whole "i64" minInt64 maxInt64

def nat32 : Decoder Nat := Int.toNat <$> whole "u32" 0 maxNat32

def nat16 : Decoder Nat := Int.toNat <$> whole "u16" 0 maxNat16

/-- A count, which has 64 bits. -/
def count : Decoder Nat := Int.toNat <$> whole "usize" 0 maxNat64

/-- Null for nothing. -/
def optional {α : Type} (decoder : Decoder α) : Decoder (Option α) where
  shape := .optional decoder.shape
  decode
    | .null => .ok none
    | d => some <$> decoder d

/-- A text in a form of its own, `expected` naming the form. -/
def written {α : Type} (expected : String) (read : String → Except String α) : Decoder α where
  shape := .any
  decode
    | .str s =>
      match read s with
      | .ok v => .ok v
      | .error message => .error (.here (.malformed message))
    | d => .error (.here (.wrongKind d expected))

/-- A value that keeps a rule of its own. -/
def refine {α β : Type} (decoder : Decoder α) (rule : α → Except String β) : Decoder β where
  shape := decoder.shape
  decode d :=
    match decoder d with
    | .error f => .error f
    | .ok raw =>
      match rule raw with
      | .ok v => .ok v
      | .error message => .error (.here (.invalid message))

/-- One of several names, or an object whose only field has such a name and holds null. -/
def variant {α : Type} (names : List (String × α)) : Decoder α where
  shape := .variant
  decode
    | .str s =>
      match names.lookup s with
      | some v => .ok v
      | none => .error (.here (.unknownVariant s (names.map (·.1))))
    | .obj [(s, payload)] =>
      match names.lookup s, payload with
      | none, _ => .error (.here (.unknownVariant s (names.map (·.1))))
      | some v, .null => .ok v
      | some _, d => .error (.within 0 (.here (.wrongKind d "unit")))
    | d => .error (.here (.notVariant d))

/-- The first of several forms that fits. All of the value is read before a form is tried. -/
def oneOf {α : Type} (union : String) (forms : List (Decoder α)) : Decoder α where
  shape := .any
  decode d :=
    match forms.findSome? fun form => (form d).toOption with
    | some v => .ok v
    | none => .error (.here (.noAlternative union))

/-! ## Containers -/

/-- Decodes items from the given number on. -/
def itemsFrom {α : Type} (decoder : Decoder α) : (i : Nat) → List Doc → Except Fault (List α)
  | _, [] => .ok []
  | i, d :: rest =>
    match decoder d with
    | .error f => .error (f.within i)
    | .ok v =>
      match itemsFrom decoder (i + 1) rest with
      | .error f => .error f
      | .ok vs => .ok (v :: vs)

def list {α : Type} (decoder : Decoder α) : Decoder (List α) where
  shape := .list decoder.shape
  decode
    | .arr items => itemsFrom decoder 0 items
    | d => .error (.here (.wrongKind d "a sequence"))

/-- Decodes the values of fields from the given number on. -/
def fieldsFrom {α : Type} (decoder : Decoder α) :
    (i : Nat) → List (String × Doc) → Except Fault (List (String × α))
  | _, [] => .ok []
  | i, (name, d) :: rest =>
    match decoder d with
    | .error f => .error (f.within i)
    | .ok v =>
      match fieldsFrom decoder (i + 1) rest with
      | .error f => .error f
      | .ok vs => .ok ((name, v) :: vs)

/-- An object with any names; of fields with one name the last counts. -/
def map {α : Type} (decoder : Decoder α) : Decoder (SortedMap String α) where
  shape := .map decoder.shape
  decode
    | .obj fields =>
      match fieldsFrom decoder 0 fields with
      | .error f => .error f
      | .ok entries => .ok (.ofList entries)
    | d => .error (.here (.wrongKind d "a map"))

end Decode

/-! ## Records -/

/-- What becomes of a field that is not there. -/
inductive Absence where
  | refused
  /-- The field of an object may be left out; in an array it has to be written. -/
  | allowed
  /-- The field may be left out in both forms. -/
  | defaulted
deriving DecidableEq, Repr

/-- A field of a record as far as faults go. -/
structure FieldRule where
  name : String
  absence : Absence
  shape : Shape
  check : Doc → Option Fault

/-- A field found in a document: its name, its number and its value. -/
abbrev FoundField := String × Nat × Doc

/-- Reads the fields of a record in the order of their declaration. -/
structure Record (α : Type) where
  rules : List FieldRule
  build : List FoundField → Except Fault α

namespace Record

/-- The values of two records as one. -/
protected def seq {α β : Type} (f : Record (α → β)) (x : Unit → Record α) : Record β where
  rules := f.rules ++ (x ()).rules
  build fields := do
    let g ← f.build fields
    let v ← (x ()).build fields
    return g v

instance : Applicative Record where
  pure v := { rules := [], build := fun _ => .ok v }
  map f r := { rules := r.rules, build := fun fields => f <$> r.build fields }
  seq := Record.seq

/-- A field with the value that it has when it is absent, if it may be. -/
def field {α : Type} (name : String) (absence : Absence) (decoder : Decoder α)
    (absent : Option α) : Record α where
  rules :=
    [{ name, absence, shape := decoder.shape,
       check := fun d => match decoder d with | .ok _ => none | .error f => some f }]
  build fields :=
    match fields.lookup name, absent with
    | some (i, d), _ => (decoder d).mapError (Fault.within i)
    | none, some v => .ok v
    | none, none => .error (.here (.missingField name))

/-- A field that has to be there. -/
def required {α : Type} (name : String) (decoder : Decoder α) : Record α :=
  field name .refused decoder none

/-- A field whose absence, or null, counts as nothing. -/
def allowed {α : Type} (name : String) (decoder : Decoder α) : Record (Option α) :=
  field name .allowed (Decode.optional decoder) (some none)

def defaulted {α : Type} (name : String) (decoder : Decoder α) (default : α) : Record α :=
  field name .defaulted decoder (some default)

/-- A field whose absence, or null, counts as nothing, in arrays too. -/
def optional {α : Type} (name : String) (decoder : Decoder α) : Record (Option α) :=
  defaulted name (Decode.optional decoder) none

def numbered (fields : List (String × Doc)) : List FoundField :=
  fields.zipIdx.map fun ((name, d), i) => (name, i, d)

/-- The first fault in the order of the document: a field that its rule refuses, or one that was
there before. -/
def firstFault? (rules : List FieldRule) (seen : List String) : List FoundField → Option Fault
  | [] => none
  | (name, i, d) :: rest =>
    match rules.find? (·.name == name) with
    | none => firstFault? rules seen rest
    | some rule =>
      if seen.contains name then some { path := [i], cause := .duplicateField name }
      else
        match rule.check d with
        | some f => some (f.within i)
        | none => firstFault? rules (name :: seen) rest

/-- Whether a field of the record is there twice. -/
def hasDuplicate (rules : List FieldRule) (fields : List FoundField) : Bool :=
  rules.any fun rule => 1 < (fields.filter (·.1 == rule.name)).length

/-- The record from the fields of an object. -/
def ofFields {α : Type} (r : Record α) (fields : List FoundField) : Except Fault α :=
  match r.build fields with
  | .ok v =>
    if hasDuplicate r.rules fields then
      .error ((firstFault? r.rules [] fields).getD default)
    else .ok v
  | .error f => .error ((firstFault? r.rules [] fields).getD f)

/-- The first fault of items that stand for fields in order. -/
def firstItemFault? (record : String) (total : Nat) :
    (i : Nat) → List FieldRule → List Doc → Option Fault
  | _, [], _ => none
  | i, rule :: rules, [] =>
    if rule.absence = .defaulted then firstItemFault? record total (i + 1) rules []
    else some (.here (.tooShort i record total))
  | i, rule :: rules, d :: rest =>
    match rule.check d with
    | some f => some (f.within i)
    | none => firstItemFault? record total (i + 1) rules rest

/-- The record from items that stand for its fields in order. -/
def ofItems {α : Type} (name : String) (r : Record α) (items : List Doc) : Except Fault α :=
  match firstItemFault? name r.rules.length 0 r.rules items with
  | some f => .error f
  | none =>
    if r.rules.length < items.length then .error (.here (.tooLong items.length r.rules.length))
    else r.build (numbered ((r.rules.map (·.name)).zip items))

/-- What is expected of the fields. -/
def shape {α : Type} (r : Record α) : Shape := .record (r.rules.map fun rule => (rule.name, rule.shape))

/-- A record from an object, or from an array of its fields. -/
def decoder {α : Type} (name : String) (r : Record α) : Decoder α where
  shape := r.shape
  decode
    | .obj fields => r.ofFields (numbered fields)
    | .arr items => r.ofItems name items
    | d => .error (.here (.wrongKind d ("struct " ++ name)))

/-- A record from an object only. -/
def objectDecoder {α : Type} (name : String) (r : Record α) : Decoder α where
  shape := r.shape
  decode
    | .obj fields => r.ofFields (numbered fields)
    | d => .error (.here (.wrongKind d ("struct " ++ name)))

end Record

end TuningAdvisor
