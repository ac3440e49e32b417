import TuningAdvisor.Number.Notation
import TuningAdvisor.Text.Quoted
/-!
# Documents: what `parse_documents` reads and `print_json` writes

The value that a JSON text stands for. Whole numbers and fractions are told apart, as they are by
the documents' readers; an object keeps its fields in the order in which they were written.
-/

namespace TuningAdvisor

inductive Doc where
  | null
  | bool (b : Bool)
  | int (n : Int)
  | float (x : Float)
  | str (s : String)
  | arr (items : List Doc)
  | obj (fields : List (String × Doc))
deriving Inhabited

namespace Doc

/-- A number as a document carries it; one that is not finite becomes null. -/
def ofFloat (x : Float) : Doc := if x.isFinite then .float x else .null

def ofNat (n : Nat) : Doc := .int n

def ofTexts (texts : List String) : Doc := .arr (texts.map .str)

/-- The document with its kind, and for a scalar its value, as messages name it. -/
def describe : Doc → String
  | .null => "null"
  | .bool b => "boolean `" ++ (if b then "true" else "false") ++ "`"
  | .int n => "integer `" ++ toString n ++ "`"
  | .float x => "floating point `" ++ (json? x).getD (plain x) ++ "`"
  | .str s => "string " ++ quoted s
  | .arr _ => "sequence"
  | .obj _ => "map"

def field? (name : String) : Doc → Option Doc
  | .obj fields => fields.lookup name
  | _ => none

/-- A field that is written only when there is something to write. -/
def optionalField (name : String) : Option Doc → List (String × Doc)
  | some d => [(name, d)]
  | none => []

/-! ## Canonical field order -/

/-- Puts a field into fields sorted by name; one of the same name is replaced. -/
def putField (name : String) (value : Doc) : List (String × Doc) → List (String × Doc)
  | [] => [(name, value)]
  | (other, d) :: rest =>
    match compare name other with
    | .lt => (name, value) :: (other, d) :: rest
    | .eq => (name, value) :: rest
    | .gt => (other, d) :: putField name value rest

mutual

/-- The document with the fields of every object sorted by name; of fields with one name the last
counts. -/
def canonical : Doc → Doc
  | .arr items => .arr (canonicalItems items)
  | .obj fields => .obj (canonicalFields fields [])
  | d => d

def canonicalItems : List Doc → List Doc
  | [] => []
  | d :: rest => canonical d :: canonicalItems rest

/-- Puts fields in canonical form into those already sorted. -/
def canonicalFields : List (String × Doc) → List (String × Doc) → List (String × Doc)
  | [], sorted => sorted
  | (name, d) :: rest, sorted => canonicalFields rest (putField name (canonical d) sorted)

end

end Doc

end TuningAdvisor
