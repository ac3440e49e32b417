import TuningAdvisor.Document.Basic
import TuningAdvisor.Number.Range
import TuningAdvisor.Text.LetterCase
/-!
# Key paths in the settings of `load_engine_config`

The key of a setting may lead into a group: `limits.min` is the entry `min` of the group `limits`,
and `limits[0]` an item of an array. Letter case does not count in keys. **Values are put in without
regard to what is there**: where a path needs a group and finds something else, a new group takes
its place.
-/

namespace TuningAdvisor

/-- One step into a value. -/
inductive KeyStep where
  | entry (name : String)
  | item
deriving DecidableEq, Repr

/-- A key and the steps that follow it. -/
structure KeyPath where
  key : String
  steps : List KeyStep := []
deriving DecidableEq, Repr

namespace KeyPath

/-! ## Reading -/

def isNameChar (c : Char) : Bool := c.isAlphanum || c == ' ' || c == '_' || c == '-'

def name? (cs : List Char) : Option (String × List Char) :=
  let name := cs.takeWhile isNameChar
  if name.isEmpty then none
  else some (String.ofList name, cs.dropWhile isNameChar)

/-- Past spaces and tabs. -/
def skipSpaces (cs : List Char) : List Char := cs.dropWhile fun c => c == ' ' || c == '\t'

/-- Past a number of 64 bits and the bracket behind it. -/
def index? (cs : List Char) : Option (List Char) :=
  let cs := skipSpaces cs
  let (negative, cs) := match cs with
    | '-' :: rest => (true, rest)
    | _ => (false, cs)
  let digits := cs.takeWhile Char.isDigit
  let n : Int := digits.foldl (fun n c => 10 * n + (c.toNat - '0'.toNat)) 0
  let n := if negative then -n else n
  match skipSpaces (cs.dropWhile Char.isDigit) with
  | ']' :: rest =>
    if digits.isEmpty || n < minInt64 || maxInt64 < n then none else some rest
  | _ => none

/-- The step at the front of a text. -/
def step? : List Char → Option (KeyStep × List Char)
  | '.' :: rest => (name? rest).map fun (name, rest) => (.entry name, rest)
  | '[' :: rest => (index? rest).map fun rest => (.item, rest)
  | _ => none

/-- The steps that a text consists of. -/
def steps? : (fuel : Nat) → List Char → Option (List KeyStep)
  | _, [] => some []
  | 0, _ => none
  | fuel + 1, cs => do
    let (step, rest) ← step? cs
    return step :: (← steps? fuel rest)

/-- The path that a text stands for; one that has not the form of a path is a key as a whole. -/
def ofText (s : String) : KeyPath :=
  let read : Option KeyPath := do
    let (key, rest) ← name? s.toList
    return { key, steps := ← steps? rest.length rest }
  read.getD { key := s }

/-! ## Putting in -/

def entriesOf : Option Doc → List (String × Doc)
  | some (.obj entries) => entries
  | _ => []

mutual

/-- A value in place of another: groups are merged. -/
def merge : Doc → (there : Option Doc) → Doc
  | .obj entries, there => mergeEntries entries (there.getD (.obj []))
  | d, _ => d

/-- Entries put into a value one after the other. -/
def mergeEntries : List (String × Doc) → (there : Doc) → Doc
  | [], there => there
  | (name, d) :: rest, there =>
    let key := smallText name
    let entries := entriesOf (some there)
    mergeEntries rest (.obj (Doc.putField key (merge d (entries.lookup key)) entries))

end

/-- A value put in where the steps lead. What an array holds is no setting, and left out. -/
def put (value : Doc) : List KeyStep → (there : Option Doc) → Doc
  | [], there => merge value there
  | .entry name :: steps, there =>
    let key := smallText name
    let entries := entriesOf there
    .obj (Doc.putField key (put value steps (entries.lookup key)) entries)
  | .item :: _, _ => .arr []

end KeyPath

end TuningAdvisor
