import TuningAdvisor.Number.Notation
import TuningAdvisor.SortedMap
import TuningAdvisor.Text.Blank
/-!
# Tunables: `TunableSpec`, `Tunable`, `TunableDomain`, `ValueType`

A tunable is one configurable knob of a layer: a range of numbers or a list of choices, and the
tunables that have to be known before it. **A tunable is identified by its layer and its name.**
-/

namespace TuningAdvisor

structure TunableId where
  layer : String
  name : String
deriving DecidableEq, Repr

namespace TunableId

instance : Ord TunableId := ⟨compareLex (compareOn layer) (compareOn name)⟩

instance : Std.TransOrd TunableId :=
  inferInstanceAs (Std.TransCmp (compareLex (compareOn layer) (compareOn name)))

instance : Std.LawfulEqOrd TunableId where
  eq_of_compare {a b} h := by
    have h : (compareOn layer a b).then (compareOn name a b) = .eq := h
    rw [Ordering.then_eq_eq] at h
    cases a
    cases b
    simp only [compareOn, Std.LawfulEqOrd.compare_eq_iff_eq] at h
    simp [h]

/-- As messages name a tunable. -/
def toText (id : TunableId) : String := id.layer ++ "/" ++ id.name

end TunableId

inductive ValueType where
  | integer
  | double
  | categorical
deriving DecidableEq, Repr

namespace ValueType

def isNumeric (t : ValueType) : Bool := t != .categorical

def name : ValueType → String
  | .integer => "integer"
  | .double => "double"
  | .categorical => "categorical"

/-- The type of a name in any letter case; some have a second or third name. -/
def ofName? (s : String) : Option ValueType :=
  match lowerText s with
  | "integer" | "int" | "long" => some .integer
  | "double" | "float" | "numeric" => some .double
  | "categorical" => some .categorical
  | _ => none

end ValueType

inductive TunableDomain where
  | numeric (lower upper step : Float)
  | categorical (choices : List String)
deriving DecidableEq

structure Tunable where
  name : String
  valueType : ValueType
  domain : TunableDomain
  sloClasses : List String := []
  layer : String := ""
  description : Option String := none
  /-- Query texts by data source. -/
  queries : SortedMap String String := ∅
  dependsOn : List TunableId := []

inductive TunableError where
  | zeroStep (name : String)
  | invertedBounds (name : String) (lower upper : Float)
  | noChoices (name : String)
  | missingBound (name field : String)
  | unknownValueType (name valueType : String)

def TunableError.message : TunableError → String
  | .zeroStep name => "tunable " ++ name ++ ": step must be non-zero"
  | .invertedBounds name lower upper =>
    "tunable " ++ name ++ ": lower bound " ++ plain lower ++ " exceeds upper bound " ++ plain upper
  | .noChoices name =>
    "tunable " ++ name ++ ": categorical tunable requires at least one choice"
  | .missingBound name field => "tunable " ++ name ++ ": numeric tunable requires " ++ field
  | .unknownValueType name valueType =>
    "tunable " ++ name ++ ": unknown value_type " ++ valueType

namespace Tunable

def id (t : Tunable) : TunableId := { layer := t.layer, name := t.name }

/-- Whether a number lies within the bounds; a list of choices has none. -/
def contains (t : Tunable) (x : Float) : Bool :=
  match t.domain with
  | .numeric lower upper _ => lower ≤ x && x ≤ upper
  | .categorical _ => true

end Tunable

namespace TunableDomain

/-- A range of numbers; the step comes first when both rules are broken. -/
def range? (name : String) (lower upper step : Float) : Except TunableError TunableDomain :=
  if step == 0.0 then .error (.zeroStep name)
  else if upper < lower then .error (.invertedBounds name lower upper)
  else .ok (.numeric lower upper step)

def choice? (name : String) (choices : List String) : Except TunableError TunableDomain :=
  if choices.isEmpty then .error (.noChoices name) else .ok (.categorical choices)

end TunableDomain

end TuningAdvisor
