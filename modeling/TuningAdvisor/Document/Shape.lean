/-!
# Shapes: what the records of `load_profiles_from_dir` ask of a text

What a reader expects of a text, part by part. **The shape decides how each part is read**: a part
that nobody looks at is only skipped, an array that stands for a record has to end behind its last
field, and where a name is expected nothing else is read at all.
-/

namespace TuningAdvisor

/-- What is expected of a value. -/
inductive Shape where
  /-- Any value: all its parts are read. -/
  | any
  /-- A value that nobody looks at. -/
  | ignored
  /-- A name, or an object whose only field has the name and holds null. -/
  | variant
  /-- Null or a value of the shape. -/
  | optional (value : Shape)
  | list (item : Shape)
  /-- An object with values of one shape. -/
  | map (value : Shape)
  /-- An object with these fields, or an array of their values. -/
  | record (fields : List (String × Shape))
deriving Inhabited

namespace Shape

/-- What is expected of the item with the given number. -/
def item : Shape → Nat → Shape
  | .list s, _ => s
  | .record fields, i => (fields[i]?.map (·.2)).getD .any
  | _, _ => .any

/-- How many items an array has at most, if there is a limit. -/
def itemLimit? : Shape → Option Nat
  | .record fields => some fields.length
  | _ => none

/-- What is expected of the field with the given name. -/
def field : Shape → String → Shape
  | .map s, _ => s
  | .record fields, name => (fields.lookup name).getD .ignored
  | _, _ => .any

end Shape

end TuningAdvisor
