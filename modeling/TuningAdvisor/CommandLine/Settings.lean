import TuningAdvisor.CommandLine.KeyPath
import TuningAdvisor.Config
import TuningAdvisor.Document.Located
import TuningAdvisor.FileTree
import TuningAdvisor.Number.Decimal
import TuningAdvisor.Number.Range
import TuningAdvisor.Text.Blank
/-!
# Settings: `load_engine_config` and `UserSettings`

The configuration of the engine comes from a file and from environment variables, which win. A
setting is converted where its kind is not the expected one: a text that reads as a number counts as
one, a truth value as 1 or 0, a fraction is rounded to a whole number.
-/

namespace TuningAdvisor

/-- A value and where it comes from. Of a group of values that is not kept. -/
structure Setting where
  value : Doc
  origin : Option String

inductive SettingError where
  | wrongKind (found : Doc) (expected key : String) (origin : Option String)
  /-- A number beyond those of 32 bits. -/
  | tooLarge (n : Nat) (key : String)
  | unknownName (enumeration name : String)
  | notName (enumeration : String)

namespace SettingError

/-- A value as messages name it. -/
def describe : Doc → String
  | .null => "unit value"
  | .bool b => "boolean `" ++ (if b then "true" else "false") ++ "`"
  | .int n => "64-bit integer `" ++ toString n ++ "`"
  | .float x => "floating point `" ++ plain x ++ "`"
  | .str s => "string " ++ quoted s
  | .arr _ => "sequence"
  | .obj _ => "map"

def message : SettingError → String
  | .wrongKind found expected key origin =>
    "invalid type: " ++ describe found ++ ", expected " ++ expected ++ " for key `" ++ key ++ "`"
      ++ (origin.map (" in " ++ ·)).getD ""
  | .tooLarge n key =>
    "invalid type: 64-bit unsigned integer `" ++ toString n
      ++ "`, expected an unsigned 32 bit integer for key `" ++ key ++ "`"
  | .unknownName enumeration name =>
    "enum " ++ enumeration ++ " does not have variant constructor " ++ name
  | .notName enumeration =>
    "value of enum " ++ enumeration
      ++ " should be represented by either string or table with exactly one key"

end SettingError

abbrev Settings := SortedMap String Setting

namespace Setting

/-- A whole number with an optional sign, within the given range; there is no minus sign where the
range has no negative numbers. -/
def readWhole? (low high : Int) (s : String) : Option Int :=
  let (negative, digits) := match s.toList with
    | '-' :: rest => (true, rest)
    | '+' :: rest => (false, rest)
    | cs => (false, cs)
  if digits.isEmpty || !digits.all Char.isDigit then none
  else
    let n : Int := digits.foldl (fun n c => 10 * n + (c.toNat - 48)) 0
    let n := if negative then -n else n
    if (negative && 0 ≤ low) || n < low || high < n then none else some n

/-- A value as it is written in a variable: a truth value, a number, or else a text. -/
def ofVariable (s : String) : Doc :=
  if lowerText s = "true" then .bool true
  else if lowerText s = "false" then .bool false
  else
    match readWhole? minInt64 maxInt64 s, readFloat? s with
    | some n, _ => .int n
    | none, some x => .float x
    | none, none => .str s

/-- The truth value that a word stands for. -/
def switch? (s : String) : Option Bool :=
  match lowerText s with
  | "true" | "on" | "yes" => some true
  | "false" | "off" | "no" => some false
  | _ => none

/-- A whole number within a range: `range` names the range, where a number lies outside of it. -/
def whole (low high : Int) (range : String) (key : String) (s : Setting) :
    Except SettingError Int :=
  let refuse (expected : String) : Except SettingError Int :=
    .error (.wrongKind s.value expected key s.origin)
  match s.value with
  | .int n => if low ≤ n ∧ n ≤ high then .ok n else refuse range
  | .bool b => .ok (if b then 1 else 0)
  | .float x => .ok (Binary64.saturate low high (Binary64.round x))
  | .str text =>
    match switch? text, readWhole? low high text with
    | some b, _ => .ok (if b then 1 else 0)
    | none, some n => .ok n
    | none, none => refuse "an integer"
  | _ => refuse "an integer"

def int64 : String → Setting → Except SettingError Int :=
  whole minInt64 maxInt64 "an signed 64 bit or less integer"

/-- An unsigned number of 32 bits, which is read as one of 64 bits first. -/
def nat32 (key : String) (s : Setting) : Except SettingError Nat := do
  let n ← Int.toNat <$> whole 0 maxNat64 "an unsigned 64 bit or less integer" key s
  if maxNat32 < n then throw (.tooLarge n key)
  return n

def float (key : String) (s : Setting) : Except SettingError Float :=
  match s.value with
  | .float x => .ok x
  | .int n => .ok (Float.ofInt n)
  | .bool b => .ok (if b then 1.0 else 0.0)
  | .str text =>
    match switch? text, readFloat? text with
    | some b, _ => .ok (if b then 1.0 else 0.0)
    | none, some x => .ok x
    | none, none => .error (.wrongKind s.value "a floating point" key s.origin)
  | v => .error (.wrongKind v "a floating point" key s.origin)

def text (key : String) (s : Setting) : Except SettingError String :=
  match s.value with
  | .str text => .ok text
  | .bool b => .ok (if b then "true" else "false")
  | .int n => .ok (toString n)
  | .float x => .ok (plain x)
  | v => .error (.wrongKind v "a string" key s.origin)

/-- A batch policy by its name, in any letter case. -/
def policy (_ : String) (s : Setting) : Except SettingError BatchPolicy :=
  let ofName (name : String) : Except SettingError BatchPolicy :=
    match [BatchPolicy.haltOnFirstFailure, .continue].find? (·.name == lowerText name) with
    | some p => .ok p
    | none => .error (.unknownName "BatchPolicy" name)
  match s.value with
  | .str name => ofName name
  | .obj [(name, _)] => ofName name
  | _ => .error (.notName "BatchPolicy")

end Setting

namespace Settings

/-- The setting of a key, or a default. -/
def get {α : Type} (settings : Settings) (key : String)
    (convert : String → Setting → Except SettingError α) (default : α) : Except SettingError α :=
  match settings.get? key with
  | some s => convert key s
  | none => .ok default

/-- The configuration that settings come to. -/
def config (s : Settings) : Except SettingError Config := do
  let base : Config := {}
  return {
    toleranceSeconds := ← s.get "measurement_tolerance_secs" Setting.int64 base.toleranceSeconds
    measurementDuration :=
      ← s.get "default_measurement_duration" Setting.text base.measurementDuration
    termDays := ← s.get "default_term_days" Setting.float base.termDays
    threadsPerCore := ← s.get "thread_pool_multiplier" Setting.float base.threadsPerCore
    minThreads := ← s.get "min_threads" Setting.nat32 base.minThreads
    maxThreads := ← s.get "max_threads" Setting.nat32 base.maxThreads
    minHeapPercent := ← s.get "min_heap_percent" Setting.float base.minHeapPercent
    maxHeapPercent := ← s.get "max_heap_percent" Setting.float base.maxHeapPercent
    threadMemoryMb := ← s.get "per_thread_memory_mb" Setting.float base.threadMemoryMb
    batchPolicy := ← s.get "batch_policy" Setting.policy base.batchPolicy }

/-- A value put in under a key or a path of keys. A group does not keep where it comes from. -/
def assign (settings : Settings) (origin : String) (path : KeyPath) (value : Doc) : Settings :=
  let key := smallText path.key
  let there := settings.get? key
  let merged := KeyPath.put value path.steps (there.map (·.value))
  match path.steps, value, there with
  | [], .obj [], some _ => settings
  | [], .obj _, _ => settings.insert key { value := merged, origin := none }
  | [], _, _ => settings.insert key { value := merged, origin := some origin }
  | _, _, _ => settings.insert key { value := merged, origin := none }

/-- Puts in one setting after the other; of those with one key the last counts. -/
def overlay (settings : Settings) (origin : String) (values : List (String × Doc)) : Settings :=
  values.foldl (fun s (key, value) => s.assign origin (.ofText key) value) settings

/-- A number of a file: a whole one of 64 bits, or else a fraction. -/
def fileValue : Doc → Doc
  | .int n =>
    if minInt64 ≤ n ∧ n ≤ maxInt64 then .int n else .float (Float.ofInt n)
  | d => d

/-- What the names of settings files end in. -/
def fileEndings : List String := ["json", "json5", "toml", "yaml", "yml", "ini", "ron"]

/-- Whether a path names a settings file: an ending, behind a name of its own. -/
def isFileName (path : String) : Bool :=
  match (((path.splitOn "/").getLastD "").splitOn ".").reverse with
  | ending :: name => fileEndings.contains ending && name != [""] && name != []
  | [] => false

/-- A text without the mark of the byte order in front. -/
def unmarked (text : String) : String :=
  match text.toList with
  | '\uFEFF' :: rest => String.ofList rest
  | _ => text

/-- The settings of a file, or why there are none. -/
def ofFile (origin text : String) : Except String Settings :=
  let text := unmarked text
  match Doc.ofText text with
  | .error why => .error (why.message text ++ " in " ++ origin)
  | .ok d =>
    match d.canonical with
    | .obj fields =>
      .ok (overlay ∅ origin (fields.map fun (key, value) => (key, fileValue value)))
    | d =>
      .error ("invalid type: " ++ SettingError.describe (fileValue d) ++ ", expected a map in "
        ++ origin ++ " in " ++ origin)

def variableStart : String := "tuner_"

/-- The key that an environment variable sets. -/
def variableKey? (name : String) : Option String :=
  let lower := (smallText name).toList
  if variableStart.toList.isPrefixOf lower then
    some (String.ofList (lower.drop variableStart.length))
  else none

/-- The settings with those of environment variables put in. -/
def withVariables (settings : Settings) (assigned : List (String × String)) : Settings :=
  settings.overlay "the environment"
    (assigned.filterMap fun (name, value) =>
      (variableKey? name).map fun key => (key, Setting.ofVariable value))

end Settings

structure UserSettings where
  profiles : Option String := none
  format : Option String := none

namespace UserSettings

def record : Record UserSettings :=
  .mk <$> .allowed "profiles_dir" (Decode.written "path string" .ok)
    <*> .allowed "default_format" Decode.text

def decode : Decoder UserSettings := record.decoder "UserSettings"

end UserSettings

end TuningAdvisor
