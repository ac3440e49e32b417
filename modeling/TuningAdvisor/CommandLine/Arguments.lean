/-!
# Arguments: `Cli` and `Commands`

The words of a command line: a command, its operands, and options that may stand anywhere behind it.
General options may also stand in front of the command; given in both places, the one behind it
counts.
-/

namespace TuningAdvisor

/-- How results are shown. -/
inductive OutputFormat where
  | table
  | json
deriving DecidableEq, Repr

def OutputFormat.named : List (String × OutputFormat) := [("table", .table), ("json", .json)]

inductive Command where
  | validate (experiments : String)
  | updateResults (experiments : String) (results : List String)
  | recommend (cpu memory : String) (version : Option String) (layers : List String)
  | summarize (trials profile : String)
deriving DecidableEq, Repr

structure Options where
  format : Option OutputFormat := none
  config : Option String := none
  profiles : Option String := none
  metricsFile : Option String := none
deriving DecidableEq, Repr

/-- A command line that asks for something to be done. -/
structure Invocation where
  options : Options
  command : Command
deriving DecidableEq, Repr

/-- What else a command line can be. -/
inductive NoInvocation where
  | help
  | version
  | misuse
deriving DecidableEq, Repr

namespace Arguments

/-- What an option takes and how often it may be given. -/
inductive Arity where
  | flag
  | once
  | many
deriving DecidableEq, Repr

structure Spec where
  long : String
  short : Option Char := none
  arity : Arity := .once
  /-- Whether a text can be its value. -/
  accepts : String → Bool := fun _ => true

/-- Whether a text can be a path. -/
def isPath (value : String) : Bool := value != ""

def general : List Spec :=
  [ { long := "format", short := some 'f',
      accepts := fun name => (OutputFormat.named.lookup name).isSome },
    { long := "config", accepts := isPath }, { long := "log-json", arity := .flag },
    { long := "profiles", accepts := isPath }, { long := "metrics-out", accepts := isPath } ]

/-- Options that were given, and operands. -/
structure Given where
  options : List (String × String) := []
  operands : List String := []

namespace Given

def value? (g : Given) (long : String) : Option String := g.options.lookup long

def values (g : Given) (long : String) : List String :=
  (g.options.filter (·.1 == long)).map (·.2)

def add (g : Given) (spec : Spec) (value : String) : Except NoInvocation Given :=
  if !spec.accepts value || (spec.arity != .many && (g.value? spec.long).isSome) then
    .error .misuse
  else .ok { g with options := g.options ++ [(spec.long, value)] }

end Given

/-- What comes behind an equals sign, and what stands in front of it. -/
def splitValue (word : List Char) : String × Option String :=
  let name := word.takeWhile (· != '=')
  match word.dropWhile (· != '=') with
  | _ :: value => (String.ofList name, some (String.ofList value))
  | [] => (String.ofList name, none)

/-- Whether a word is an option rather than a value. -/
def isOption (word : String) : Bool := word.startsWith "-" && word != "-"

/-- Adds an option whose value stands in its own word, or is the next one. -/
def addOption (g : Given) (spec : Spec) (attached : Option String) (rest : List String) :
    Except NoInvocation (Given × List String) :=
  match spec.arity, attached, rest with
  | .flag, none, _ => (·, rest) <$> g.add spec ""
  | .flag, some _, _ => .error .misuse
  | _, some value, _ => (·, rest) <$> g.add spec value
  | _, none, value :: rest =>
    if isOption value then .error .misuse else (·, rest) <$> g.add spec value
  | _, none, [] => .error .misuse

/-- What an option asks for that is in no list. The version can only be asked for in front of the
command. -/
def question (front : Bool) (option : String) : NoInvocation :=
  if option = "--help" ∨ option = "-h" then .help
  else if front && (option = "--version" || option = "-V") then .version
  else .misuse

/-- Reads an option that is written out. -/
def longOption (front : Bool) (specs : List Spec) (g : Given) (word : List Char)
    (rest : List String) : Except NoInvocation (Given × List String) :=
  let (name, attached) := splitValue word
  match specs.find? (·.long == name) with
  | some spec => addOption g spec attached rest
  | none => .error (if attached.isNone then question front ("--" ++ name) else .misuse)

/-- Reads an option of one letter; its value may follow at once. -/
def shortOption (front : Bool) (specs : List Spec) (g : Given) (letter : Char) (tail : List Char)
    (rest : List String) : Except NoInvocation (Given × List String) :=
  match specs.find? (·.short == some letter) with
  | some spec =>
    let attached := match tail with
      | [] => none
      | '=' :: value => some (String.ofList value)
      | value => some (String.ofList value)
    addOption g spec attached rest
  | none => .error (question front ("-" ++ String.singleton letter))

/-- Reads one option, in front of the command or behind it. -/
def option (front : Bool) (specs : List Spec) (g : Given) (word : String) (rest : List String) :
    Except NoInvocation (Given × List String) :=
  match word.toList with
  | '-' :: '-' :: name => longOption front specs g name rest
  | '-' :: letter :: tail => shortOption front specs g letter tail rest
  | _ => .error .misuse

/-- Reads the words behind a command. -/
def readWords (specs : List Spec) : (fuel : Nat) → Given → List String → Except NoInvocation Given
  | 0, g, _ => .ok g
  | _, g, [] => .ok g
  | fuel + 1, g, word :: rest =>
    if word = "--" then .ok { g with operands := g.operands ++ rest }
    else if isOption word then do
      let (g, rest) ← option false specs g word rest
      readWords specs fuel g rest
    else readWords specs fuel { g with operands := g.operands ++ [word] } rest

/-- Reads the options in front of the command; what follows begins with the command. -/
def readFront : (fuel : Nat) → Given → List String → Except NoInvocation (Given × List String)
  | 0, g, words => .ok (g, words)
  | _, g, [] => .ok (g, [])
  | fuel + 1, g, word :: rest =>
    if word = "--" then .error .misuse
    else if isOption word then do
      let (g, rest) ← option true general g word rest
      readFront fuel g rest
    else .ok (g, word :: rest)

/-! ## Values -/

/-- A value that has to be given. -/
def needed : Option String → Except NoInvocation String
  | some value => .ok value
  | none => .error .misuse

/-- A path, which may not be empty. -/
def path (value : String) : Except NoInvocation String :=
  if isPath value then .ok value else .error .misuse

def path? : Option String → Except NoInvocation (Option String)
  | some value => some <$> path value
  | none => .ok none

def onlyOperand : List String → Except NoInvocation String
  | [operand] => path operand
  | _ => .error .misuse

/-- A general option: behind the command, else in front of it. -/
def generalValue? (front back : Given) (long : String) : Option String :=
  (back.value? long).or (front.value? long)

/-- The general options. `config` is the configuration file that is used when none is given: in front
of the command or behind it, so that it has to be a path if there is none in either place. -/
def options (config : Option String) (front back : Given) : Except NoInvocation Options := do
  if (front.value? "config").isNone || (back.value? "config").isNone then discard (path? config)
  let format ← match generalValue? front back "format" with
    | none => .ok none
    | some name =>
      match OutputFormat.named.lookup name with
      | some f => .ok (some f)
      | none => .error .misuse
  let config ← path? ((generalValue? front back "config").or config)
  let profiles ← path? (generalValue? front back "profiles")
  let metricsFile ← path? (generalValue? front back "metrics-out")
  return { format, config, profiles, metricsFile }

/-! ## Commands -/

/-- The options of a command beside the general ones. -/
def commandSpecs : String → Option (List Spec)
  | "validate" => some []
  | "update-results" => some [{ long := "experiments", short := some 'e', accepts := isPath }]
  | "recommend" =>
    some [ { long := "cpu" }, { long := "memory" }, { long := "jdk" },
      { long := "layer", arity := .many } ]
  | "summarize" => some [{ long := "profile" }]
  | _ => none

/-- The layers of a request that names none. -/
def defaultLayers : List String := ["hotspot"]

def command (name : String) (g : Given) : Except NoInvocation Command := do
  match name with
  | "validate" => return .validate (← onlyOperand g.operands)
  | "update-results" =>
    let experiments ← needed (g.value? "experiments") >>= path
    if g.operands.isEmpty then throw .misuse
    return .updateResults experiments (← g.operands.mapM path)
  | "recommend" =>
    let cpu ← needed (g.value? "cpu")
    let memory ← needed (g.value? "memory")
    if !g.operands.isEmpty then throw .misuse
    let layers := g.values "layer"
    return .recommend cpu memory (g.value? "jdk") (if layers.isEmpty then defaultLayers else layers)
  | "summarize" =>
    return .summarize (← onlyOperand g.operands) ((g.value? "profile").getD "default")
  | _ => throw .misuse

/-- The commands that help can be asked for. -/
def isHelpTopic (words : List String) : Bool :=
  words.all fun word => word = "help" || (commandSpecs word).isSome

/-- Reads a command line. `config` is the configuration file that is used when none is given. -/
def read (config : Option String) (words : List String) : Except NoInvocation Invocation := do
  let (front, words) ← readFront words.length {} words
  match words with
  | [] => throw .misuse
  | name :: words =>
    if name = "help" then throw (if isHelpTopic words then .help else .misuse)
    let some specs := commandSpecs name | throw .misuse
    let back ← readWords (general ++ specs) words.length {} words
    let options ← options config front back
    let command ← command name back
    return { options, command }

end Arguments

end TuningAdvisor
