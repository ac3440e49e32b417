import TuningAdvisor.CommandLine.Arguments
import TuningAdvisor.CommandLine.Output
import TuningAdvisor.CommandLine.Settings
/-!
# The program: `main`, `run` and the commands

The program as a function from its arguments, its variables and the files that it can see to what it
writes. A failing command says why on the error output; what it has written by then stands.

| here | there |
| --- | --- |
| `parseRecords`, `readRecords`           | `parse_documents`, `load_documents` |
| `register`, `validate`, `updateResults` | `register`, `validate`, `update_results` |
| `seedValues`, `versionHistory`          | `seed_values`, `jvm_intervals` |
| `recommend`, `summarize`                | `recommend`, `summarize` |
| `userSettings`, `engineConfig`          | `UserSettings::load`, `load_engine_config` |
| `action`, `perform`                     | `run` |
-/

namespace TuningAdvisor

/-- What the program finds when it starts. -/
structure Environment where
  arguments : List String
  /-- The environment variables that are set, with their values. -/
  assigned : List (String × String) := []
  files : FileTree := {}
  /-- The path of the user's defaults. -/
  settingsFile : Option String := none

/-- What the program leaves behind. -/
structure Ending where
  exitCode : Nat
  stdout : String := ""
  stderr : String := ""
  files : FileTree := {}

namespace Program

/-- Why a command fails: the outermost context first. -/
abbrev Chain := List String

/-- What a command writes, and why it fails, if it does. -/
structure Written where
  lines : List String := []
  failure : Option Chain := none

def textOf (lines : List String) : String := String.join (lines.map (· ++ "\n"))

/-! ## Reading files -/

/-- The records of a document: the items of an array, or the document itself. -/
def parseRecords {α : Type} (decoder : Decoder α) (text : String) : Except String (List α) :=
  match Doc.ofText text with
  | .error why => .error (why.message text)
  | .ok d =>
    match d.canonical with
    | .arr items => items.mapM decoder.ofDoc
    | d => (fun record => [record]) <$> decoder.ofDoc d

def readRecords {α : Type} (decoder : Decoder α) (files : FileTree) (path : String) :
    Except Chain (List α) := do
  let text ← (files.read path).mapError fun why => ["Failed to read " ++ path, why.message]
  (parseRecords decoder text).mapError fun why => ["Failed to parse " ++ path, why]

/-! ## Commands -/

/-- Works on the engine and may fail; what was done to the engine before stands. -/
abbrev Action := ExceptT Chain (StateM Engine)

def shown (d : Doc) : List String := [d.pretty]

def register (files : FileTree) (path : String) : Action BatchReport := do
  let experiments ← MonadExcept.ofExcept (readRecords Experiment.decode files path)
  modifyGet fun e => e.registerAll experiments

def validate (files : FileTree) (format : OutputFormat) (path : String) : Action Written := do
  let report ← register files path
  let lines := match format with
    | .json => shown report.encode
    | .table => Output.batchTable "experiments" report
  let failure :=
    if report.isSuccess then none else some [toString report.failed ++ " experiment(s) rejected"]
  return { lines, failure }

/-- Registers experiments and takes in results. -/
def updateResults (files : FileTree) (format : OutputFormat) (experiments : String)
    (results : List String) : Action Written := do
  let registered ← register files experiments
  let submissions ← MonadExcept.ofExcept (results.mapM (readRecords Submission.decode files))
  let ingested ← modifyGet fun e => e.ingestAll submissions.flatten
  let latest := Output.latestOf (← get) registered
  let lines := match format with
    | .json =>
      shown (.obj [ ("experiments", registered.encode), ("results", ingested.encode),
        ("recommendations", .arr (latest.map Output.Latest.encode)) ])
    | .table =>
      Output.batchTable "experiments" registered ++ Output.batchTable "result windows" ingested
        ++ Output.latestTable latest
  let failure :=
    if registered.isSuccess && ingested.isSuccess then none
    else
      some [ toString registered.failed ++ " experiment(s) and " ++ toString ingested.failed
        ++ " result window(s) rejected" ]
  return { lines, failure }

/-- The values of the container's limits. -/
def seedValues (cpu memory : String) : Except Chain Values := do
  let cores ← (Quantity.cpuCores Float cpu).mapError fun why =>
    ["Invalid --cpu " ++ cpu, why.message]
  let bytes ← (Quantity.memoryBytes Float memory).mapError fun why =>
    ["Invalid --memory " ++ memory, why.message]
  if !(0.0 < cores) then throw ["--cpu must be positive"]
  if !(0.0 < bytes) then throw ["--memory must be positive"]
  return .ofList [(.cpuLimit, cores), (.memoryLimit, bytes)]

/-- A history of one interval that carries the version of the Java runtime. Its window stands for
the quarter of an hour before the call. Recommendations read the metrics of a history and not its
windows (`Catalog.resolve_of_sameMetrics`), so that no result depends on these two instants. -/
def versionHistory : Option String → History
  | none => ∅
  | some version =>
    let labels : Measurement := { metadata := .ofList [("version", version)] }
    let window : Interval :=
      { start := { seconds := 0, nanos := 0, inRange := by decide }
        finish := { seconds := 900, nanos := 0, inRange := by decide }
        metrics := some (.ofList [(JavaLabels.metric, labels)]) }
    .ofList [(window.finish, window)]

/-- The answer of the engine, or its error as a failure. -/
def answer {α : Type} (result : Except Engine.RequestError α) : Action α :=
  MonadExcept.ofExcept (result.mapError fun why => [why.message])

/-- Recommendations for given limits. -/
def recommend (format : OutputFormat) (cpu memory : String) (version : Option String)
    (layers : List String) : Action Written := do
  let seed ← MonadExcept.ofExcept (seedValues cpu memory)
  let report ← answer (← modifyGet fun e => e.recommend layers seed (versionHistory version))
  let lines := match format with
    | .json => shown (Output.reportDoc report)
    | .table => Output.reportTable report
  return { lines }

def summarize (files : FileTree) (format : OutputFormat) (path profile : String) :
    Action Written := do
  let trials ← MonadExcept.ofExcept (readRecords Trial.decode files path)
  let summary ← answer (← modifyGet fun e => e.summarize trials profile)
  let lines := match format with
    | .json => shown summary.encode
    | .table => Output.summaryTable summary
  return { lines }

def action (files : FileTree) (format : OutputFormat) : Command → Action Written
  | .validate experiments => validate files format experiments
  | .updateResults experiments results => updateResults files format experiments results
  | .recommend cpu memory version layers => recommend format cpu memory version layers
  | .summarize trials profile => summarize files format trials profile

def perform (files : FileTree) (format : OutputFormat) (c : Command) (e : Engine) :
    Written × Engine :=
  match (action files format c).run e with
  | (.ok written, e) => (written, e)
  | (.error why, e) => ({ failure := some why }, e)

/-! ## Starting up -/

/-- The defaults of the user. -/
def userSettings (env : Environment) : Except Chain UserSettings := do
  let some path := env.settingsFile | return {}
  if !env.files.contains path then return {}
  let text ← (env.files.read path).mapError fun why =>
    ["Failed to read settings file", why.message]
  (UserSettings.decode.ofText text).mapError fun why => ["Failed to parse settings file", why]

/-- The configuration file that a path stands for, with its text: the file itself, or for a directory
the file beside it that has its name and `.json`. -/
def configFile (files : FileTree) (path : String) : Except String (String × String) :=
  let plain := FileTree.plainPath path
  let notFound := "configuration file \"" ++ path ++ "\" not found"
  let unregistered := "configuration file \"" ++ path ++ "\" is not of a registered file format"
  match files.read path with
  | .ok text => if Settings.isFileName plain then .ok (plain, text) else .error unregistered
  | .error .denied =>
    .error (if Settings.isFileName plain then FileError.denied.message else unregistered)
  | .error _ =>
    if plain = "" ∨ plain.endsWith ".." then .error notFound
    else
      match files.read (plain ++ ".json") with
      | .ok text => .ok (plain ++ ".json", text)
      | .error .denied => .error FileError.denied.message
      | .error _ => .error notFound

def fileSettings (env : Environment) : Option String → Except Chain Settings
  | none => .ok ∅
  | some path =>
    if !env.files.contains path then .error ["config file " ++ path ++ " does not exist"]
    else
      let settings := do
        let (origin, text) ← configFile env.files path
        Settings.ofFile origin text
      settings.mapError fun why => ["Failed to load engine configuration", why]

def engineConfig (env : Environment) (path : Option String) : Except Chain Config := do
  let settings ← fileSettings env path
  (settings.withVariables env.assigned).config.mapError fun why =>
    ["Invalid engine configuration", why.message]

def defaultFormat (u : UserSettings) : OutputFormat :=
  ((u.format.bind fun name => OutputFormat.named.lookup (lowerText name))).getD .table

/-- The lines of a text, each behind four blanks. -/
def indented (text : String) : String :=
  "\n".intercalate ((text.splitOn "\n").map ("    " ++ ·))

/-- A failure in front of or behind the command: the causes stand below the message. -/
def abort (stdout : String) (files : FileTree) (why : Chain) : Ending :=
  let causes := match why.drop 1 with
    | [] => []
    | causes => ["", "Caused by:"] ++ causes.map indented
  { exitCode := 1, stdout, stderr := textOf (("Error: " ++ why.headD "") :: causes), files }

/-- Writes the counters, and what the command came to. -/
def finish (env : Environment) (metricsFile : Option String) (written : Written) (e : Engine) :
    Ending :=
  let stdout := textOf written.lines
  let stored := match metricsFile with
    | some path => env.files.write path e.counters.toText
    | none => .ok env.files
  match stored, written.failure with
  | .error why, _ => abort stdout env.files [why.message]
  | .ok files, none => { exitCode := 0, stdout, files }
  | .ok files, some why =>
    { exitCode := 1, stdout, stderr := textOf [Output.failure (": ".intercalate why)], files }

def invoke (env : Environment) (i : Invocation) : Ending :=
  let prepared : Except Chain (UserSettings × Config) := do
    let user ← userSettings env
    let config ← engineConfig env i.options.config
    return (user, config)
  match prepared with
  | .error why => abort "" env.files why
  | .ok (user, config) =>
    let profiles : ProfileStore := match i.options.profiles.or user.profiles with
      | some path => { source := .directory env.files path }
      | none => {}
    let format := i.options.format.getD (defaultFormat user)
    let (written, e) := perform env.files format i.command (Engine.ofConfig config profiles)
    finish env i.options.metricsFile written e

/-- The variable that names the configuration file. -/
def configVariable : String := "TUNER_CONFIG"

def versionText : String := "tuner 0.1.0"

/-- How the program is called. -/
def usage : String :=
  "Usage: tuner [OPTIONS] <validate|update-results|recommend|summarize> [ARGUMENTS]"

def run (env : Environment) : Ending :=
  match Arguments.read (env.assigned.lookup configVariable) env.arguments with
  | .ok i => invoke env i
  | .error .help => { exitCode := 0, stdout := textOf [usage], files := env.files }
  | .error .version => { exitCode := 0, stdout := textOf [versionText], files := env.files }
  | .error .misuse => { exitCode := 2, stderr := textOf [usage], files := env.files }

end Program

end TuningAdvisor
