import TuningAdvisor.CommandLine.Program
/-!
# The command line program: `main`

Reads the files that the command line speaks of, runs the program on them, and writes what it leaves
behind.
-/

namespace TuningAdvisor.Main

open TuningAdvisor

structure Found where
  texts : List (String × String) := []
  faults : List (String × FileError) := []

def Found.all (found : List Found) : Found where
  texts := found.flatMap (·.texts)
  faults := found.flatMap (·.faults)

/-- Why a file or a directory could not be read. -/
def fault : IO.Error → FileError
  | .permissionDenied .. => .denied
  | .inappropriateType _ code _ => if code = 21 then .isADirectory else .notADirectory
  | .userError _ => .notText
  | _ => .notFound

def readEntry (path : String) : IO Found := do
  try
    return { texts := [(path, ← IO.FS.readFile path)] }
  catch why => return { faults := [(path, fault why)] }

/-- What a path leads to, if it leads anywhere. -/
def readFile? (path : String) : IO Found := do
  let found ← readEntry path
  let missing := [FileError.notFound, .notADirectory]
  return { found with faults := found.faults.filter fun (_, why) => !missing.contains why }

/-- The files of a directory, if there is one. -/
def readDirectory? (path : String) : IO Found := do
  try
    let directory ← IO.FS.realPath path
    let entries ← directory.readDir
    return .all (← entries.toList.mapM fun e => readEntry (ProfileSource.join path e.fileName))
  catch why => return { faults := [(path, fault why)].filter (·.2 != .notFound) }

def commandFiles : Command → List String
  | .validate experiments => [experiments]
  | .updateResults experiments results => experiments :: results
  | .recommend .. => []
  | .summarize trials _ => [trials]

def variableNames : List String :=
  [ Program.configVariable, "TUNER_MEASUREMENT_TOLERANCE_SECS",
    "TUNER_DEFAULT_MEASUREMENT_DURATION", "TUNER_DEFAULT_TERM_DAYS",
    "TUNER_THREAD_POOL_MULTIPLIER", "TUNER_MIN_THREADS", "TUNER_MAX_THREADS",
    "TUNER_MIN_HEAP_PERCENT", "TUNER_MAX_HEAP_PERCENT", "TUNER_PER_THREAD_MEMORY_MB",
    "TUNER_BATCH_POLICY" ]

def readVariables : IO (List (String × String)) := do
  let found ← variableNames.mapM fun name => do
    return (← IO.getEnv name).map fun value => (name, value)
  return found.filterMap id

def settingsFile : IO (Option String) := do
  let inside (directory : String) : String := directory ++ "/runtime-tuner/settings.json"
  match ← IO.getEnv "XDG_CONFIG_HOME", ← IO.getEnv "HOME" with
  | some directory, home =>
    if directory.startsWith "/" then return some (inside directory)
    else return home.map fun h => inside (h ++ "/.config")
  | none, home => return home.map fun h => inside (h ++ "/.config")

/-- The directory of profiles that the user's defaults name. -/
def defaultProfiles (files : List (String × String)) : List String :=
  files.filterMap fun (_, text) =>
    (UserSettings.decode.ofText text).toOption.bind (·.profiles)

/-- The paths at which the configuration file may be: a directory stands for the file beside it. -/
def configFiles (path : String) : List String := [path, FileTree.plainPath path ++ ".json"]

def readFiles (i : Invocation) (settings : Option String) : IO Found := do
  let defaults ← settings.toList.mapM readFile?
  let config := i.options.config.toList
  let named ← (commandFiles i.command ++ config.flatMap configFiles).mapM readFile?
  let directories :=
    config ++ i.options.profiles.toList ++ defaultProfiles (Found.all defaults).texts
  let profiles ← directories.mapM readDirectory?
  return .all (defaults ++ named ++ profiles)

def environment (arguments : List String) : IO Environment := do
  let assigned ← readVariables
  let settings ← settingsFile
  let found ← match Arguments.read (assigned.lookup Program.configVariable) arguments with
    | .ok i => readFiles i settings
    | .error _ => pure {}
  let files := .ofList found.texts found.faults
  return { arguments, assigned, files, settingsFile := settings }

/-- Writes the file of counters, if the command line asks for one. -/
def writeMetrics (arguments : List String) (files : FileTree) : IO Unit := do
  if let .ok i := Arguments.read none arguments then
    if let some path := i.options.metricsFile then
      if let .ok text := files.read path then
        IO.FS.writeFile path text

end TuningAdvisor.Main

open TuningAdvisor TuningAdvisor.Main in
def main (arguments : List String) : IO UInt32 := do
  let env ← environment arguments
  let ending := Program.run env
  writeMetrics arguments ending.files
  (← IO.getStdout).putStr ending.stdout
  (← IO.getStderr).putStr ending.stderr
  return ending.exitCode.toUInt32
