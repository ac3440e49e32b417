import TuningAdvisor.Document.Located
import TuningAdvisor.FileTree
import TuningAdvisor.Profile.Builtin
import TuningAdvisor.Profile.Document
/-!
# The profile store: `ProfileStore`, `DirectoryLoader`, `BuiltinProfiles`

Profiles by name, loaded when the store is first asked for anything. **A store answers as its
contents do**: the loaded profiles with the additions and removals since; a load that failed is
remembered, and every answer is that failure.

| here | there |
| --- | --- |
| `readDirectory`                  | `load_profiles_from_dir` |
| `ProfileSource.load`             | `ProfileLoader::load` of both loaders |
| `contents`, `loaded`             | `ProfileStore::cache` |
| `find`, `add`, `remove`, `names` | `ProfileStore::get`, `add`, `remove`, `names` |
-/

namespace TuningAdvisor

inductive ProfileError where
  | unreadable (path : String) (why : FileError)
  | malformed (path : String) (why : String)
  | loader (why : String)
deriving DecidableEq, Repr

def ProfileError.message : ProfileError → String
  | .unreadable path why => "failed to read profile " ++ path ++ ": " ++ why.message
  | .malformed path why => "failed to parse profile " ++ path ++ ": " ++ why
  | .loader why => "profile loader failed: " ++ why

/-- Where the first profiles come from. -/
inductive ProfileSource where
  | builtin
  | given (profiles : List Profile)
  /-- The built-in profiles, overlaid with the files of a directory. -/
  | directory (files : FileTree) (path : String)
  | failing (why : ProfileError)

namespace ProfileSource

def join (directory name : String) : String :=
  if directory.endsWith "/" then directory ++ name else directory ++ "/" ++ name

/-- Whether a file name ends in `.json` behind a name of its own. -/
def isProfileFile (name : String) : Bool := name.endsWith ".json" && name != ".json"

def readFile (files : FileTree) (path : String) : Except ProfileError Profile := do
  let text ← (files.read path).mapError (.unreadable path)
  (Profile.decode.ofText text).mapError (.malformed path)

/-- The profiles in the files of a directory, by file name. -/
def readDirectory (files : FileTree) (path : String) : Except ProfileError (List Profile) := do
  let names ← (files.list path).mapError (.unreadable path)
  (names.filter isProfileFile).mapM fun name => readFile files (join path name)

/-- Puts a profile behind the others, in place of one of its name. -/
def overlay (profiles : List Profile) (p : Profile) : List Profile :=
  profiles.filter (·.name != p.name) ++ [p]

def load : ProfileSource → Except ProfileError (List Profile)
  | .builtin => .ok Profile.builtin
  | .given profiles => .ok profiles
  | .directory files path => do
    let found ← readDirectory files path
    return found.foldl overlay Profile.builtin
  | .failing why => .error why

end ProfileSource

abbrev ProfileMap := SortedMap String Profile

/-- Profiles, or why there are none; nothing before the first access. -/
structure ProfileStore where
  source : ProfileSource := .builtin
  cache : Option (Except ProfileError ProfileMap) := none

namespace ProfileStore

/-- What a load leaves in the cache. A failure is kept as its text. -/
def fill (source : ProfileSource) : Except ProfileError ProfileMap :=
  match source.load with
  | .ok profiles => .ok (.ofList (profiles.map fun p => (p.name, p)))
  | .error why => .error (.loader why.message)

/-- What the store answers from: the cache, or what the load would leave there. -/
def contents (s : ProfileStore) : Except ProfileError ProfileMap := s.cache.getD (fill s.source)

/-- The store once it has been asked. -/
def loaded (s : ProfileStore) : ProfileStore := { s with cache := some s.contents }

def isLoaded (s : ProfileStore) : Bool := s.cache.isSome

def find (s : ProfileStore) (name : String) : Except ProfileError (Option Profile) :=
  s.contents.map (·.get? name)

def names (s : ProfileStore) : Except ProfileError (List String) := s.contents.map (·.keys)

/-- Changes the profiles; the answer is the profile that stood under a name before. -/
def change (s : ProfileStore) (name : String) (f : ProfileMap → ProfileMap) :
    Except ProfileError (Option Profile) × ProfileStore :=
  match s.contents with
  | .ok profiles => (.ok (profiles.get? name), { s with cache := some (.ok (f profiles)) })
  | .error why => (.error why, s.loaded)

/-- Adds a profile, or replaces the one of its name. -/
def add (s : ProfileStore) (p : Profile) : Except ProfileError (Option Profile) × ProfileStore :=
  s.change p.name (·.insert p.name p)

def remove (s : ProfileStore) (name : String) :
    Except ProfileError (Option Profile) × ProfileStore :=
  s.change name (·.erase name)

def toText (s : ProfileStore) : String :=
  "ProfileStore \x7b loaded: " ++ (if s.isLoaded then "true" else "false") ++ " \x7d"

end ProfileStore

end TuningAdvisor
