/-!
# File trees: the files of `DirectoryLoader` and of the commands

Files by their paths, as they are seen from one directory. A path is walked component by component:
**every component but the last has to be there and to be a directory**, also where the next one is
`..`, the directory above. Empty components and `.` stand for the directory that they are in. What
is there need not be readable.
-/

namespace TuningAdvisor

inductive FileError where
  | notFound
  | denied
  | notADirectory
  | isADirectory
  | notText
deriving DecidableEq, Repr

/-- The wording of the error, with the number that the operating system gives to its own errors. -/
def FileError.message : FileError → String
  | .notFound => "No such file or directory (os error 2)"
  | .denied => "Permission denied (os error 13)"
  | .notADirectory => "Not a directory (os error 20)"
  | .isADirectory => "Is a directory (os error 21)"
  | .notText => "stream did not contain valid UTF-8"

/-- The components of a path: `..` only in front, and the empty one for the root. -/
abbrev Route := List String

namespace Route

def above (route : Route) : Route :=
  if route = [""] then route
  else if route.all (· == "..") then route ++ [".."]
  else route.dropLast

/-- Where a path starts, and its components. -/
def start (path : String) : Route := if path.startsWith "/" then [""] else []

/-- Whether a component stands for the directory that it is in. -/
def isHere (part : String) : Bool := part == "" || part == "."

/-- The route of a path if all its components are directories. -/
def ofPath (path : String) : Route :=
  (path.splitOn "/").foldl
    (fun route part =>
      if isHere part then route else if part = ".." then route.above else route ++ [part])
    (start path)

end Route

structure FileTree where
  files : List (Route × String) := []
  /-- What is there as well and cannot be read, and why. -/
  faults : List (Route × FileError) := []

/-- What a path leads to. -/
inductive Spot where
  | file (text : String)
  | unreadable (why : FileError)
  | directory (route : Route)
deriving DecidableEq, Repr

namespace FileTree

/-- A path without empty components and without `.`. -/
def plainPath (path : String) : String :=
  (if path.startsWith "/" then "/" else "")
    ++ "/".intercalate ((path.splitOn "/").filter (!Route.isHere ·))

/-- The tree of a list of paths and texts, where the last of those with one path counts, and of what
cannot be read. -/
def ofList (files : List (String × String)) (faults : List (String × FileError) := []) :
    FileTree where
  files := files.map fun (path, text) => (Route.ofPath path, text)
  faults := faults.map fun (path, why) => (Route.ofPath path, why)

/-- The routes of all that is there, directories apart that hold something. -/
def routes (t : FileTree) : List Route := t.files.map (·.1) ++ t.faults.map (·.1)

def file? (t : FileTree) (route : Route) : Option String := t.files.reverse.lookup route

def isDirectory (t : FileTree) (route : Route) : Bool :=
  route == [""] || route.all (· == "..")
    || t.faults.contains (route, .isADirectory)
    || t.routes.any fun inside => route.isPrefixOf inside && inside != route

/-! ## Walking -/

def spot (t : FileTree) (route : Route) : Except FileError Spot :=
  match t.file? route with
  | some text => .ok (.file text)
  | none =>
    if t.isDirectory route then .ok (.directory route)
    else
      match t.faults.lookup route with
      | some why => .ok (.unreadable why)
      | none => .error .notFound

def step (t : FileTree) (s : Spot) (part : String) : Except FileError Spot :=
  match s with
  | .file _ | .unreadable _ => .error .notADirectory
  | .directory route =>
    if Route.isHere part then .ok s
    else if part = ".." then .ok (.directory route.above)
    else t.spot (route ++ [part])

def walk (t : FileTree) (path : String) : Except FileError Spot :=
  if path = "" then .error .notFound
  else (path.splitOn "/").foldlM t.step (.directory (Route.start path))

/-! ## Operations -/

def contains (t : FileTree) (path : String) : Bool := (t.walk path).toBool

def read (t : FileTree) (path : String) : Except FileError String := do
  match ← t.walk path with
  | .file text => return text
  | .unreadable why => throw why
  | .directory _ => throw .isADirectory

/-- The names in a directory, each once, sorted. -/
def list (t : FileTree) (path : String) : Except FileError (List String) := do
  match ← t.walk path with
  | .file _ => throw .notADirectory
  | .unreadable why => throw (if why = .denied then .denied else .notADirectory)
  | .directory route =>
    let below := t.routes.filterMap fun inside =>
      if route.isPrefixOf inside then (inside.drop route.length).head? else none
    let names := below.filter fun name => name != "" && name != ".."
    return (names.mergeSort fun a b => decide (a ≤ b)).eraseReps

/-- The components of a path above the last, the last, and whether slashes follow it. -/
def splitLast (path : String) : List String × String × Bool :=
  let parts := (path.splitOn "/").reverse
  let named := parts.dropWhile (· == "")
  ((named.drop 1).reverse, named.headD "", named.length < parts.length)

/-- The tree with the text of a file set; the directory has to exist. -/
def write (t : FileTree) (path text : String) : Except FileError FileTree := do
  if path = "" then throw .notFound
  let (parts, name, slashed) := splitLast path
  match ← parts.foldlM t.step (.directory (Route.start path)) with
  | .file _ | .unreadable _ => throw .notADirectory
  | .directory route =>
    if slashed ∨ Route.isHere name ∨ name = ".." ∨ t.isDirectory (route ++ [name]) then
      throw .isADirectory
    else return { t with files := t.files ++ [(route ++ [name], text)] }

end FileTree

end TuningAdvisor
