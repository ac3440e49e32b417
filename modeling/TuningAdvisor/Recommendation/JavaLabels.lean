import TuningAdvisor.Interval
import TuningAdvisor.Text.Blank
/-!
# Labels of a Java runtime: `JvmMetadata` and `parse_jdk_major`

The information metric of a Java runtime carries its version, vendor and name as labels. The major
version is the first number of the version text, or the second one if the first is 1: `1.8.0_292`
is a version 8.
-/

namespace TuningAdvisor

structure JavaLabels where
  version : Option String
  vendor : Option String
  runtime : Option String
deriving DecidableEq, Repr

namespace JavaLabels

def metric : String := "jvmInfo"

/-- The labels in the most recent interval that has them, each on its own. -/
def ofHistory (h : History) : JavaLabels where
  version := h.latestMetadata? metric "version"
  vendor := h.latestMetadata? metric "vendor"
  runtime := h.latestMetadata? metric "runtime"

/-- The stretches of digits of a text. -/
def digitRuns (cs : List Char) : List (List Char) :=
  (cs.splitBy fun a b => a.isDigit == b.isDigit).filter (·.all Char.isDigit)

/-- The number that digits stand for, if it has 32 bits. -/
def number32? (digits : List Char) : Option Nat :=
  let n := digits.foldl (fun n c => 10 * n + (c.toNat - 48)) 0
  if n ≤ maxNat32 then some n else none

def majorOf? (version : String) : Option Nat :=
  match digitRuns version.toList with
  | [] => none
  | first :: rest =>
    match number32? first with
    | some 1 => rest.head?.bind number32?
    | major => major

def major? (l : JavaLabels) : Option Nat := l.version.bind majorOf?

end JavaLabels

end TuningAdvisor
