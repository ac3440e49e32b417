import TuningAdvisor.Number.Decimal
import TuningAdvisor.Number.Range
import TuningAdvisor.Profile
import TuningAdvisor.Text.Blank
/-!
# Trials: `ExperimentSummary::record_trial` and `from_trials`

A trial ends with the value of the objective, as a text, or with a text that reports an error. The
summary counts trials and keeps the best one: **of equally good trials the earliest**. Trials that
report an error, no number or no finite one have failed.
-/

namespace TuningAdvisor

structure Trial where
  number : Nat
  result : String
deriving DecidableEq, Repr

inductive TrialOutcome where
  | newBest
  | passed
  | failed
deriving DecidableEq, Repr

def TrialOutcome.name : TrialOutcome → String
  | .newBest => "new_best"
  | .passed => "passed"
  | .failed => "failed"

namespace Trial

/-- What the result of a failed trial contains. -/
def errorMarker : String := "ERROR"

/-- The value of the objective, unless the trial has failed. -/
def value? (result : String) : Option Float :=
  if hasInfix errorMarker.toList result.toList then none
  else (readFloat? (trimText result)).filter (·.isFinite)

/-- A trial number as the signed number of 64 bits that has the same bits. -/
def index (number : Nat) : Int := Int.bmod number (maxNat64 + 1)

end Trial

structure TrialSummary where
  total : Nat
  completed : Nat := 0
  ongoing : Nat := 0
  passed : Nat := 0
  failed : Nat := 0
  /-- The number of the best trial, -1 while there is none. -/
  bestTrial : Int := -1
  best : Option Float := none
  direction : Direction

namespace TrialSummary

def start (total : Nat) (direction : Direction) : TrialSummary := { total, direction }

def startTrial (s : TrialSummary) : TrialSummary := { s with ongoing := s.ongoing + 1 }

def beats (s : TrialSummary) (value : Float) : Bool := s.best.all (s.direction.improves value)

def record (s : TrialSummary) (t : Trial) : TrialOutcome × TrialSummary :=
  let s := { s with ongoing := s.ongoing - 1, completed := s.completed + 1 }
  match Trial.value? t.result with
  | none => (.failed, { s with failed := s.failed + 1 })
  | some value =>
    let s := { s with passed := s.passed + 1 }
    if s.beats value then
      (.newBest, { s with bestTrial := Trial.index t.number, best := some value })
    else (.passed, s)

/-- The summary of finished trials in their order. -/
def ofTrials (trials : List Trial) (direction : Direction) : TrialSummary :=
  trials.foldl (fun s t => (s.startTrial.record t).2) (start trials.length direction)

def pending (s : TrialSummary) : Nat := s.total - s.completed

end TrialSummary

end TuningAdvisor
