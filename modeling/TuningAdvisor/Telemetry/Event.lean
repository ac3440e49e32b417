import TuningAdvisor.Resolution.Notification
import TuningAdvisor.Text.Quoted
/-!
# Events: `StructuredLogger`

What an engine reports of its work, one event at a time. An event has a level and named fields; the
first field is its own text.
-/

namespace TuningAdvisor

inductive Event where
  | experimentRegistered (experiment : String) (profile : Option String)
  | experimentRejected (experiment : String) (status : Nat) (message : String)
  | resultAccepted (experiment finish : String) (recommendations : Nat)
  | resultRejected (experiment finish : String) (status : Nat) (message : String)
  | recommended (scope : String) (recommendations notifications : Nat)
  | tunableSkipped (scope : String) (notification : Notification)
  | batchHalted (kind : String) (processed remaining : Nat)
deriving DecidableEq, Repr

namespace Event

/-- Whether something was refused, skipped or stopped. -/
def isWarning : Event → Bool
  | .experimentRegistered .. | .resultAccepted .. | .recommended .. => false
  | _ => true

def level (e : Event) : String := if e.isWarning then "WARN" else "INFO"

def text : Event → String
  | .experimentRegistered .. => "Experiment registered"
  | .experimentRejected .. => "Experiment rejected"
  | .resultAccepted .. => "Result window accepted"
  | .resultRejected .. => "Result window rejected"
  | .recommended .. => "Recommendation generated"
  | .tunableSkipped .. => "Tunable skipped"
  | .batchHalted .. => "Batch halted on first failure"

def name : Event → String
  | .experimentRegistered .. => "experiment_registered"
  | .experimentRejected .. => "experiment_rejected"
  | .resultAccepted .. => "result_accepted"
  | .resultRejected .. => "result_rejected"
  | .recommended .. => "recommendation_generated"
  | .tunableSkipped .. => "tunable_skipped"
  | .batchHalted .. => "batch_halted"

def showOptional : Option String → String
  | some s => "Some(" ++ quoted s ++ ")"
  | none => "None"

/-- The fields of its own. -/
def details : Event → List (String × String)
  | .experimentRegistered experiment profile =>
    [("experiment_name", experiment), ("profile", showOptional profile)]
  | .experimentRejected experiment status message =>
    [("experiment_name", experiment), ("status", toString status), ("message", message)]
  | .resultAccepted experiment finish recommendations =>
    [ ("experiment_name", experiment), ("interval_end", finish),
      ("recommendations", toString recommendations) ]
  | .resultRejected experiment finish status message =>
    [ ("experiment_name", experiment), ("interval_end", finish), ("status", toString status),
      ("message", message) ]
  | .recommended scope recommendations notifications =>
    [ ("scope", scope), ("recommendations", toString recommendations),
      ("notifications", toString notifications) ]
  | .tunableSkipped scope n =>
    [ ("scope", scope), ("tunable", n.tunable.toText), ("code", toString n.code),
      ("message", n.message) ]
  | .batchHalted kind processed remaining =>
    [("kind", kind), ("processed", toString processed), ("remaining", toString remaining)]

/-- All fields; `instanceName` is the name of the logger. -/
def fields (instanceName : String) (e : Event) : List (String × String) :=
  [("message", e.text), ("event", e.name), ("instance", instanceName)] ++ e.details

end Event

end TuningAdvisor
