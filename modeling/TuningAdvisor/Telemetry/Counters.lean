import TuningAdvisor.Resolution.Notification
import TuningAdvisor.SortedMap
/-!
# Counters: `TunerMetrics`

What an engine counts, and the text that shows it: families of samples by name, each with its help
text and its kind. A family without samples is not shown.
-/

namespace TuningAdvisor

structure Counters where
  experimentsRegistered : Nat := 0
  /-- Rejected experiments by status. -/
  experimentsRejected : SortedMap String Nat := ∅
  resultsAccepted : Nat := 0
  /-- Rejected results by status. -/
  resultsRejected : SortedMap String Nat := ∅
  recommendations : Nat := 0
  /-- Tunables without a recommendation by the kind of the notification. -/
  tunablesSkipped : SortedMap String Nat := ∅
  /-- Rounds of recommendations. -/
  recommendationRuns : Nat := 0
  resultsProcessed : Nat := 0
  experimentsInStore : Nat := 0

inductive FamilyKind where
  | counter
  | gauge
  /-- Of a histogram only the number of observations is kept. -/
  | histogram
deriving DecidableEq, Repr

def FamilyKind.name : FamilyKind → String
  | .counter => "counter"
  | .gauge => "gauge"
  | .histogram => "histogram"

/-- Samples under one name; each has its labels, in braces, and its value. -/
structure Family where
  name : String
  help : String
  kind : FamilyKind
  samples : List (String × Nat)

namespace Counters

def bump (m : SortedMap String Nat) (label : String) : SortedMap String Nat :=
  m.insert label ((m.get? label).getD 0 + 1)

def rejectExperiment (c : Counters) (status : Nat) : Counters :=
  { c with experimentsRejected := bump c.experimentsRejected (toString status) }

def rejectResult (c : Counters) (status : Nat) : Counters :=
  { c with resultsRejected := bump c.resultsRejected (toString status) }

def skip (c : Counters) (notifications : List Notification) : Counters :=
  { c with
    tunablesSkipped := notifications.foldl (fun m n => bump m n.kind.name) c.tunablesSkipped }

/-- Samples by the value of a label. -/
def labelled (label : String) (m : SortedMap String Nat) : List (String × Nat) :=
  m.entries.map fun (value, n) => ("\x7b" ++ label ++ "=\"" ++ value ++ "\"\x7d", n)

def single (n : Nat) : List (String × Nat) := [("", n)]

def families (c : Counters) : List Family :=
  [ { name := "runtime_tuner_experiments_in_store"
      help := "Experiments currently held in the store"
      kind := .gauge
      samples := single c.experimentsInStore },
    { name := "runtime_tuner_experiments_registered_total"
      help := "Experiments that passed validation and were stored"
      kind := .counter
      samples := single c.experimentsRegistered },
    { name := "runtime_tuner_experiments_rejected_total"
      help := "Experiments rejected by validation, by status code"
      kind := .counter
      samples := labelled "status" c.experimentsRejected },
    { name := "runtime_tuner_recommendation_latency_seconds"
      help := "Time spent generating recommendations for one run"
      kind := .histogram
      samples := single c.recommendationRuns },
    { name := "runtime_tuner_recommendations_generated_total"
      help := "Recommendation config entries produced"
      kind := .counter
      samples := single c.recommendations },
    { name := "runtime_tuner_result_processing_seconds"
      help := "Time spent handling one result window, rejected or accepted"
      kind := .histogram
      samples := single c.resultsProcessed },
    { name := "runtime_tuner_results_accepted_total"
      help := "Result windows merged into an experiment"
      kind := .counter
      samples := single c.resultsAccepted },
    { name := "runtime_tuner_results_rejected_total"
      help := "Result windows rejected, by status code"
      kind := .counter
      samples := labelled "status" c.resultsRejected },
    { name := "runtime_tuner_tunables_skipped_total"
      help := "Tunables without a recommendation, by notification kind"
      kind := .counter
      samples := labelled "kind" c.tunablesSkipped } ]

end Counters

namespace Family

/-- The name in front of the labels of a sample. -/
def sampleName (f : Family) : String :=
  match f.kind with
  | .histogram => f.name ++ "_count"
  | _ => f.name

def lines (f : Family) : List String :=
  if f.samples.isEmpty then []
  else
    [ "# HELP " ++ f.name ++ " " ++ f.help, "# TYPE " ++ f.name ++ " " ++ f.kind.name ]
      ++ f.samples.map fun (labels, n) => f.sampleName ++ labels ++ " " ++ toString n

end Family

namespace Counters

def samples (c : Counters) : List (String × Nat) :=
  c.families.flatMap fun f => f.samples.map fun (labels, n) => (f.sampleName ++ labels, n)

def toText (c : Counters) : String :=
  String.join ((c.families.flatMap Family.lines).map (· ++ "\n"))

end Counters

end TuningAdvisor
