import TuningAdvisor.Document.Printer
import TuningAdvisor.Engine
import TuningAdvisor.Engine.Document
import TuningAdvisor.Text.Table
import TuningAdvisor.Trial.Document
/-!
# Output: `print_table`, `print_report` and the rows of the commands

What the program writes: tables with a line that sums them up, or documents.

| here | there |
| --- | --- |
| `bytes`                               | `format_bytes` |
| `batchRows`, `batchSummary`           | `outcome_rows`, `summarize_batch` |
| `Latest.ofExperiments`, `Latest.rows` | `latest_recommendations`, `recommendation_rows` |
| `reportTable`                         | `print_report` |
| `summaryTable`                        | `summary_row` |
-/

namespace TuningAdvisor

namespace Output

def success (message : String) : String := "✓ " ++ message

def failure (message : String) : String := "✗ " ++ message

def warning (message : String) : String := "⚠ " ++ message

def note (message : String) : String := "ℹ " ++ message

/-- A table, or a message in place of one without rows. -/
def tableOr (empty : String) (header : List String) (rows : List (List String)) : List String :=
  if rows.isEmpty then [empty] else Table.render header rows

/-- Bytes in the largest unit that they fill. -/
def bytes (x : Float) : String :=
  let kib := 1024.0
  let mib := kib * 1024.0
  let gib := mib * 1024.0
  if gib ≤ x then fixed 2 (x / gib) ++ "Gi"
  else if mib ≤ x then fixed 2 (x / mib) ++ "Mi"
  else if kib ≤ x then fixed 2 (x / kib) ++ "Ki"
  else plain x ++ "B"

/-! ## Batches -/

def batchRows (r : BatchReport) : List (List String) :=
  r.items.map fun i =>
    [ i.experiment, i.finish.getD "-", toString i.verdict.status,
      i.verdict.message.getD "accepted" ]

/-- The lines that sum a batch up; `what` names its items. -/
def batchSummary (what : String) (r : BatchReport) : List String :=
  if r.isSuccess then [success (toString r.succeeded ++ " " ++ what ++ " accepted")]
  else
    [ warning (toString r.failed ++ " of " ++ toString r.items.length ++ " " ++ what
        ++ " rejected") ]
      ++ if r.halted then
          [ note (toString r.skipped ++ " " ++ what
              ++ " not processed after the first failure") ]
        else []

def batchTable (what : String) (r : BatchReport) : List String :=
  tableOr ("No " ++ what ++ " found") ["Experiment", "Interval End", "Status", "Message"]
      (batchRows r)
    ++ batchSummary what r

/-! ## Latest recommendations -/

structure Latest where
  experiment : String
  container : String
  finish : Instant
  terms : TermRecommendations

namespace Latest

/-- The latest recommendations of a container of an experiment. -/
def ofContainer? (e : Experiment) (c : Container) : Option Latest :=
  c.latest?.map fun (finish, terms) =>
    { experiment := e.name, container := c.name, finish, terms }

def ofExperiments (es : List Experiment) : List Latest :=
  es.flatMap fun e => e.containers.filterMap (ofContainer? e)

def encode (l : Latest) : Doc :=
  .obj [ ("experiment_name", .str l.experiment), ("container_name", .str l.container),
    ("interval_end_time", .str l.finish.toOffset), ("terms", l.terms.encode) ]

def rows (l : Latest) : List (List String) :=
  l.terms.entries.map fun (term, r) =>
    [ l.experiment, l.container, term, toString r.intervals, ",".intercalate r.layers,
      "\n".intercalate (r.entries.map EnvEntry.toText) ]

end Latest

/-- The latest recommendations for the experiments of a batch. -/
def latestOf (e : Engine) (registered : BatchReport) : List Latest :=
  Latest.ofExperiments (registered.items.filterMap fun i => e.store.get? i.experiment)

def latestTable (ls : List Latest) : List String :=
  tableOr "No recommendations yet"
    ["Experiment", "Container", "Term", "Intervals", "Layers", "Config"] (ls.flatMap Latest.rows)

/-! ## Reports -/

def valueCell (r : Resolved) : String :=
  match r.value with
  | some x => if r.id.name = TunableName.memoryLimit then bytes x else r.entry.value
  | none => r.entry.value

def recommendationRow (r : Resolved) : List String :=
  [r.id.layer, r.id.name, valueCell r, if r.seeded then "seeded" else "generated"]

def notificationRow (n : Notification) : List String :=
  [toString n.code, n.severity.name, n.tunable.toText, n.message]

def notificationTable (ns : List Notification) : List String :=
  if ns.isEmpty then []
  else
    warning (toString ns.length ++ " tunable(s) skipped")
      :: Table.render ["Code", "Severity", "Tunable", "Message"] (ns.map notificationRow)

def reportTable (r : Report) : List String :=
  tableOr "No tunables resolved" ["Layer", "Tunable", "Value", "Source"]
      (r.recommendations.map recommendationRow)
    ++ (r.javaOptions?.map EnvEntry.toText).toList ++ notificationTable r.notifications

def reportDoc (r : Report) : Doc :=
  .obj ([ ("recommendations", .arr (r.recommendations.map Resolved.encode)),
      ("notifications", .arr (r.notifications.map Notification.encode)) ]
    ++ Doc.optionalField "jvm_options" (r.javaOptions?.map fun e => .str e.value))

/-! ## Trials -/

def summaryTable (s : TrialSummary) : List String :=
  let bestTrial := if s.bestTrial < 0 then "-" else toString s.bestTrial
  Table.render
      [ "Total", "Completed", "Passed", "Failed", "Direction", "Best Trial", "Best Result" ]
      [ [ toString s.total, toString s.completed, toString s.passed, toString s.failed,
        s.direction.name, bestTrial, (s.best.map (fixed 3)).getD "-" ] ]
    ++ if s.bestTrial < 0 then [warning "No trial passed"] else []

end Output

end TuningAdvisor
