import TuningAdvisor.Recommendation.Generator
import TuningAdvisor.Resolution.Order
/-!
# Resolution: `DependencyResolver::resolve` and `ResolutionReport`

The tunables of a request are settled one after the other, in their order, each from the values that
are settled by then. A tunable whose value the caller has given keeps it. **Every ordered tunable
has exactly one outcome**: a recommendation, or a notification that says why there is none.
-/

namespace TuningAdvisor

structure Resolved where
  id : TunableId
  entry : EnvEntry
  /-- The number that tunables behind it can use. -/
  value : Option Float
  /-- Whether the caller gave the value. -/
  seeded : Bool

inductive Outcome where
  | settled (r : Resolved)
  | skipped (n : Notification)

namespace Outcome

def resolved? : Outcome → Option Resolved
  | .settled r => some r
  | .skipped _ => none

def notification? : Outcome → Option Notification
  | .settled _ => none
  | .skipped n => some n

end Outcome

/-- Values as they are given by a caller or by earlier tunables, and the state of the run. -/
structure Run where
  values : Values
  state : RunState := {}

namespace Run

/-- What the generator of a tunable's layer makes of it. -/
def generate (generators : GeneratorRegistry) (h : History) (run : Run) (node : Node) :
    Except SkipCause EnvEntry × RunState :=
  match generators.get? node.id.layer with
  | none => (.error .noGenerator, run.state)
  | some g =>
    if g.supports node.id.name then
      let (made?, state) := g.generate node.id.name run.values h run.state
      (match made? with | some e => .ok e | none => .error .noData, state)
    else (.error .unsupported, run.state)

/-- The number in an entry, for a tunable whose values are numbers. -/
def value? (node : Node) (e : EnvEntry) : Option Float :=
  if node.tunable.valueType.isNumeric then e.number? else none

/-- The dependencies of a tunable that have no value. -/
def missing (run : Run) (node : Node) : List TunableId :=
  node.tunable.dependsOn.filter fun d => !run.values.contains d

/-- The run with the value of a settled tunable, if it has one. -/
def record (run : Run) (id : TunableId) : Option Float → Run
  | some x => { run with values := run.values.insert id x }
  | none => run

def settle (generators : GeneratorRegistry) (h : History) (run : Run) (node : Node) :
    Outcome × Run :=
  match run.values.get? node.id with
  | some x =>
    (.settled { id := node.id, entry := { name := node.id.name, value := plain x }, value := some x,
                seeded := true }, run)
  | none =>
    match run.missing node with
    | [] =>
      let (made, state) := run.generate generators h node
      let run := { run with state }
      match made with
      | .ok entry =>
        let value := value? node entry
        (.settled { id := node.id, entry, value, seeded := false }, run.record node.id value)
      | .error cause => (.skipped (cause.notification node.id), run)
    | prerequisites => (.skipped ((SkipCause.missing prerequisites).notification node.id), run)

def settleAll (generators : GeneratorRegistry) (h : History) :
    List Node → Run → List Outcome × Run
  | [], run => ([], run)
  | node :: rest, run =>
    let (outcome, run) := run.settle generators h node
    let (outcomes, run) := settleAll generators h rest run
    (outcome :: outcomes, run)

end Run

structure Report where
  recommendations : List Resolved
  notifications : List Notification
  values : Values

namespace Report

/-- The name of the entry that joins the options of the Java runtime. -/
def javaOptionsName : String := "JDK_JAVA_OPTIONS"

def get? (r : Report) (id : TunableId) : Option Resolved := r.recommendations.find? (·.id == id)

/-- The options that were generated for layers other than the container, joined. -/
def javaOptions? (r : Report) : Option EnvEntry :=
  let options := r.recommendations.filter fun x => !x.seeded && x.id.layer != LayerName.container
  EnvEntry.combine javaOptionsName (options.map (·.entry))

/-- Every entry, the joined options last. -/
def entries (r : Report) : List EnvEntry :=
  r.recommendations.map (·.entry) ++ r.javaOptions?.toList

end Report

/-- Settles the requested tunables, the values of `seed` being given. -/
def Catalog.resolve (c : Catalog) (generators : GeneratorRegistry) (requested : List TunableId)
    (seed : Values) (h : History) : Report :=
  let schedule := c.order requested
  let (outcomes, run) := Run.settleAll generators h schedule.nodes { values := seed }
  { recommendations := outcomes.filterMap Outcome.resolved?
    notifications := schedule.notifications ++ outcomes.filterMap Outcome.notification?
    values := run.values }

end TuningAdvisor
