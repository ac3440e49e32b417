import TuningAdvisor.Experiment
/-!
# The experiment store: `InMemoryExperimentStore`

Experiments by name.
-/

namespace TuningAdvisor

abbrev ExperimentStore := SortedMap String Experiment

namespace ExperimentStore

/-- Adds an experiment unless its name is taken. -/
def addNew (s : ExperimentStore) (name : String) (e : Experiment) : Bool × ExperimentStore :=
  if s.contains name then (false, s) else (true, s.insert name e)

/-- Changes the experiment of a name, and says whether there is one. -/
def update (s : ExperimentStore) (name : String) (f : Experiment → Experiment) :
    Bool × ExperimentStore :=
  match s.get? name with
  | some e => (true, s.insert name (f e))
  | none => (false, s)

/-- Loads experiments, each in place of the one of its name, and counts them. Those without a name
are left out. -/
def load (s : ExperimentStore) (experiments : List Experiment) : Nat × ExperimentStore :=
  let named := experiments.filterMap fun e => e.declaredName.map fun name => (name, e)
  (named.length, named.foldl (fun s entry => s.insert entry.1 entry.2) s)

end ExperimentStore

end TuningAdvisor
