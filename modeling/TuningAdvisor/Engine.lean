import TuningAdvisor.Engine.Batch
import TuningAdvisor.Telemetry.Event
import TuningAdvisor.Telemetry.Counters
import TuningAdvisor.Trial.Summary
import TuningAdvisor.Admission.Ingestion
import TuningAdvisor.Admission.Registration
/-!
# The engine: `TuningEngine`

The engine holds the experiments and the profiles, registers experiments, takes in results and makes
recommendations. Every operation is a function from the engine before it to the engine after it;
counters and events are part of the engine.

| here | there |
| --- | --- |
| `load`                    | `TuningEngine::load_all` |
| `register`, `registerAll` | `create_experiment`, `create_experiments` |
| `ingestAll`               | `update_results` |
| `recommend`, `summarize`  | `recommend`, `summarize` |
-/

namespace TuningAdvisor

structure Engine where
  config : Config
  store : ExperimentStore := ∅
  profiles : ProfileStore := {}
  handlers : HandlerRegistry
  catalog : Catalog := .builtin
  generators : GeneratorRegistry
  counters : Counters := {}
  /-- What has happened so far, the latest event last. -/
  events : List Event := []

namespace Engine

def ofConfig (c : Config) (profiles : ProfileStore) : Engine where
  config := c
  profiles
  handlers := HandlerRegistry.builtin c
  generators := GeneratorRegistry.builtin c

def log (e : Engine) (event : Event) : Engine := { e with events := e.events ++ [event] }

def count (e : Engine) (f : Counters → Counters) : Engine := { e with counters := f e.counters }

/-- Remembers that the profile store was asked. -/
def noteProfiles (e : Engine) (asked : Bool) : Engine :=
  if asked then { e with profiles := e.profiles.loaded } else e

def countStore (e : Engine) : Engine :=
  e.count fun c => { c with experimentsInStore := e.store.size }

/-- Loads experiments that were stored before, and counts them. -/
def load (e : Engine) (experiments : List Experiment) : Nat × Engine :=
  let (n, store) := ExperimentStore.load e.store experiments
  (n, { e with store }.countStore)

/-! ## Registration -/

def noteRegistration (e : Engine) (r : Registration) : Engine :=
  let name := r.experiment.name
  match r.rejection with
  | none =>
    (e.count fun c => { c with experimentsRegistered := c.experimentsRegistered + 1 }).log
      (.experimentRegistered name r.experiment.profile)
  | some why =>
    (e.count (·.rejectExperiment why.status)).log
      (.experimentRejected name why.status why.message)

/-- Registers an experiment: it is stored with its verdict, if it is accepted. -/
def register (e : Engine) (x : Experiment) : Verdict × Engine :=
  let r := Registration.check e.store e.profiles e.config x
  let verdict := r.verdict
  let store :=
    if r.rejection.isSome then e.store
    else e.store.insert r.experiment.name { r.experiment with verdict := some verdict }
  (verdict, ({ e with store }.noteProfiles r.askedProfiles).noteRegistration r)

def noteHalt (e : Engine) (kind : String) (r : BatchReport) : Engine :=
  if r.halted then e.log (.batchHalted kind r.items.length r.skipped) else e

def registerItem (e : Engine) (x : Experiment) : BatchItem × Engine :=
  let (verdict, e) := e.register x
  ({ experiment := x.name, verdict }, e)

def registerAll (e : Engine) (experiments : List Experiment) : BatchReport × Engine :=
  let (report, e) := runBatch e.config.batchPolicy registerItem experiments e
  (report, (e.noteHalt "experiments" report).countStore)

/-! ## Results -/

def ingestion (e : Engine) : Ingestion where
  profiles := e.profiles
  handlers := e.handlers
  config := e.config

/-- Counts and reports what became of a result. -/
def noteResult (e : Engine) (s : Submission) (made : Except Rejection RecommendationCounts) :
    Engine :=
  let finish := (s.finish.map (·.toOffset)).getD "-"
  let e := e.count fun c => { c with resultsProcessed := c.resultsProcessed + 1 }
  match made with
  | .ok counts =>
    let e := e.count fun c =>
      { c with
        recommendationRuns := c.recommendationRuns + 1
        resultsAccepted := c.resultsAccepted + 1
        recommendations := c.recommendations + counts.recommendations }
    e.log (.resultAccepted s.name finish counts.recommendations)
  | .error why =>
    (e.count (·.rejectResult why.status)).log
      (.resultRejected s.name finish why.status why.message)

def ingestItem (e : Engine) (s : Submission) : BatchItem × Engine :=
  let (made, store) := e.ingestion.process e.store s
  let asked := e.ingestion.asksProfiles e.store s
  let item :=
    { experiment := s.name, finish := s.finish.map (·.toOffset), verdict := .ofResult made,
      counts := made.toOption }
  (item, ({ e with store }.noteProfiles asked).noteResult s made)

def ingestAll (e : Engine) (results : List Submission) : BatchReport × Engine :=
  let (report, e) := runBatch e.config.batchPolicy ingestItem results e
  (report, e.noteHalt "results" report)

/-! ## Recommendations -/

inductive RequestError where
  | unknownLayer (name : String)
  | unknownProfile (name : String)
  | noProfiles (why : ProfileError)
deriving DecidableEq, Repr

def RequestError.message : RequestError → String
  | .unknownLayer name => "unknown layer " ++ name
  | .unknownProfile name => "performance profile " ++ name ++ " not found"
  | .noProfiles why => why.message

/-- The container and the other layers of a request, in its order. -/
def requestedLayers (layers : List String) : List String :=
  LayerName.container :: layers.filter (· != LayerName.container)

def tunablesOf (c : Catalog) (layers : List String) : Except RequestError (List TunableId) :=
  (·.flatten) <$> layers.mapM fun name =>
    match c.get? name with
    | some l => .ok (l.tunables.map Tunable.id)
    | none => .error (.unknownLayer name)

def noteReport (e : Engine) (scope : String) (r : Report) : Engine :=
  let e := e.count fun c =>
    { c with
      recommendationRuns := c.recommendationRuns + 1
      recommendations := c.recommendations + r.recommendations.length }.skip r.notifications
  let e := r.notifications.foldl (fun e n => e.log (.tunableSkipped scope n)) e
  e.log (.recommended scope r.recommendations.length r.notifications.length)

/-- Recommendations for the container and other layers, the values of `seed` being given. -/
def recommend (e : Engine) (layers : List String) (seed : Values) (h : History) :
    Except RequestError Report × Engine :=
  let names := requestedLayers layers
  match tunablesOf e.catalog names with
  | .error why => (.error why, e)
  | .ok requested =>
    let report := e.catalog.resolve e.generators requested seed h
    (.ok report, e.noteReport ("+".intercalate names) report)

/-- The summary of trials, in the direction of a profile. -/
def summarize (e : Engine) (trials : List Trial) (profile : String) :
    Except RequestError TrialSummary × Engine :=
  let summary := match e.profiles.find profile with
    | .ok (some p) => .ok (TrialSummary.ofTrials trials p.direction)
    | .ok none => .error (.unknownProfile profile)
    | .error why => .error (.noProfiles why)
  (summary, e.noteProfiles true)

end Engine

end TuningAdvisor
