import TuningAdvisor.Experiment.Merge
import TuningAdvisor.Experiment.Store
import TuningAdvisor.Quantity
import TuningAdvisor.Recommendation.Handler
import TuningAdvisor.Admission.Rejection
/-!
# Ingestion: `ResultValidator::process`

A result is checked against the experiment that it names, merged into it, and recommendations are
made. **The store changes only when all of this succeeds**: merge and recommendations are carried
out on the side, and an error at any point leaves the stored experiment as it was.

| here | there |
| --- | --- |
| `Submission.checkMandatory` | `check_mandatory` of results |
| `Experiment.checkDuration`  | `ResultValidator::check_duration` |
| `Experiment.checkObjects`   | `check_objects` |
| `Experiment.currentProfile` | `ResultValidator::resolve_profile` |
| `Ingestion.apply`           | `ResultValidator::apply` |
| `Ingestion.process`         | `ResultValidator::process` and `run` |
-/

namespace TuningAdvisor

/-- The experiment and the window that a result names. -/
structure ResultKey where
  name : String
  start : Instant
  finish : Instant
deriving DecidableEq, Repr

namespace Submission

def checkMandatory (s : Submission) : Except Rejection ResultKey :=
  let missing := missingFields
    [ (hasText s.declaredName, "experiment_name"), (s.start.isSome, "interval_start_time"),
      (s.finish.isSome, "interval_end_time") ]
  match missing, s.start, s.finish with
  | [], some start, some finish => .ok { name := s.name, start, finish }
  | names, _, _ => .error (.missingFields names)

end Submission

namespace Experiment

/-- Checks the length of a result window: longer than nothing, and as long as declared within the
tolerance. -/
def checkDuration (e : Experiment) (c : Config) (start finish : Instant) :
    Except Rejection Unit := do
  let millis := Instant.wholeMillis (finish.since start)
  if millis ≤ 0 then throw .wrongTimestamps
  let declared := e.measurementDuration c
  match Quantity.durationSeconds Float declared with
  | .error why => throw (.invalidDuration why.message)
  | .ok expected =>
    let actual := Float.ofInt millis / 1000.0
    if Float.ofInt c.toleranceSeconds < Binary64.abs (actual - Float.ofInt expected) then
      throw (.durationMismatch c.toleranceSeconds declared actual)

/-- A reported object as messages name it. -/
def objectText (r : ReportedObject) : String := r.space ++ "/" ++ r.name

/-- What does not fit between a declared object and the report on it. -/
def objectProblems (declared : KubernetesObject) (r : ReportedObject) : List String :=
  let typeProblem := match declared.kind, r.kind with
    | some expected, some reported =>
      if lowerText expected = lowerText reported then []
      else
        [ "object " ++ objectText r ++ " has type " ++ reported ++ ", expected " ++ expected ]
    | _, _ => []
  let strangers := r.containers.filter fun x => (declared.container? x.name).isNone
  typeProblem ++ strangers.map fun x => "unknown container " ++ x.name ++ " in " ++ objectText r

/-- What a result reports that the experiment does not declare. -/
def undeclared (e : Experiment) (s : Submission) : List String :=
  s.objects.flatMap fun r =>
    match e.object? r.name r.space with
    | none => ["unknown object " ++ objectText r]
    | some declared => objectProblems declared r

/-- Checks that all that is reported has been declared; an experiment without objects declares
none and accepts all. -/
def checkObjects (e : Experiment) (s : Submission) : Except Rejection Unit :=
  if e.objects.isEmpty then .ok ()
  else
    match e.undeclared s with
    | [] => .ok ()
    | problems => .error (.objectMismatch problems)

def currentProfile (e : Experiment) : Except Rejection ProfileChoice :=
  match e.slo, e.profile, e.useCase? with
  | some slo, _, _ => .ok (.inline (.inline e.name slo))
  | none, some name, _ => .ok (.named name)
  | none, none, some u => .ok (.named u.defaultProfile)
  | none, none, none => .error (.invalid Rejection.unsupportedModeText)

/-- What is checked of a result before the profile is looked up. -/
def precheck (e : Experiment) (c : Config) (s : Submission) (key : ResultKey) :
    Except Rejection ProfileChoice := do
  e.checkDuration c key.start key.finish
  if e.windows.contains key.finish then throw (.duplicateResult e.name key.finish)
  e.checkObjects s
  e.currentProfile

end Experiment

structure Ingestion where
  profiles : ProfileStore
  handlers : HandlerRegistry
  config : Config

namespace Ingestion

/-- Merges a result into the stored experiment and makes its recommendations. Both happen on a copy;
the copy is written back when nothing can fail any more. -/
def apply (i : Ingestion) (s : Submission) (key : ResultKey) :
    InPlace Rejection Experiment RecommendationCounts := do
  let e ← get
  let choice ← e.precheck i.config s key
  let profile ← choice.find i.profiles
  let some handler := i.handlers.find? profile.name | throw (.noHandler profile.name)
  if let some reason := handler.refuse? profile s then throw (.invalid reason)
  let (staged, merged) := e.merge s key.start key.finish
  let _ ← merged.mapError fun why => Rejection.invalid why.message
  let (staged, made) := handler.recommend profile staged key.finish
  let counts ← made.mapError fun why => Rejection.internal why.message
  set staged
  return counts

/-- Deals with one result. The store keeps the experiment as the work on it has left it, whether it
has failed or not. -/
def process (i : Ingestion) (store : ExperimentStore) (s : Submission) :
    Except Rejection RecommendationCounts × ExperimentStore :=
  match s.checkMandatory with
  | .error r => (.error r, store)
  | .ok key =>
    match store.get? key.name with
    | none => (.error (.experimentNotFound key.name), store)
    | some e =>
      let (made, e) := (i.apply s key).run.run e
      (made, store.insert key.name e)

/-- Whether the profile store is asked for the profile of a result. -/
def asksProfiles (i : Ingestion) (store : ExperimentStore) (s : Submission) : Bool :=
  match s.checkMandatory with
  | .error _ => false
  | .ok key =>
    match store.get? key.name with
    | none => false
    | some e =>
      match e.precheck i.config s key with
      | .ok choice => choice.isNamed
      | .error _ => false

end Ingestion

def Verdict.ofResult {α : Type} : Except Rejection α → Verdict
  | .ok _ => .accepted
  | .error r => r.verdict

end TuningAdvisor
