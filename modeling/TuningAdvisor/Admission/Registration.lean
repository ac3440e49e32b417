import TuningAdvisor.Experiment.Store
import TuningAdvisor.Quantity
import TuningAdvisor.Admission.Rejection
/-!
# Registration: `ExperimentValidator::validate`

A new experiment is checked for mandatory fields, for its name being free, for its settings and for
its profile, in this order. **An accepted experiment carries the name of its profile, and every
container the metrics that its results have to carry.**

| here | there |
| --- | --- |
| `Experiment.checkMandatory`   | `check_mandatory` of experiments |
| `Experiment.checkSettings`    | `ExperimentValidator::check_settings`, `valid_term_days` |
| `Experiment.requestedProfile` | `ExperimentValidator::resolve_profile` |
| `Experiment.withMetricsOf`    | `annotate_containers` |
| `Registration.check`          | `ExperimentValidator::validate` and `run` |
-/

namespace TuningAdvisor

namespace Experiment

/-- The requirements of a use case, in the order in which they are listed. -/
def requirements (e : Experiment) : Option UseCase → List (Bool × String)
  | none => []
  | some .remoteMonitoring =>
    [ (e.recommendationSettings.isSome, "recommendation_settings"),
      (!e.objects.isEmpty, "kubernetes_objects"),
      (e.objects.all fun o => !isBlankText o.name, "kubernetes_objects.name"),
      (e.objects.all fun o => !o.containers.isEmpty, "kubernetes_objects.containers") ]
  | some .localMonitoring =>
    [ (e.recommendationSettings.isSome, "recommendation_settings"),
      (e.selector.isSome || !e.objects.isEmpty, "selector") ]
  | some .localExperiment => [(e.selector.isSome || !e.objects.isEmpty, "selector")]

def checkMandatory (e : Experiment) : Except Rejection UseCase :=
  let missing := missingFields
    ([ (hasText e.declaredName, "experiment_name"), (hasText e.mode, "mode"),
      (hasText e.targetCluster, "target_cluster") ] ++ e.requirements e.useCase?)
  match missing, e.useCase? with
  | [], some u => .ok u
  | [], none => .error (.unsupportedMode (e.mode.getD "") (e.targetCluster.getD ""))
  | names, _ => .error (.missingFields names)

def maxTermDays : Float := 3650.0

/-- Whether a term has an accepted length. -/
def isValidTerm (days : Float) : Bool := 0.0 < days && days ≤ maxTermDays

/-- Checks the length of result windows and of terms. -/
def checkSettings (e : Experiment) (c : Config) : Except Rejection Unit := do
  let duration := e.measurementDuration c
  match Quantity.durationSeconds Float duration with
  | .ok seconds => if seconds ≤ 0 then throw (.invalidDuration duration)
  | .error why => throw (.invalidDuration why.message)
  if let some settings := e.recommendationSettings then
    if let some (term, _) := settings.terms.entries.find? fun e => !isValidTerm e.2 then
      throw (.invalidTerm term)

/-- The profile that a new experiment names, without the blanks around the name. -/
def namedProfile? (e : Experiment) : Option String := (e.profile.map trimText).filter (· != "")

/-- The experiment with a default profile where it has neither a profile nor a service level. -/
def withDefaultProfile (e : Experiment) (u : UseCase) : Experiment :=
  if e.slo.isNone && e.namedProfile?.isNone then { e with profile := some u.defaultProfile } else e

/-- The profile that a new experiment asks for. -/
def requestedProfile (e : Experiment) (u : UseCase) : Except Rejection ProfileChoice :=
  match e.slo with
  | some slo =>
    if hasText e.profile then .error .profileAndSlo else .ok (.inline (.inline e.name slo))
  | none => .ok (.named (e.namedProfile?.getD u.defaultProfile))

/-- The experiment with the metrics of its profile in every container. -/
def withMetricsOf (e : Experiment) (p : Profile) : Experiment :=
  e.mapContainers fun c => { c with metrics := p.slo.containerMetrics }

end Experiment

structure Registration where
  experiment : Experiment
  rejection : Option Rejection
  askedProfiles : Bool

namespace Registration

def verdict (r : Registration) : Verdict := (r.rejection.map (·.verdict)).getD .accepted

/-- What is checked before the profile is looked up: the use case and the profile asked for. -/
def precheck (store : ExperimentStore) (c : Config) (e : Experiment) :
    Except Rejection (UseCase × ProfileChoice) := do
  let u ← e.checkMandatory
  if store.contains e.name then throw (.duplicateExperiment e.name)
  e.checkSettings c
  let choice ← e.requestedProfile u
  return (u, choice)

def check (store : ExperimentStore) (profiles : ProfileStore) (c : Config) (e : Experiment) :
    Registration :=
  match precheck store c e with
  | .error r => { experiment := e, rejection := some r, askedProfiles := false }
  | .ok (u, choice) =>
    let e := e.withDefaultProfile u
    match choice.find profiles with
    | .ok p =>
      { experiment := e.withMetricsOf p, rejection := none, askedProfiles := choice.isNamed }
    | .error r => { experiment := e, rejection := some r, askedProfiles := choice.isNamed }

end Registration

end TuningAdvisor
