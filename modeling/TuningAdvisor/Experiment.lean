import TuningAdvisor.Interval
import TuningAdvisor.Profile.Builtin
import TuningAdvisor.Recommendation.Env
import TuningAdvisor.Resolution.Notification
/-!
# Experiments: `Experiment`, `K8sObject`, `ContainerData`, `ExperimentResultData`

An experiment is a definition, the objects with the containers that it covers, and what has come in
since it was registered: **the windows of its accepted results, and for every container its history
and its recommendations**.
-/

namespace TuningAdvisor

/-- What a check came to, as it is attached to the checked record. -/
structure Verdict where
  success : Bool
  message : Option String := none
  status : Nat
deriving DecidableEq, Repr

/-- Finds the application of an experiment that names no objects. -/
structure Selector where
  matchLabel : Option String := none
  matchLabelValue : Option String := none
  matchRoute : Option String := none
  matchUri : Option String := none
  matchService : Option String := none
deriving DecidableEq, Repr

structure TrialSettings where
  measurementDuration : String
deriving DecidableEq, Repr

structure RecommendationSettings where
  threshold : Option Float := none
  /-- The length of each term in days. -/
  terms : SortedMap String Float := ∅

namespace RecommendationSettings

/-- The term of an experiment that declares none. -/
def shortTerm : String := "short_term"

def onlyShortTerm (days : Float) : SortedMap String Float := .ofList [(shortTerm, days)]

/-- The declared terms, or a single short one. -/
def termsOr (s : RecommendationSettings) (days : Float) : SortedMap String Float :=
  if s.terms.isEmpty then onlyShortTerm days else s.terms

end RecommendationSettings

structure TermRecommendation where
  days : Float
  /-- How many intervals lay in the term. -/
  intervals : Nat
  layers : List String
  entries : List EnvEntry
  notifications : List Notification

abbrev TermRecommendations := SortedMap String TermRecommendation

structure Container where
  image : Option String := none
  name : String
  /-- The metrics that its results have to carry. -/
  metrics : List SloMetric := []
  results : History := ∅
  /-- Recommendations by the end of the interval that they were made at. -/
  recommendations : SortedMap Instant TermRecommendations := ∅

/-- The recommendations that were made at the latest interval. -/
def Container.latest? (c : Container) : Option (Instant × TermRecommendations) :=
  c.recommendations.last?

structure KubernetesObject where
  kind : Option String := none
  name : String
  space : String := ""
  containers : List Container := []

/-- The first container of a name. -/
def KubernetesObject.container? (o : KubernetesObject) (name : String) : Option Container :=
  o.containers.find? (·.name == name)

structure Experiment where
  version : Option String := none
  declaredName : Option String := none
  clusterName : Option String := none
  mode : Option String := none
  targetCluster : Option String := none
  profile : Option String := none
  slo : Option Slo := none
  selector : Option Selector := none
  objects : List KubernetesObject := []
  trialSettings : Option TrialSettings := none
  recommendationSettings : Option RecommendationSettings := none
  /-- The starts of the accepted result windows by their ends. -/
  windows : SortedMap Instant Instant := ∅
  verdict : Option Verdict := none

namespace Experiment

/-- The name; empty where none is given. -/
def name (e : Experiment) : String := e.declaredName.getD ""

def useCase? (e : Experiment) : Option UseCase := do
  let mode ← e.mode
  let cluster ← e.targetCluster
  UseCase.of? mode cluster

def containers (e : Experiment) : List Container := e.objects.flatMap (·.containers)

def mapContainers (e : Experiment) (f : Container → Container) : Experiment :=
  { e with objects := e.objects.map fun o => { o with containers := o.containers.map f } }

/-- The first object of a name and a namespace. -/
def object? (e : Experiment) (name space : String) : Option KubernetesObject :=
  e.objects.find? fun o => o.name == name && o.space == space

end Experiment

/-! ## Results -/

structure ReportedMetric where
  name : String
  measurement : Measurement

structure ReportedContainer where
  image : Option String := none
  name : String
  metrics : List ReportedMetric := []

namespace ReportedContainer

/-- What was reported of a metric; the first report counts. -/
def metric? (c : ReportedContainer) (name : String) : Option Measurement :=
  (c.metrics.find? (·.name == name)).map (·.measurement)

/-- The reported metrics by name; the last report of a metric counts. -/
def toMetrics (c : ReportedContainer) : Metrics :=
  .ofList (c.metrics.map fun m => (m.name, m.measurement))

end ReportedContainer

structure ReportedObject where
  kind : Option String := none
  name : String
  space : String := ""
  containers : List ReportedContainer := []

/-- The result of one window of one experiment. -/
structure Submission where
  version : Option String := none
  declaredName : Option String := none
  start : Option Instant := none
  finish : Option Instant := none
  objects : List ReportedObject := []
  verdict : Option Verdict := none

namespace Submission

def name (s : Submission) : String := s.declaredName.getD ""

def containers (s : Submission) : List ReportedContainer := s.objects.flatMap (·.containers)

end Submission

end TuningAdvisor
