import TuningAdvisor.Number.Binary64
/-!
# Profiles: `PerformanceProfile`, `Slo`, `Metric` and `Direction`

A profile names the service level that an experiment is tuned for and the metrics that every result
has to carry. A service level that an experiment states itself makes a profile of its own.
-/

namespace TuningAdvisor

inductive Direction where
  | minimize
  | maximize
deriving DecidableEq, Repr

namespace Direction

/-- Whether a value is strictly better than another one. -/
def improves (d : Direction) (candidate current : Float) : Bool :=
  match d with
  | .minimize => candidate < current
  | .maximize => current < candidate

def name : Direction → String
  | .minimize => "minimize"
  | .maximize => "maximize"

end Direction

/-- An aggregation function that a metric has to come with. -/
structure SloFunction where
  name : String
  query : Option String := none
  version : Option String := none
deriving DecidableEq, Repr

structure SloMetric where
  name : String
  datasource : String := ""
  valueType : String := ""
  /-- The kind of object that reports the metric. -/
  kubernetesObject : Option String := none
  query : Option String := none
  functions : List SloFunction := []
deriving DecidableEq, Repr

/-- Whether the metric is reported by every container. -/
def SloMetric.isContainerLevel (m : SloMetric) : Bool := m.kubernetesObject == some "container"

structure Objective where
  kind : String
  expression : Option String := none
deriving DecidableEq, Repr

/-- A service level: the objective and the metrics that it is computed from. -/
structure Slo where
  sloClass : Option String := none
  direction : Direction := .minimize
  objective : Option Objective := none
  metrics : List SloMetric := []
deriving DecidableEq, Repr

def Slo.containerMetrics (s : Slo) : List SloMetric := s.metrics.filter (·.isContainerLevel)

structure Profile where
  name : String
  version : Float := 1.0
  kubernetesType : Option String := none
  slo : Slo

namespace Profile

/-- The profile of an experiment that states its service level itself. -/
def inline (experiment : String) (slo : Slo) : Profile := { name := experiment ++ "-slo", slo }

def direction (p : Profile) : Direction := p.slo.direction

end Profile

end TuningAdvisor
