import TuningAdvisor.Profile
import TuningAdvisor.Text.Blank
/-!
# The built-in profiles: `builtin_profiles`, `UseCase` and `default_profile_name`

Two profiles of resource usage, one for each way of monitoring, and one of response times for local
experiments. How an experiment is run decides which of them it gets when it names none.
-/

namespace TuningAdvisor

namespace ProfileName

def remoteMonitoring : String := "resource-optimization-openshift"

def localMonitoring : String := "resource-optimization-local-monitoring"

def localExperiment : String := "default"

def builtin : List String := [remoteMonitoring, localMonitoring, localExperiment]

end ProfileName

inductive UseCase where
  | remoteMonitoring
  | localMonitoring
  | localExperiment
deriving DecidableEq, Repr

namespace UseCase

/-- The use case of a mode and a target cluster, in any letter case. -/
def of? (mode cluster : String) : Option UseCase :=
  match lowerText mode, lowerText cluster with
  | "monitor", "remote" => some .remoteMonitoring
  | "monitor", "local" => some .localMonitoring
  | "experiment", "local" => some .localExperiment
  | _, _ => none

/-- Whether results come in without trials. -/
def isMonitoring (u : UseCase) : Bool := u != .localExperiment

def name : UseCase → String
  | .remoteMonitoring => "remote_monitoring"
  | .localMonitoring => "local_monitoring"
  | .localExperiment => "local_experiment"

/-- The profile of experiments that name neither a profile nor a service level. -/
def defaultProfile : UseCase → String
  | .remoteMonitoring => ProfileName.remoteMonitoring
  | .localMonitoring => ProfileName.localMonitoring
  | .localExperiment => ProfileName.localExperiment

end UseCase

namespace Profile

/-- A metric that every container reports, with its aggregation functions. -/
def containerMetric (name : String) (functions : List String) : SloMetric where
  name
  datasource := "prometheus"
  valueType := "double"
  kubernetesObject := some "container"
  functions := functions.map fun f => { name := f }

def resourceUsage : Slo where
  sloClass := some "resource_usage"
  objective := some { kind := "source" }
  metrics :=
    [ containerMetric "cpuRequest" ["avg", "sum"],
      containerMetric "cpuLimit" ["avg", "sum"],
      containerMetric "cpuUsage" ["avg", "max", "min", "sum"],
      containerMetric "cpuThrottle" ["avg", "max", "sum"],
      containerMetric "memoryRequest" ["avg", "sum"],
      containerMetric "memoryLimit" ["avg", "sum"],
      containerMetric "memoryUsage" ["avg", "max", "min", "sum"],
      containerMetric "memoryRSS" ["avg", "max", "min", "sum"] ]

/-- A metric of the application as a whole. -/
def requestMetric (name : String) : SloMetric where
  name
  datasource := "prometheus"
  valueType := "double"

def responseTime : Slo where
  sloClass := some "response_time"
  objective := some { kind := "expression", expression := some "request_sum/request_count" }
  metrics := [requestMetric "request_sum", requestMetric "request_count"]

def builtin : List Profile :=
  [ { name := ProfileName.remoteMonitoring, kubernetesType := some "openshift",
      slo := resourceUsage },
    { name := ProfileName.localMonitoring, kubernetesType := some "minikube",
      slo := resourceUsage },
    { name := ProfileName.localExperiment, slo := responseTime } ]

end Profile

end TuningAdvisor
