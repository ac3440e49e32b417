import TuningAdvisor.Layer
import TuningAdvisor.Recommendation.Collector
/-!
# The built-in layers: `builtin_layers` and `LayerCatalog::with_builtin_layers`

The container, the two Java runtimes and the Quarkus framework, with their tunables.
-/

namespace TuningAdvisor

namespace LayerName

def container : String := "container"

def hotspot : String := "hotspot"

def semeru : String := "semeru"

def quarkus : String := "quarkus"

end LayerName

namespace TunableName

def cpuLimit : String := "cpuLimit"

def memoryLimit : String := "memoryLimit"

def maxRamPercentage : String := "MaxRAMPercentage"

def gcPolicy : String := "GCPolicy"

def coreThreads : String := "quarkus.thread-pool.core-threads"

end TunableName

namespace TunableId

def cpuLimit : TunableId := { layer := LayerName.container, name := TunableName.cpuLimit }

def memoryLimit : TunableId := { layer := LayerName.container, name := TunableName.memoryLimit }

end TunableId

namespace Layer

/-- The service levels that the container's tunables bear on. -/
def containerSloClasses : List String := ["throughput", "response_time", "resource_usage"]

/-- The service levels that the other tunables bear on. -/
def runtimeSloClasses : List String := ["throughput", "response_time"]

def container : Layer where
  name := LayerName.container
  level := 0
  details := some "container resource limits"
  presence := .always "always"
  tunables :=
    [ { name := TunableName.cpuLimit
        valueType := .double
        domain := .numeric 0.1 64.0 0.1
        sloClasses := containerSloClasses
        description := some "container CPU limit in cores" },
      { name := TunableName.memoryLimit
        valueType := .double
        domain := .numeric 134217728.0 274877906944.0 1048576.0
        sloClasses := containerSloClasses
        description := some "container memory limit in bytes" } ]

/-- A Java runtime: the heap percentage, and the collector once the percentage is known. -/
def javaRuntime (name : String) (presence : Presence) (flag : Collector → String) : Layer where
  name
  level := 1
  details := some (name ++ " JVM runtime")
  presence
  tunables :=
    [ { name := TunableName.maxRamPercentage
        valueType := .double
        domain := .numeric 25.0 90.0 1.0
        sloClasses := runtimeSloClasses
        dependsOn := [.cpuLimit, .memoryLimit] },
      { name := TunableName.gcPolicy
        valueType := .categorical
        domain := .categorical (Collector.all.map flag)
        sloClasses := runtimeSloClasses
        dependsOn :=
          [.cpuLimit, .memoryLimit, { layer := name, name := TunableName.maxRamPercentage }] } ]

/-- The Hotspot runtime, recognised by its information metric. -/
def hotspot : Layer :=
  javaRuntime LayerName.hotspot
    (.reported [{ datasource := "prometheus", query := "jvm_info", key := "jvmInfo" }])
    Collector.hotspotFlag

/-- The Semeru runtime, recognised by the labels of its vendor. -/
def semeru : Layer :=
  javaRuntime LayerName.semeru
    (.labelled [ { name := "runtime", value := "semeru" }, { name := "vendor", value := "openj9" },
      { name := "vendor", value := "ibm" } ])
    Collector.semeruFlag

/-- The Quarkus framework, recognised by the metric of its thread pool. -/
def quarkus : Layer where
  name := LayerName.quarkus
  level := 2
  details := some "quarkus application framework"
  presence := .reported
    [ { datasource := "prometheus", query := "quarkus_thread_pool_active_count",
        key := "quarkusThreadPoolActive" } ]
  tunables :=
    [ { name := TunableName.coreThreads
        valueType := .integer
        domain := .numeric 1.0 100.0 1.0
        sloClasses := runtimeSloClasses
        dependsOn := [.cpuLimit] } ]

def builtin : List Layer := [container, hotspot, semeru, quarkus]

end Layer

def Catalog.builtin : Catalog := Layer.builtin.foldl Catalog.insert {}

end TuningAdvisor
