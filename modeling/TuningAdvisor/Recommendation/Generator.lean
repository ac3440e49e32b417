import TuningAdvisor.Layer.Builtin
import TuningAdvisor.Recommendation.Env
import TuningAdvisor.Recommendation.HeapSizing
import TuningAdvisor.Recommendation.JavaLabels
import TuningAdvisor.Recommendation.ThreadPool
/-!
# Generators: `LayerGenerator`, `GenerationContext`, `GeneratorRegistry`

A generator makes the recommendations for the tunables of one layer, from the values of the tunables
that were settled before and from the container's history. It may have nothing to say. **The only
thing that one generation leaves behind for the next is `RunState`**: whether a Java runtime has
been given its server flag.
-/

namespace TuningAdvisor

/-- The values of the tunables that are settled: cores, bytes or per cent. -/
abbrev Values := SortedMap TunableId Float

/-- What the generations of one run share. -/
structure RunState where
  /-- Whether the server flag has been given out. -/
  serverFlag : Bool := false
deriving DecidableEq, Repr

/-- Makes the recommendations for the tunables of one layer. -/
structure Generator where
  layer : String
  tunables : List String
  generate : (tunable : String) → Values → History → RunState → Option EnvEntry × RunState

namespace Generator

def supports (g : Generator) (tunable : String) : Bool := g.tunables.contains tunable

/-! ## The container -/

/-- The observed peak of a limit: cores to the nearest thousandth, bytes to the nearest byte. -/
def containerSetting? (tunable : String) (h : History) : Option EnvEntry :=
  match h.latestPeak? tunable with
  | some peak =>
    if 0.0 < peak then
      let value :=
        if tunable = TunableName.cpuLimit then plain (Binary64.round (peak * 1000.0) / 1000.0)
        else fixed 0 peak
      some { name := tunable, value }
    else none
  | none => none

def container : Generator where
  layer := LayerName.container
  tunables := [TunableName.cpuLimit, TunableName.memoryLimit]
  generate tunable _ h state :=
    if [TunableName.cpuLimit, TunableName.memoryLimit].contains tunable then
      (containerSetting? tunable h, state)
    else (none, state)

/-! ## Java runtimes -/

structure ContainerLimits where
  cores : Float
  memoryMb : Float

/-- The limits, once both are settled and neither is zero or less. -/
def containerLimits? (values : Values) : Option ContainerLimits :=
  match values.get? .cpuLimit, values.get? .memoryLimit with
  | some cores, some bytes =>
    if cores ≤ 0.0 || bytes ≤ 0.0 then none
    else some { cores, memoryMb := Quantity.bytesToMb bytes }
  | _, _ => none

/-- The heap percentage, with one place. -/
def heapSetting? (sizing : HeapSizing Float) (values : Values) (h : History) : Option EnvEntry :=
  (containerLimits? values).map fun limits =>
    { name := TunableName.maxRamPercentage
      value :=
        "-XX:MaxRAMPercentage=" ++ fixed 1 (sizing.percentage limits.memoryMb limits.cores h).1 }

/-- The flag of the collector for the heap that the percentage gives. -/
def collectorSetting? (layer : String) (flag : Collector → String) (values : Values)
    (labels : JavaLabels) : Option EnvEntry := do
  let limits ← containerLimits? values
  let percent ← values.get? { layer, name := TunableName.maxRamPercentage }
  let heapMb := limits.memoryMb * percent / 100.0
  let choice := Collector.choose (Collector.wholeCores limits.cores) heapMb labels.major?
  return { name := TunableName.gcPolicy, value := flag choice }

/-- The last major version that needs the server flag. -/
def lastServerFlagMajor : Nat := 8

def serverFlag : String := "-server"

def needsServerFlag (labels : JavaLabels) : Bool := labels.major?.any (· ≤ lastServerFlagMajor)

/-- The entry with the server flag in front, if the runtime needs it and no entry before had it. -/
def withServerFlag (labels : JavaLabels) (e : EnvEntry) (state : RunState) : EnvEntry × RunState :=
  if needsServerFlag labels && !state.serverFlag then
    (e.withFlag serverFlag, { state with serverFlag := true })
  else (e, state)

def java (layer : String) (flag : Collector → String) (sizing : HeapSizing Float) : Generator where
  layer
  tunables := [TunableName.maxRamPercentage, TunableName.gcPolicy]
  generate tunable values h state :=
    let labels := JavaLabels.ofHistory h
    let made? :=
      if tunable = TunableName.maxRamPercentage then heapSetting? sizing values h
      else if tunable = TunableName.gcPolicy then collectorSetting? layer flag values labels
      else none
    match made? with
    | some e =>
      let (e, state) := withServerFlag labels e state
      (some e, state)
    | none => (none, state)

/-! ## The framework -/

/-- The thread pool's size, for a processor limit above zero. -/
def threadsSetting? (pool : ThreadPool) (values : Values) : Option EnvEntry :=
  match values.get? .cpuLimit with
  | some cores =>
    if cores ≤ 0.0 then none
    else
      some { name := TunableName.coreThreads
             value := "-D" ++ TunableName.coreThreads ++ "=" ++ toString (pool.threads cores) }
  | none => none

def quarkus (pool : ThreadPool) : Generator where
  layer := LayerName.quarkus
  tunables := [TunableName.coreThreads]
  generate tunable values _ state :=
    (if tunable = TunableName.coreThreads then threadsSetting? pool values else none, state)

end Generator

/-! ## Registries -/

abbrev GeneratorRegistry := SortedMap String Generator

namespace GeneratorRegistry

def ofGenerators (gs : List Generator) : GeneratorRegistry := .ofList (gs.map fun g => (g.layer, g))

def builtin (c : Config) : GeneratorRegistry :=
  let sizing := HeapSizing.ofConfig c
  ofGenerators
    [ Generator.container, Generator.java LayerName.hotspot Collector.hotspotFlag sizing,
      Generator.java LayerName.semeru Collector.semeruFlag sizing,
      Generator.quarkus (ThreadPool.ofConfig c) ]

end GeneratorRegistry

end TuningAdvisor
