import TuningAdvisor.Number.Binary64
/-!
# Garbage collectors: `select_gc_policy` and `GcPolicyClass`

The choice depends on three things: whole cores, the heap in mebibytes and the major version of the
Java runtime. Each runtime has its own flag for every choice.
-/

namespace TuningAdvisor

inductive Collector where
  | serial
  | parallel
  | lowestLatency
  | lowLatency
  | balanced
deriving DecidableEq, Repr

namespace Collector

/-- The heap that separates small ones from large ones, in mebibytes. -/
def largeHeapMb : Float := 4096.0

/-- The choice. A large heap gets a collector with short pauses where the runtime has one. -/
def choose (cores : Nat) (heapMb : Float) (major : Option Nat) : Collector :=
  if cores ≤ 1 then .serial
  else if cores ≤ 2 ∧ heapMb ≤ largeHeapMb then .parallel
  else if largeHeapMb ≤ heapMb then
    match major with
    | some v => if 17 ≤ v then .lowestLatency else if 11 ≤ v then .lowLatency else .balanced
    | none => .balanced
  else .balanced

/-- Whole cores: the share rounded up, at least one. -/
def wholeCores (cpu : Float) : Nat := Binary64.toNat32 (Binary64.max (Binary64.ceil cpu) 1.0)

def name : Collector → String
  | .serial => "serial"
  | .parallel => "parallel"
  | .lowestLatency => "lowest_latency"
  | .lowLatency => "low_latency"
  | .balanced => "balanced"

/-- All choices, in the order in which catalogs list their flags. -/
def all : List Collector := [.serial, .parallel, .lowestLatency, .lowLatency, .balanced]

def hotspotFlag : Collector → String
  | .serial => "-XX:+UseSerialGC"
  | .parallel => "-XX:+UseParallelGC"
  | .lowestLatency => "-XX:+UseZGC"
  | .lowLatency => "-XX:+UseShenandoahGC"
  | .balanced => "-XX:+UseG1GC"

def semeruFlag : Collector → String
  | .serial => "-Xgcpolicy:optthruput -Xgcthreads1"
  | .parallel => "-Xgcpolicy:optthruput"
  | .lowestLatency => "-Xgcpolicy:metronome"
  | .lowLatency => "-Xgcpolicy:optavgpause"
  | .balanced => "-Xgcpolicy:gencon"

end Collector

end TuningAdvisor
