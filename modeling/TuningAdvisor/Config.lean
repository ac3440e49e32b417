import TuningAdvisor.Document.Decoder
/-!
# Configuration: `EngineConfig` and `BatchPolicy`

What the engine can be told: tolerances, defaults and limits. Every field has a default.
-/

namespace TuningAdvisor

inductive BatchPolicy where
  | haltOnFirstFailure
  | continue
deriving DecidableEq, Repr

structure Config where
  /-- How many seconds an interval may be off its declared length. -/
  toleranceSeconds : Int := 5
  /-- The length of an interval where an experiment declares none. -/
  measurementDuration : String := "15min"
  /-- The length of the recommendation term where an experiment declares none. -/
  termDays : Float := 1.0
  threadsPerCore : Float := 1.0
  minThreads : Nat := 1
  maxThreads : Nat := 100
  minHeapPercent : Float := 25.0
  maxHeapPercent : Float := 90.0
  /-- The native memory that one thread is taken to need, in mebibytes. -/
  threadMemoryMb : Float := 1.0
  batchPolicy : BatchPolicy := .haltOnFirstFailure

namespace BatchPolicy

def name : BatchPolicy → String
  | .haltOnFirstFailure => "halt_on_first_failure"
  | .continue => "continue"

def decode : Decoder BatchPolicy :=
  Decode.variant ([.haltOnFirstFailure, .continue].map fun p => (p.name, p))

end BatchPolicy

namespace Config

def encode (c : Config) : Doc :=
  .obj [ ("measurement_tolerance_secs", .int c.toleranceSeconds),
    ("default_measurement_duration", .str c.measurementDuration),
    ("default_term_days", .ofFloat c.termDays),
    ("thread_pool_multiplier", .ofFloat c.threadsPerCore),
    ("min_threads", .ofNat c.minThreads), ("max_threads", .ofNat c.maxThreads),
    ("min_heap_percent", .ofFloat c.minHeapPercent),
    ("max_heap_percent", .ofFloat c.maxHeapPercent),
    ("per_thread_memory_mb", .ofFloat c.threadMemoryMb),
    ("batch_policy", .str c.batchPolicy.name) ]

def record : Record Config :=
  let base : Config := {}
  .mk <$> .defaulted "measurement_tolerance_secs" Decode.int64 base.toleranceSeconds
    <*> .defaulted "default_measurement_duration" Decode.text base.measurementDuration
    <*> .defaulted "default_term_days" Decode.float base.termDays
    <*> .defaulted "thread_pool_multiplier" Decode.float base.threadsPerCore
    <*> .defaulted "min_threads" Decode.nat32 base.minThreads
    <*> .defaulted "max_threads" Decode.nat32 base.maxThreads
    <*> .defaulted "min_heap_percent" Decode.float base.minHeapPercent
    <*> .defaulted "max_heap_percent" Decode.float base.maxHeapPercent
    <*> .defaulted "per_thread_memory_mb" Decode.float base.threadMemoryMb
    <*> .defaulted "batch_policy" BatchPolicy.decode base.batchPolicy

def decode : Decoder Config := record.decoder "EngineConfig"

end Config

end TuningAdvisor
