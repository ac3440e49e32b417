import TuningAdvisor.Config
import TuningAdvisor.Interval
import TuningAdvisor.Quantity
/-!
# Heap sizing: `MemorySizing`

The share of a container's memory that the heap may take. From the size of the container alone it
is a table look-up less a deduction for few cores. With measurements it is what the native memory
and a safety buffer leave over, at least the configured minimum and **at most the table's value and
the configured maximum**. Native memory below ten mebibytes counts as not measured.
-/

namespace TuningAdvisor

inductive SizingMode where
  | static
  | dynamic
deriving DecidableEq, Repr

def SizingMode.name : SizingMode → String
  | .static => "static"
  | .dynamic => "dynamic"

/-- The limits of the heap percentage and the memory that a thread is taken to need. -/
structure HeapSizing (α : Type) where
  minPercent : α
  maxPercent : α
  threadMemoryMb : α

namespace HeapSizing

/-- The metric of memory used outside the heap, in bytes. -/
def nonHeapMetric : String := "jvmMemoryNonHeapUsed"

def threadMetric : String := "jvmThreadsLive"

/-- The metric of direct buffers, in bytes. -/
def directMetric : String := "jvmBufferDirectUsed"

/-- Heap percentages by the largest container, in mebibytes, that gets them. -/
def buckets : List (Nat × Nat) := [(256, 50), (512, 60), (4096, 75), (8192, 80)]

def topBucket : Nat := 85

/-- Hundredths of the container kept free, by the largest container that has to. -/
def bufferTiers : List (Nat × Nat) := [(1024, 10), (4096, 7), (8192, 5)]

def topTier : Nat := 3

variable {α : Type} [Arithmetic α]

open Arithmetic

def ofConfig (c : Config) : HeapSizing α where
  minPercent := ofFloat c.minHeapPercent
  maxPercent := ofFloat c.maxHeapPercent
  threadMemoryMb := ofFloat c.threadMemoryMb

/-- The entry of the first limit that is not exceeded. -/
def tierOf (memoryMb : α) (tiers : List (Nat × Nat)) (top : Nat) : Nat :=
  ((tiers.find? fun tier => le memoryMb (ofNat tier.1)).map (·.2)).getD top

/-- The percentage points that few cores cost. -/
def deduction (cores : α) : Nat :=
  if lt cores (ofNat 1) then 10 else if lt cores (ofNat 2) then 5 else 0

/-- The percentage from the size of the container alone. -/
def staticPercentage (s : HeapSizing α) (memoryMb cores : α) : α :=
  max (ofNat (tierOf memoryMb buckets topBucket) - ofNat (deduction cores)) s.minPercent

/-- The memory kept free: fifty mebibytes and a share of the container. -/
def safetyBufferMb (memoryMb : α) : α :=
  let share : Decimal :=
    { negative := false, mantissa := tierOf memoryMb bufferTiers topTier, exponent := -2 }
  ofNat 50 + memoryMb * ofDecimal share

/-- The native memory in mebibytes, `none` when no interval has any part of it. -/
def footprintMb? (s : HeapSizing α) (h : History) : Option α :=
  if !h.values.any (·.hasMetrics) then none
  else
    match h.maxPeak? nonHeapMetric, h.maxPeak? threadMetric, h.maxPeak? directMetric with
    | none, none, none => none
    | nonHeap, threads, direct =>
      let measured (peak : Option Float) : α := ofFloat (peak.getD 0.0)
      some (Quantity.bytesToMb (measured nonHeap) + measured threads * s.threadMemoryMb
        + Quantity.bytesToMb (measured direct))

def roundTenth (x : α) : α := round (x * ofNat 10) / ofNat 10

/-- The percentage that a measured footprint leaves over. -/
def dynamicPercentage (s : HeapSizing α) (memoryMb cores footprint : α) : α :=
  let heap := memoryMb - footprint - safetyBufferMb memoryMb
  let raw := heap / memoryMb * ofNat 100
  roundTenth (min (min (max raw s.minPercent) (s.staticPercentage memoryMb cores)) s.maxPercent)

def percentage (s : HeapSizing α) (memoryMb cores : α) (h : History) : α × SizingMode :=
  match s.footprintMb? h with
  | some footprint =>
    if le (ofNat 10) footprint then (s.dynamicPercentage memoryMb cores footprint, .dynamic)
    else (s.staticPercentage memoryMb cores, .static)
  | none => (s.staticPercentage memoryMb cores, .static)

end HeapSizing

end TuningAdvisor
