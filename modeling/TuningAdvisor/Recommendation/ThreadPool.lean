import TuningAdvisor.Config
import TuningAdvisor.Number.Binary64
/-!
# Thread pools: `QuarkusGenerator::thread_count`

A pool has a number of threads per core, rounded up, within limits. An upper limit below the lower
one counts as the lower one.
-/

namespace TuningAdvisor

/-- How a thread pool grows with the cores. -/
structure ThreadPool where
  perCore : Float
  least : Nat
  most : Nat

namespace ThreadPool

def ofConfig (c : Config) : ThreadPool where
  perCore := c.threadsPerCore
  least := c.minThreads
  most := max c.minThreads c.maxThreads

def threads (p : ThreadPool) (cores : Float) : Nat :=
  let wanted := Binary64.toNat32 (Binary64.max (Binary64.ceil (cores * p.perCore)) 0.0)
  max p.least (min p.most wanted)

end ThreadPool

end TuningAdvisor
