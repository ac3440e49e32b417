import TuningAdvisor.Config
import TuningAdvisor.Recommendation.Handler
/-!
# Batches: `BatchReport` and the loops of `create_experiments` and `update_results`

A batch deals with items one after the other. What happens behind an item that fails is a matter of
the policy: **a batch that halts has done what one that continues does up to that item**.
-/

namespace TuningAdvisor

structure BatchItem where
  experiment : String
  finish : Option String := none
  verdict : Verdict
  counts : Option RecommendationCounts := none

structure BatchReport where
  items : List BatchItem := []
  /-- How many items were left alone behind a failing one. -/
  skipped : Nat := 0

namespace BatchReport

def succeeded (r : BatchReport) : Nat := (r.items.filter (·.verdict.success)).length

def failed (r : BatchReport) : Nat := r.items.length - r.succeeded

def halted (r : BatchReport) : Bool := 0 < r.skipped

def isSuccess (r : BatchReport) : Bool := r.failed == 0 && !r.halted

end BatchReport

/-- Deals with items one after the other, each in the state that the one before has left. -/
def runBatch {σ α : Type} (policy : BatchPolicy) (step : σ → α → BatchItem × σ) :
    List α → σ → BatchReport × σ
  | [], state => ({}, state)
  | a :: rest, state =>
    let (item, state) := step state a
    if !item.verdict.success && policy == .haltOnFirstFailure then
      ({ items := [item], skipped := rest.length }, state)
    else
      let (report, state) := runBatch policy step rest state
      ({ report with items := item :: report.items }, state)

end TuningAdvisor
