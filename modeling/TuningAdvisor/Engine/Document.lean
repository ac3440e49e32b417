import TuningAdvisor.Engine.Batch
import TuningAdvisor.Experiment.Document
/-!
# Batch reports as documents: `BatchReport`, `BatchItem`, `RecommendationSummary`
-/

namespace TuningAdvisor

open Doc (optionalField)

namespace RecommendationCounts

def encode (c : RecommendationCounts) : Doc :=
  .obj [ ("containers", .ofNat c.containers), ("recommendations", .ofNat c.recommendations),
    ("notifications", .ofNat c.notifications) ]

end RecommendationCounts

namespace BatchItem

def encode (i : BatchItem) : Doc :=
  .obj ([("experiment_name", .str i.experiment)]
    ++ optionalField "interval_end_time" (i.finish.map .str)
    ++ [("validation_data", i.verdict.encode)]
    ++ optionalField "recommendations" (i.counts.map RecommendationCounts.encode))

end BatchItem

def BatchReport.fields (r : BatchReport) : List (String × Doc) :=
  [("items", .arr (r.items.map BatchItem.encode)), ("skipped", .ofNat r.skipped)]

def BatchReport.encode (r : BatchReport) : Doc := .obj r.fields

end TuningAdvisor
