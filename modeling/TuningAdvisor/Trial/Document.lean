import TuningAdvisor.Profile.Document
import TuningAdvisor.Trial.Summary
/-!
# Trials as documents: `TrialResult` and `ExperimentSummary`
-/

namespace TuningAdvisor

open Doc (optionalField)

namespace Trial

def encode (t : Trial) : Doc :=
  .obj [("trial_number", .ofNat t.number), ("result", .str t.result)]

def reader : Record Trial :=
  .mk <$> .required "trial_number" Decode.count <*> .required "result" Decode.text

def decode : Decoder Trial := reader.decoder "TrialResult"

end Trial

namespace TrialSummary

def encode (s : TrialSummary) : Doc :=
  .obj ([("total_trials", .ofNat s.total), ("trials_completed", .ofNat s.completed),
      ("trials_ongoing", .ofNat s.ongoing), ("trials_passed", .ofNat s.passed),
      ("trials_failed", .ofNat s.failed), ("best_trial", .int s.bestTrial)]
    ++ optionalField "best_result" (s.best.map .ofFloat)
    ++ [("direction", .str s.direction.name)])

def reader : Record TrialSummary :=
  .mk <$> .required "total_trials" Decode.count <*> .required "trials_completed" Decode.count
    <*> .required "trials_ongoing" Decode.count <*> .required "trials_passed" Decode.count
    <*> .required "trials_failed" Decode.count <*> .required "best_trial" Decode.int64
    <*> .allowed "best_result" Decode.float <*> .required "direction" Direction.decode

def decode : Decoder TrialSummary := reader.decoder "ExperimentSummary"

end TrialSummary

end TuningAdvisor
