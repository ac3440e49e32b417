import TuningAdvisor.Config
import TuningAdvisor.Experiment
import TuningAdvisor.Profile.Store
/-!
# Rejections: `Rejection`, `MissingFields`, `lookup_profile`

Why a record is refused. A rejection is no failure of the program: it becomes the verdict that is
attached to the record.
-/

namespace TuningAdvisor

namespace Status

def created : Nat := 201

def badRequest : Nat := 400

def conflict : Nat := 409

def internalError : Nat := 500

end Status

inductive Rejection where
  | missingFields (names : List String)
  /-- The record breaks a rule. -/
  | invalid (reason : String)
  /-- There is such a record already. -/
  | conflict (reason : String)
  /-- The record could not be dealt with. -/
  | internal (reason : String)
deriving DecidableEq, Repr

def Verdict.accepted : Verdict := { success := true, status := Status.created }

namespace Rejection

def status : Rejection → Nat
  | .missingFields _ => Status.badRequest
  | .invalid _ => Status.badRequest
  | .conflict _ => Status.conflict
  | .internal _ => Status.internalError

def message : Rejection → String
  | .missingFields names => "Missing mandatory parameters: " ++ ", ".intercalate names
  | .invalid reason => reason
  | .conflict reason => reason
  | .internal reason => reason

def verdict (r : Rejection) : Verdict :=
  { success := false, message := some r.message, status := r.status }

/-! ## Reasons -/

def duplicateExperiment (name : String) : Rejection :=
  .conflict ("Experiment name already exists: " ++ name)

def profileAndSlo : Rejection :=
  .invalid "Either performance_profile or slo may be set, not both"

def profileNotFound (name : String) : Rejection :=
  .invalid ("Performance profile not found: " ++ name)

def profilesUnavailable (why : ProfileError) : Rejection :=
  .internal ("Performance profiles unavailable: " ++ why.message)

/-- The wording for a mode and a target cluster that do not go together. -/
def unsupportedModeText : String := "Unsupported mode / target_cluster combination"

def unsupportedMode (mode cluster : String) : Rejection :=
  .invalid (unsupportedModeText ++ ": mode=" ++ mode ++ ", target_cluster=" ++ cluster)

def invalidDuration (why : String) : Rejection :=
  .invalid ("Invalid measurement_duration: " ++ why)

def invalidTerm (term : String) : Rejection :=
  .invalid ("duration_in_days must be positive and at most 3650: " ++ term)

def experimentNotFound (name : String) : Rejection := .invalid ("Experiment not found: " ++ name)

def wrongTimestamps : Rejection := .invalid "The Start time should precede the End time!"

def durationMismatch (tolerance : Int) (declared : String) (seconds : Float) : Rejection :=
  .invalid
    ("Interval duration cannot be less than or greater than measurement_duration by more than "
      ++ toString tolerance ++ " seconds (measurement_duration " ++ declared ++ ", interval "
      ++ plain seconds ++ "s)")

def duplicateResult (experiment : String) (finish : Instant) : Rejection :=
  .conflict ("An entry for this record already exists: " ++ experiment ++ " ending at "
    ++ finish.toOffset)

def objectMismatch (problems : List String) : Rejection :=
  .invalid ("kubernetes_objects do not match the experiment: " ++ "; ".intercalate problems)

def noHandler (profile : String) : Rejection :=
  .internal ("No handler registered for performance profile: " ++ profile)

end Rejection

/-- The names of the fields whose requirement does not hold. -/
def missingFields (requirements : List (Bool × String)) : List String :=
  (requirements.filter fun r => !r.1).map (·.2)

/-- Whether a text is there and not blank. -/
def hasText (s : Option String) : Bool := s.any (!isBlankText ·)

/-- Where an experiment's profile comes from. -/
inductive ProfileChoice where
  /-- The experiment states its service level itself. -/
  | inline (p : Profile)
  | named (name : String)

namespace ProfileChoice

def find (profiles : ProfileStore) : ProfileChoice → Except Rejection Profile
  | .inline p => .ok p
  | .named name =>
    match profiles.find name with
    | .ok (some p) => .ok p
    | .ok none => .error (.profileNotFound name)
    | .error why => .error (.profilesUnavailable why)

/-- Whether the profile store has to be asked. -/
def isNamed : ProfileChoice → Bool
  | .inline _ => false
  | .named _ => true

end ProfileChoice

/-- The declared length of the result windows of an experiment. -/
def Experiment.measurementDuration (e : Experiment) (c : Config) : String :=
  (e.trialSettings.map (·.measurementDuration)).getD c.measurementDuration

end TuningAdvisor
