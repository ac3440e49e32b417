import TuningAdvisor.Tunable
/-!
# Notifications: `NotificationCode` and `Notification`

A requested tunable that gets no recommendation gets a notification. `SkipCause` has one constructor
for each way of getting none.
-/

namespace TuningAdvisor

/-- How much a notification matters. -/
inductive Severity where
  | info
  | warning
  | error
deriving DecidableEq, Repr

inductive NotificationKind where
  | missingDependency
  | noGenerator
  | unknownTunable
  | insufficientData
  | dependencyCycle
  | layerOrderViolation
deriving DecidableEq, Repr

namespace NotificationKind

/-- All kinds, by their codes. -/
def all : List NotificationKind :=
  [.missingDependency, .noGenerator, .unknownTunable, .insufficientData, .dependencyCycle,
    .layerOrderViolation]

def code : NotificationKind → Nat
  | .missingDependency => 1001
  | .noGenerator => 1002
  | .unknownTunable => 1003
  | .insufficientData => 1004
  | .dependencyCycle => 1005
  | .layerOrderViolation => 1006

def name : NotificationKind → String
  | .missingDependency => "missing_dependency"
  | .noGenerator => "no_generator"
  | .unknownTunable => "unknown_tunable"
  | .insufficientData => "insufficient_data"
  | .dependencyCycle => "dependency_cycle"
  | .layerOrderViolation => "layer_order_violation"

def severity : NotificationKind → Severity
  | .insufficientData => .info
  | .missingDependency => .warning
  | _ => .error

end NotificationKind

/-- Says why a tunable has no recommendation. -/
structure Notification where
  code : Nat
  kind : NotificationKind
  severity : Severity
  tunable : TunableId
  message : String
deriving DecidableEq, Repr

/-- A notification of a kind, with the code and the severity of the kind. -/
def Notification.of (kind : NotificationKind) (tunable : TunableId) (message : String) :
    Notification where
  code := kind.code
  kind
  severity := kind.severity
  tunable
  message

/-- Why a requested tunable gets no recommendation. -/
inductive SkipCause where
  | undefined
  /-- It depends on a tunable of a layer of a higher level. -/
  | higherLayer (dependency : TunableId)
  /-- It is reached by following dependencies from itself, or depends on one that is. -/
  | cycle
  /-- Tunables that it depends on have no value. -/
  | missing (prerequisites : List TunableId)
  | noGenerator
  | unsupported
  | noData
deriving DecidableEq, Repr

namespace SkipCause

def kind : SkipCause → NotificationKind
  | .undefined => .unknownTunable
  | .higherLayer _ => .layerOrderViolation
  | .cycle => .dependencyCycle
  | .missing _ => .missingDependency
  | .noGenerator => .noGenerator
  | .unsupported => .unknownTunable
  | .noData => .insufficientData

def message (id : TunableId) : SkipCause → String
  | .undefined => "Tunable " ++ id.toText ++ " is not defined in any known layer"
  | .higherLayer dependency =>
    "Tunable " ++ id.toText ++ " depends on " ++ dependency.toText ++ " from a higher layer level"
  | .cycle => "Tunable " ++ id.toText ++ " is part of a dependency cycle"
  | .missing prerequisites =>
    "Tunable " ++ id.toText ++ " skipped: missing prerequisite(s) "
      ++ ", ".intercalate (prerequisites.map TunableId.toText)
  | .noGenerator => "No recommendation generator for layer " ++ id.layer
  | .unsupported => "Layer " ++ id.layer ++ " cannot recommend tunable " ++ id.name
  | .noData => "Insufficient data to recommend " ++ id.toText

def notification (id : TunableId) (c : SkipCause) : Notification := .of c.kind id (c.message id)

end SkipCause

end TuningAdvisor
