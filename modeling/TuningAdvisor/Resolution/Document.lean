import TuningAdvisor.Layer.Document
import TuningAdvisor.Resolution.Report
/-!
# Reports as documents: `ResolutionReport`, `ResolvedTunable`, `Notification`

A report is written without its values; one that is read has none.
-/

namespace TuningAdvisor

open Doc (optionalField)

namespace Severity

def name : Severity → String
  | .info => "info"
  | .warning => "warning"
  | .error => "error"

def decode : Decoder Severity :=
  Decode.variant ([.info, .warning, .error].map fun s => (s.name, s))

end Severity

def NotificationKind.decode : Decoder NotificationKind :=
  Decode.variant (NotificationKind.all.map fun k => (k.name, k))

namespace Notification

def encode (n : Notification) : Doc :=
  .obj [ ("code", .ofNat n.code), ("kind", .str n.kind.name), ("severity", .str n.severity.name),
    ("tunable", n.tunable.encode), ("message", .str n.message) ]

def record : Record Notification :=
  .mk <$> .required "code" Decode.nat32 <*> .required "kind" NotificationKind.decode
    <*> .required "severity" Severity.decode <*> .required "tunable" TunableId.decode
    <*> .required "message" Decode.text

def decode : Decoder Notification := record.decoder "Notification"

end Notification

namespace Resolved

def encode (r : Resolved) : Doc :=
  .obj ([("spec", r.id.encode), ("env", r.entry.encode)]
    ++ optionalField "value" (r.value.map .ofFloat) ++ [("seeded", .bool r.seeded)])

def record : Record Resolved :=
  .mk <$> .required "spec" TunableId.decode <*> .required "env" EnvEntry.decode
    <*> .allowed "value" Decode.float <*> .defaulted "seeded" Decode.bool false

def decode : Decoder Resolved := record.decoder "ResolvedTunable"

end Resolved

namespace Report

def encode (r : Report) : Doc :=
  .obj [ ("recommendations", .arr (r.recommendations.map Resolved.encode)),
    ("notifications", .arr (r.notifications.map Notification.encode)) ]

def record : Record Report :=
  (fun recommendations notifications => { recommendations, notifications, values := ∅ })
    <$> .required "recommendations" (Decode.list Resolved.decode)
    <*> .required "notifications" (Decode.list Notification.decode)

def decode : Decoder Report := record.decoder "ResolutionReport"

end Report

end TuningAdvisor
