import TuningAdvisor.Experiment
import TuningAdvisor.Number.Decimal
import TuningAdvisor.Profile.Document
import TuningAdvisor.Resolution.Document
/-!
# Experiments and results as documents: `Experiment`, `ExperimentResultData`, `number_or_string`

A definition is read without its histories: what a document holds of them is passed over, and a
fresh experiment has none. They are written once there is something to write.
-/

namespace TuningAdvisor

open Doc (optionalField)

/-- A map under instants as a field that is left out when it is empty. -/
def instantsField {ν : Type} (name : String) (encode : ν → Doc) (m : SortedMap Instant ν) :
    List (String × Doc) :=
  if m.isEmpty then [] else [(name, .obj (m.entries.map fun (t, v) => (t.toZulu, encode v)))]

namespace Verdict

def encode (v : Verdict) : Doc :=
  .obj ([("success", .bool v.success)] ++ optionalField "message" (v.message.map .str)
    ++ [("http_status_code", .ofNat v.status)])

def record : Record Verdict :=
  .mk <$> .required "success" Decode.bool <*> .optional "message" Decode.text
    <*> .required "http_status_code" Decode.nat16

def decode : Decoder Verdict := record.decoder "ValidationOutputData"

end Verdict

namespace Selector

def encode (s : Selector) : Doc :=
  .obj (optionalField "matchLabel" (s.matchLabel.map .str)
    ++ optionalField "matchLabelValue" (s.matchLabelValue.map .str)
    ++ optionalField "matchRoute" (s.matchRoute.map .str)
    ++ optionalField "matchUri" (s.matchUri.map .str)
    ++ optionalField "matchService" (s.matchService.map .str))

def record : Record Selector :=
  .mk <$> .optional "matchLabel" Decode.text <*> .optional "matchLabelValue" Decode.text
    <*> .optional "matchRoute" Decode.text <*> .optional "matchUri" Decode.text
    <*> .optional "matchService" Decode.text

def decode : Decoder Selector := record.decoder "Selector"

end Selector

namespace TrialSettings

def encode (s : TrialSettings) : Doc :=
  .obj [("measurement_duration", .str s.measurementDuration)]

def record : Record TrialSettings := .mk <$> .required "measurement_duration" Decode.text

def decode : Decoder TrialSettings := record.decoder "TrialSettings"

end TrialSettings

/-- A number, or a text that has the form of one. -/
def decodeThreshold : Decoder Float :=
  let forms : List (Decoder (Float ⊕ String)) := [.inl <$> Decode.float, .inr <$> Decode.text]
  Decode.refine (Decode.oneOf "Raw" forms) fun
    | .inl x => .ok x
    | .inr s =>
      match readFloat? (trimText s) with
      | some x => .ok x
      | none => .error ("invalid threshold " ++ quoted s)

namespace RecommendationSettings

def encodeTerm (days : Float) : Doc := .obj [("duration_in_days", .ofFloat days)]

def encode (s : RecommendationSettings) : Doc :=
  .obj (optionalField "threshold" (s.threshold.map .ofFloat)
    ++ if s.terms.isEmpty then []
      else [("terms", .obj (s.terms.entries.map fun (name, days) => (name, encodeTerm days)))])

def termRecord : Record Float := .required "duration_in_days" Decode.float

def record : Record RecommendationSettings :=
  .mk <$> .optional "threshold" decodeThreshold
    <*> .defaulted "terms" (Decode.map (termRecord.decoder "TermSettings")) ∅

def decode : Decoder RecommendationSettings := record.decoder "RecommendationSettings"

end RecommendationSettings

namespace TermRecommendation

def encode (r : TermRecommendation) : Doc :=
  .obj ([("duration_in_days", .ofFloat r.days), ("intervals", .ofNat r.intervals),
      ("detected_layers", .ofTexts r.layers), ("config", .arr (r.entries.map EnvEntry.encode))]
    ++ itemsField "notifications" Notification.encode r.notifications)

end TermRecommendation

def TermRecommendations.encode (rs : TermRecommendations) : Doc :=
  .obj (rs.entries.map fun (term, r) => (term, r.encode))

namespace Container

def encode (c : Container) : Doc :=
  .obj (optionalField "container_image_name" (c.image.map .str)
    ++ [("container_name", .str c.name)] ++ itemsField "metrics" SloMetric.encode c.metrics
    ++ instantsField "results" Interval.encode c.results
    ++ instantsField "recommendations" TermRecommendations.encode c.recommendations)

def record : Record Container :=
  (fun image name metrics => { image, name, metrics })
    <$> .optional "container_image_name" Decode.text <*> .required "container_name" Decode.text
    <*> .defaulted "metrics" (Decode.list SloMetric.decode) []

def decode : Decoder Container := record.decoder "ContainerData"

end Container

namespace KubernetesObject

def encode (o : KubernetesObject) : Doc :=
  .obj (optionalField "type" (o.kind.map .str)
    ++ [("name", .str o.name), ("namespace", .str o.space),
      ("containers", .arr (o.containers.map Container.encode))])

def record : Record KubernetesObject :=
  .mk <$> .optional "type" Decode.text <*> .required "name" Decode.text
    <*> .defaulted "namespace" Decode.text ""
    <*> .defaulted "containers" (Decode.list Container.decode) []

def decode : Decoder KubernetesObject := record.decoder "K8sObject"

end KubernetesObject

namespace Experiment

def encode (e : Experiment) : Doc :=
  .obj (optionalField "version" (e.version.map .str)
    ++ optionalField "experiment_name" (e.declaredName.map .str)
    ++ optionalField "cluster_name" (e.clusterName.map .str)
    ++ optionalField "mode" (e.mode.map .str)
    ++ optionalField "target_cluster" (e.targetCluster.map .str)
    ++ optionalField "performance_profile" (e.profile.map .str)
    ++ optionalField "slo" (e.slo.map Slo.encode)
    ++ optionalField "selector" (e.selector.map Selector.encode)
    ++ [("kubernetes_objects", .arr (e.objects.map KubernetesObject.encode))]
    ++ optionalField "trial_settings" (e.trialSettings.map TrialSettings.encode)
    ++ optionalField "recommendation_settings"
      (e.recommendationSettings.map RecommendationSettings.encode)
    ++ instantsField "result_windows" Instant.encode e.windows
    ++ optionalField "validation_data" (e.verdict.map Verdict.encode))

def record : Record Experiment :=
  (fun version declaredName clusterName mode targetCluster profile slo selector objects
      trialSettings recommendationSettings verdict =>
    { version, declaredName, clusterName, mode, targetCluster, profile, slo, selector, objects,
      trialSettings, recommendationSettings, verdict })
    <$> .optional "version" Decode.text <*> .optional "experiment_name" Decode.text
    <*> .optional "cluster_name" Decode.text <*> .optional "mode" Decode.text
    <*> .optional "target_cluster" Decode.text <*> .optional "performance_profile" Decode.text
    <*> .optional "slo" Slo.decode <*> .optional "selector" Selector.decode
    <*> .defaulted "kubernetes_objects" (Decode.list KubernetesObject.decode) []
    <*> .optional "trial_settings" TrialSettings.decode
    <*> .optional "recommendation_settings" RecommendationSettings.decode
    <*> .optional "validation_data" Verdict.decode

def decode : Decoder Experiment := record.decoder "Experiment"

end Experiment

/-! ## Results -/

namespace ReportedMetric

def encode (m : ReportedMetric) : Doc :=
  .obj [("name", .str m.name), ("results", m.measurement.encode)]

def record : Record ReportedMetric :=
  .mk <$> .required "name" Decode.text <*> .defaulted "results" Measurement.decode {}

def decode : Decoder ReportedMetric := record.decoder "ResultMetric"

end ReportedMetric

namespace ReportedContainer

def encode (c : ReportedContainer) : Doc :=
  .obj (optionalField "container_image_name" (c.image.map .str)
    ++ [("container_name", .str c.name), ("metrics", .arr (c.metrics.map ReportedMetric.encode))])

def record : Record ReportedContainer :=
  .mk <$> .optional "container_image_name" Decode.text <*> .required "container_name" Decode.text
    <*> .defaulted "metrics" (Decode.list ReportedMetric.decode) []

def decode : Decoder ReportedContainer := record.decoder "ResultContainer"

end ReportedContainer

namespace ReportedObject

def encode (o : ReportedObject) : Doc :=
  .obj (optionalField "type" (o.kind.map .str)
    ++ [("name", .str o.name), ("namespace", .str o.space),
      ("containers", .arr (o.containers.map ReportedContainer.encode))])

def record : Record ReportedObject :=
  .mk <$> .optional "type" Decode.text <*> .required "name" Decode.text
    <*> .defaulted "namespace" Decode.text ""
    <*> .defaulted "containers" (Decode.list ReportedContainer.decode) []

def decode : Decoder ReportedObject := record.decoder "ResultK8sObject"

end ReportedObject

namespace Submission

def encode (s : Submission) : Doc :=
  .obj (optionalField "version" (s.version.map .str)
    ++ optionalField "experiment_name" (s.declaredName.map .str)
    ++ optionalField "interval_start_time" (s.start.map Instant.encode)
    ++ optionalField "interval_end_time" (s.finish.map Instant.encode)
    ++ [("kubernetes_objects", .arr (s.objects.map ReportedObject.encode))]
    ++ optionalField "validation_data" (s.verdict.map Verdict.encode))

def record : Record Submission :=
  .mk <$> .optional "version" Decode.text <*> .optional "experiment_name" Decode.text
    <*> .optional "interval_start_time" Instant.decode
    <*> .optional "interval_end_time" Instant.decode
    <*> .defaulted "kubernetes_objects" (Decode.list ReportedObject.decode) []
    <*> .optional "validation_data" Verdict.decode

def decode : Decoder Submission := record.decoder "ExperimentResultData"

end Submission

end TuningAdvisor
