import TuningAdvisor.Interval.Document
import TuningAdvisor.Layer.Document
import TuningAdvisor.Profile
/-!
# Profiles as documents: `PerformanceProfile`, `Slo`, `Metric`
-/

namespace TuningAdvisor

open Doc (optionalField)

def Direction.decode : Decoder Direction :=
  Decode.variant ([.minimize, .maximize].map fun d => (d.name, d))

namespace SloFunction

def encode (f : SloFunction) : Doc :=
  .obj ([("function", .str f.name)] ++ optionalField "query" (f.query.map .str)
    ++ optionalField "version" (f.version.map .str))

def record : Record SloFunction :=
  .mk <$> .required "function" Decode.text <*> .optional "query" Decode.text
    <*> .optional "version" Decode.text

def decode : Decoder SloFunction := record.decoder "AggregationFunction"

end SloFunction

namespace SloMetric

def encode (m : SloMetric) : Doc :=
  .obj ([("name", .str m.name), ("datasource", .str m.datasource),
      ("value_type", .str m.valueType)]
    ++ optionalField "kubernetes_object" (m.kubernetesObject.map .str)
    ++ optionalField "query" (m.query.map .str)
    ++ itemsField "aggregation_functions" SloFunction.encode m.functions)

def record : Record SloMetric :=
  .mk <$> .required "name" Decode.text <*> .defaulted "datasource" Decode.text ""
    <*> .defaulted "value_type" Decode.text "" <*> .optional "kubernetes_object" Decode.text
    <*> .optional "query" Decode.text
    <*> .defaulted "aggregation_functions" (Decode.list SloFunction.decode) []

def decode : Decoder SloMetric := record.decoder "Metric"

end SloMetric

namespace Objective

def encode (o : Objective) : Doc :=
  .obj ([("function_type", .str o.kind)] ++ optionalField "expression" (o.expression.map .str))

def record : Record Objective :=
  .mk <$> .required "function_type" Decode.text <*> .optional "expression" Decode.text

def decode : Decoder Objective := record.decoder "ObjectiveFunction"

end Objective

namespace Slo

def encode (s : Slo) : Doc :=
  .obj (optionalField "slo_class" (s.sloClass.map .str) ++ [("direction", .str s.direction.name)]
    ++ optionalField "objective_function" (s.objective.map Objective.encode)
    ++ [("function_variables", .arr (s.metrics.map SloMetric.encode))])

def record : Record Slo :=
  .mk <$> .optional "slo_class" Decode.text
    <*> .defaulted "direction" Direction.decode .minimize
    <*> .optional "objective_function" Objective.decode
    <*> .defaulted "function_variables" (Decode.list SloMetric.decode) []

def decode : Decoder Slo := record.decoder "Slo"

end Slo

namespace Profile

def encode (p : Profile) : Doc :=
  .obj ([("name", .str p.name), ("profile_version", .ofFloat p.version)]
    ++ optionalField "k8s_type" (p.kubernetesType.map .str) ++ [("slo", p.slo.encode)])

def record : Record Profile :=
  .mk <$> .required "name" Decode.text <*> .defaulted "profile_version" Decode.float 1.0
    <*> .optional "k8s_type" Decode.text <*> .required "slo" Slo.decode

def decode : Decoder Profile := record.decoder "PerformanceProfile"

end Profile

end TuningAdvisor
