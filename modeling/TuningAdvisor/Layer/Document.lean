import TuningAdvisor.Interval.Document
import TuningAdvisor.Layer
/-!
# Layers and tunables as documents: `RawTunable` and `LayerDefinition`

A tunable's document has the fields of both kinds of domain; which of them count is decided by its
value type. **Writing a tunable yields a document that reads as the same tunable.**
-/

namespace TuningAdvisor

open Doc (optionalField)

/-- A list as a field that is left out when it is empty. -/
def itemsField {α : Type} (name : String) (encode : α → Doc) (items : List α) :
    List (String × Doc) :=
  if items.isEmpty then [] else [(name, .arr (items.map encode))]

def textField (name text : String) : List (String × Doc) :=
  if text = "" then [] else [(name, .str text)]

namespace TunableId

def encode (id : TunableId) : Doc :=
  .obj [("layer_name", .str id.layer), ("tunable_name", .str id.name)]

def record : Record TunableId :=
  .mk <$> .required "layer_name" Decode.text <*> .required "tunable_name" Decode.text

def decode : Decoder TunableId := record.decoder "TunableSpec"

end TunableId

/-- A tunable as it is written, before the rules for its domain are applied. -/
structure WrittenTunable where
  name : String
  valueType : String
  upper : Option Float
  lower : Option Float
  step : Option Float
  choices : List String
  sloClasses : List String
  layer : String
  description : Option String
  queries : SortedMap String String
  dependsOn : List TunableId

namespace WrittenTunable

def record : Record WrittenTunable :=
  .mk <$> .required "name" Decode.text <*> .required "value_type" Decode.text
    <*> .optional "upper_bound" Decode.float <*> .optional "lower_bound" Decode.float
    <*> .optional "step" Decode.float <*> .defaulted "choices" (Decode.list Decode.text) []
    <*> .defaulted "slo_class" (Decode.list Decode.text) []
    <*> .defaulted "layer_name" Decode.text "" <*> .optional "description" Decode.text
    <*> .defaulted "queries" (Decode.map Decode.text) ∅
    <*> .defaulted "depends_on" (Decode.list TunableId.decode) []

def domain? (w : WrittenTunable) (valueType : ValueType) : Except TunableError TunableDomain := do
  let bound (field : String) : Option Float → Except TunableError Float
    | some x => .ok x
    | none => .error (.missingBound w.name field)
  if valueType.isNumeric then
    let lower ← bound "lower_bound" w.lower
    let upper ← bound "upper_bound" w.upper
    let step ← bound "step" w.step
    TunableDomain.range? w.name lower upper step
  else TunableDomain.choice? w.name w.choices

def tunable? (w : WrittenTunable) : Except TunableError Tunable := do
  let some valueType := ValueType.ofName? w.valueType
    | throw (.unknownValueType w.name (lowerText w.valueType))
  let domain ← w.domain? valueType
  return { name := w.name, valueType, domain, sloClasses := w.sloClasses, layer := w.layer,
           description := w.description, queries := w.queries, dependsOn := w.dependsOn }

end WrittenTunable

namespace Tunable

def decode : Decoder Tunable :=
  Decode.refine (WrittenTunable.record.decoder "RawTunable") fun w =>
    w.tunable?.mapError (·.message)

def domainFields : TunableDomain → List (String × Doc)
  | .numeric lower upper step =>
    [("upper_bound", .ofFloat upper), ("lower_bound", .ofFloat lower), ("step", .ofFloat step)]
  | .categorical choices => itemsField "choices" .str choices

def encode (t : Tunable) : Doc :=
  .obj ([("name", .str t.name), ("value_type", .str t.valueType.name)] ++ domainFields t.domain
    ++ [("slo_class", .ofTexts t.sloClasses)] ++ textField "layer_name" t.layer
    ++ optionalField "description" (t.description.map .str) ++ textsField "queries" t.queries
    ++ itemsField "depends_on" TunableId.encode t.dependsOn)

end Tunable

namespace LayerQuery

def encode (q : LayerQuery) : Doc :=
  .obj [("datasource", .str q.datasource), ("query", .str q.query), ("key", .str q.key)]

def record : Record LayerQuery :=
  .mk <$> .defaulted "datasource" Decode.text "" <*> .defaulted "query" Decode.text ""
    <*> .required "key" Decode.text

def decode : Decoder LayerQuery := record.decoder "LayerQuery"

end LayerQuery

namespace LayerLabel

def encode (l : LayerLabel) : Doc := .obj [("name", .str l.name), ("value", .str l.value)]

def record : Record LayerLabel :=
  .mk <$> .required "name" Decode.text <*> .required "value" Decode.text

def decode : Decoder LayerLabel := record.decoder "LayerLabel"

end LayerLabel

namespace Presence

def encode : Presence → Doc
  | .always presence => .obj [("presence", .str presence)]
  | .reported queries => .obj [("queries", .arr (queries.map LayerQuery.encode))]
  | .labelled labels => .obj [("label", .arr (labels.map LayerLabel.encode))]

/-- The rule whose field is there, tried in the order of the constructors. -/
def decode : Decoder Presence :=
  Decode.oneOf "LayerPresence"
    [ (Presence.always <$> Record.required "presence" Decode.text).objectDecoder "Always",
      (Presence.reported <$> Record.required "queries"
        (Decode.list LayerQuery.decode)).objectDecoder "Queries",
      (Presence.labelled <$> Record.required "label"
        (Decode.list LayerLabel.decode)).objectDecoder "Label" ]

end Presence

namespace Layer

def encode (l : Layer) : Doc :=
  .obj ([("layer_name", .str l.name), ("layer_level", .ofNat l.level)]
    ++ optionalField "details" (l.details.map .str)
    ++ [("layer_presence", l.presence.encode), ("tunables", .arr (l.tunables.map Tunable.encode))])

def record : Record Layer :=
  .mk <$> .required "layer_name" Decode.text <*> .required "layer_level" Decode.nat32
    <*> .optional "details" Decode.text <*> .required "layer_presence" Presence.decode
    <*> .required "tunables" (Decode.list Tunable.decode)

def decode : Decoder Layer := record.decoder "LayerDefinition"

end Layer

end TuningAdvisor
