import TuningAdvisor.Document.Decoder
import TuningAdvisor.Interval
/-!
# Intervals as documents: `IntervalResults` and `MetricResults`

Absent values are left out. A timestamp is a text; in the reader's messages it is called by the
format that it has.
-/

namespace TuningAdvisor

open Doc (optionalField)

def Instant.encode (t : Instant) : Doc := .str t.toZulu

def Instant.decode : Decoder Instant :=
  Decode.written "an RFC 3339 formatted date and time string" fun s =>
    (Instant.parse s).mapError (·.message)

namespace Aggregation

def encode (a : Aggregation) : Doc :=
  .obj (optionalField "min" (a.min.map .ofFloat) ++ optionalField "max" (a.max.map .ofFloat)
    ++ optionalField "avg" (a.avg.map .ofFloat) ++ optionalField "sum" (a.sum.map .ofFloat)
    ++ optionalField "format" (a.format.map .str))

def record : Record Aggregation :=
  .mk <$> .optional "min" Decode.float <*> .optional "max" Decode.float
    <*> .optional "avg" Decode.float <*> .optional "sum" Decode.float
    <*> .optional "format" Decode.text

def decode : Decoder Aggregation := record.decoder "AggregationInfo"

end Aggregation

def encodeTexts (m : SortedMap String String) : Doc :=
  .obj (m.entries.map fun (name, text) => (name, .str text))

/-- A map of texts as a field that is left out when it is empty. -/
def textsField (name : String) (m : SortedMap String String) : List (String × Doc) :=
  if m.isEmpty then [] else [(name, encodeTexts m)]

namespace Measurement

def encode (m : Measurement) : Doc :=
  .obj (("aggregation_info", m.aggregation.encode) :: textsField "metadata" m.metadata)

def record : Record Measurement :=
  .mk <$> .defaulted "aggregation_info" Aggregation.decode {}
    <*> .defaulted "metadata" (Decode.map Decode.text) ∅

def decode : Decoder Measurement := record.decoder "MetricResults"

end Measurement

namespace Metrics

def encode (m : Metrics) : Doc := .obj (m.entries.map fun (name, x) => (name, x.encode))

def decode : Decoder Metrics := Decode.map Measurement.decode

end Metrics

def Interval.encode (i : Interval) : Doc :=
  .obj ([("interval_start_time", i.start.encode), ("interval_end_time", i.finish.encode),
      ("duration_in_seconds", .ofFloat i.seconds), ("duration_in_minutes", .ofFloat i.minutes)]
    ++ optionalField "metrics" (i.metrics.map Metrics.encode))

/-- A history as a document: the intervals under their ends. -/
def History.encode (h : History) : Doc :=
  .obj (h.entries.map fun (finish, i) => (finish.toZulu, i.encode))

end TuningAdvisor
