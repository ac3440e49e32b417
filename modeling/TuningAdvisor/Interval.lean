import TuningAdvisor.Number.Binary64
import TuningAdvisor.SortedMap
import TuningAdvisor.Time.Timestamp
/-!
# Measurement intervals: `IntervalResults`, `MetricResults`, `IntervalMap`

An interval is a window of time with the metrics that were measured in it; the metrics are attached
at most once. A history is the intervals of one container **keyed by the end of the interval**, so
the last entry is the most recent one.

| here | there |
| --- | --- |
| `Aggregation`, `Measurement`   | `AggregationInfo`, `MetricResults` |
| `of?`, `attach`, `withMetrics` | `new`, `set_metrics`, `with_metrics` of `IntervalResults` |
| `History`                      | `IntervalMap` |
| `maxPeak?`, `latestPeak?`      | `max_peak`, `latest_peak` |
| `latestMetadata?`              | `latest_metadata` |
| `History.within`               | `within_window` |
-/

namespace TuningAdvisor

/-- The values of one metric over one interval, by aggregation function. -/
structure Aggregation where
  min : Option Float := none
  max : Option Float := none
  avg : Option Float := none
  sum : Option Float := none
  format : Option String := none

namespace Aggregation

def get? (a : Aggregation) : String → Option Float
  | "min" => a.min
  | "max" => a.max
  | "avg" => a.avg
  | "sum" => a.sum
  | _ => none

end Aggregation

structure Measurement where
  aggregation : Aggregation := {}
  metadata : SortedMap String String := ∅

/-- The observed peak: the maximum, or the average where there is none. -/
def Measurement.peak? (m : Measurement) : Option Float := m.aggregation.max.or m.aggregation.avg

abbrev Metrics := SortedMap String Measurement

inductive IntervalError where
  | notAfterStart (start finish : Instant)
  | metricsAlreadySet (finish : Instant)
deriving DecidableEq, Repr

def IntervalError.message : IntervalError → String
  | .notAfterStart start finish =>
    "interval end " ++ finish.toText ++ " must be after start " ++ start.toText
  | .metricsAlreadySet finish => "metrics already attached to interval ending at " ++ finish.toText

/-- A window of time, and its metrics once they are attached. -/
structure Interval where
  start : Instant
  finish : Instant
  metrics : Option Metrics

namespace Interval

/-- A window without metrics; it has to end after it starts. -/
def of? (start finish : Instant) : Except IntervalError Interval :=
  if start.before finish then .ok { start, finish, metrics := none }
  else .error (.notAfterStart start finish)

/-- Attaches metrics, which can be done once. -/
def attach (i : Interval) (metrics : Metrics) : Except IntervalError Interval :=
  match i.metrics with
  | none => .ok { i with metrics := some metrics }
  | some _ => .error (.metricsAlreadySet i.finish)

def withMetrics (start finish : Instant) (metrics : Metrics) : Except IntervalError Interval :=
  of? start finish >>= (attach · metrics)

/-- The length in whole milliseconds. -/
def millis (i : Interval) : Int := Instant.wholeMillis (i.finish.since i.start)

def seconds (i : Interval) : Float := Float.ofInt i.millis / 1000.0

def minutes (i : Interval) : Float := Float.ofInt i.millis / 60000.0

def hasMetrics (i : Interval) : Bool := i.metrics.any fun m => !m.isEmpty

def metric? (i : Interval) (name : String) : Option Measurement := i.metrics.bind (·.get? name)

def peak? (i : Interval) (name : String) : Option Float := (i.metric? name).bind (·.peak?)

end Interval

/-- The intervals of one container by their ends. -/
abbrev History := SortedMap Instant Interval

namespace History

def maxPeak? (h : History) (metric : String) : Option Float :=
  (h.values.filterMap (·.peak? metric)).foldl
    (fun largest peak => some (largest.elim peak (Binary64.max · peak))) none

/-- The peak of a metric in the most recent interval that has one. -/
def latestPeak? (h : History) (metric : String) : Option Float :=
  h.values.reverse.findSome? (·.peak? metric)

/-- A label of a metric in the most recent interval that has it. -/
def latestMetadata? (h : History) (metric label : String) : Option String :=
  h.values.reverse.findSome? fun i => (i.metric? metric).bind (·.metadata.get? label)

/-- The intervals that end later than a span before the last end. All of them, if that point in
time is before the first one that can be written. -/
def within (h : History) (span : Int) : History :=
  match h.last? with
  | none => ∅
  | some (latest, _) =>
    match latest.minus span with
    | none => h
    | some cutoff => h.filter fun finish _ => cutoff.before finish

end History

end TuningAdvisor
