import TuningAdvisor.Experiment
import TuningAdvisor.Resolution.Report
/-!
# Profile handlers: `ResourceOptimizationHandler` and `HandlerRegistry`

A handler checks results against a profile and makes the recommendations for an experiment. Handlers
are looked up by the name of the profile; a registry may have one more for all other profiles.
-/

namespace TuningAdvisor

structure RecommendationCounts where
  containers : Nat := 0
  recommendations : Nat := 0
  notifications : Nat := 0
deriving DecidableEq, Repr

/-- Why a round of recommendations failed: the outermost context first. -/
abbrev Failure := List String

def Failure.message (f : Failure) : String := ": ".intercalate f

/-- Checks results and makes recommendations. A handler may change the experiment even where it
fails. -/
structure Handler where
  name : String
  /-- The reason to refuse a result. -/
  refuse? : Profile → Submission → Option String
  /-- Recommendations for all containers at the end of an interval. -/
  recommend : Profile → Experiment → Instant → Experiment × Except Failure RecommendationCounts

/-! ## Resource usage -/

structure ResourceTuning where
  catalog : Catalog
  generators : GeneratorRegistry
  /-- The length of the term of an experiment that declares none. -/
  termDays : Float

namespace ResourceTuning

/-- What a container's report lacks of one metric. -/
def metricProblems (c : ReportedContainer) (m : SloMetric) : List String :=
  match c.metric? m.name with
  | none => ["container " ++ c.name ++ ": missing metric " ++ m.name]
  | some reported =>
    (m.functions.filter fun f => (reported.aggregation.get? f.name).isNone).map fun f =>
      "container " ++ c.name ++ ": metric " ++ m.name ++ " missing aggregation " ++ f.name

def problems (p : Profile) (s : Submission) : List String :=
  s.containers.flatMap fun c => p.slo.containerMetrics.flatMap (metricProblems c)

/-- The reason to refuse a result: it reports on no container, or a report lacks something. -/
def refuse? (p : Profile) (s : Submission) : Option String :=
  if s.containers.isEmpty then some "result carries no container metrics"
  else
    match problems p s with
    | [] => none
    | found =>
      some ("Metrics do not match profile " ++ p.name ++ ": " ++ "; ".intercalate found)

/-- The milliseconds of a number of days, within the signed numbers of 64 bits. -/
def termMillis (days : Float) : Int := Binary64.toInt64 (days * 86400000.0)

/-- The intervals of a term. The least number of milliseconds is no span of time, and leaves all of
them. -/
def inTerm (h : History) (days : Float) : History :=
  let millis := termMillis days
  if millis = minInt64 then h else h.within (millis * Instant.millisecond)

def recommendTerm (t : ResourceTuning) (h : History) (days : Float) : TermRecommendation :=
  let intervals := inTerm h days
  let layers := t.catalog.detect intervals
  let requested := layers.flatMap fun l => l.tunables.map Tunable.id
  let report := t.catalog.resolve t.generators requested ∅ intervals
  { days
    intervals := intervals.size
    layers := layers.map (·.name)
    entries := report.entries
    notifications := report.notifications }

def terms (t : ResourceTuning) (e : Experiment) : SortedMap String Float :=
  match e.recommendationSettings with
  | some settings => settings.termsOr t.termDays
  | none => RecommendationSettings.onlyShortTerm t.termDays

/-- The intervals of a container up to an end. -/
def upTo (finish : Instant) (c : Container) : History :=
  c.results.filter fun end' _ => !finish.before end'

/-- The recommendations for a container, one for each term; none while it has no interval. -/
def recommendContainer? (t : ResourceTuning) (terms : SortedMap String Float) (finish : Instant)
    (c : Container) : Option TermRecommendations :=
  let h := upTo finish c
  if h.isEmpty then none else some (terms.mapValues fun _ days => t.recommendTerm h days)

def counts (made : List TermRecommendations) : RecommendationCounts where
  containers := made.length
  recommendations := total (made.map fun r => total (r.values.map fun x => x.entries.length))
  notifications := total (made.map fun r => total (r.values.map fun x => x.notifications.length))

/-- The first term that is not longer than nothing. -/
def badTerm? (terms : SortedMap String Float) : Option (String × Float) :=
  terms.entries.find? fun e => !(0.0 < e.2)

def recommend (t : ResourceTuning) (_ : Profile) (e : Experiment) (finish : Instant) :
    Experiment × Except Failure RecommendationCounts :=
  let terms := t.terms e
  match badTerm? terms with
  | some (term, days) =>
    (e, .error ["term " ++ term ++ " has non-positive duration_in_days " ++ plain days])
  | none =>
    let made? := t.recommendContainer? terms finish
    let update (c : Container) : Container :=
      match made? c with
      | some r => { c with recommendations := c.recommendations.insert finish r }
      | none => c
    (e.mapContainers update, .ok (counts (e.containers.filterMap made?)))

def builtin (c : Config) : ResourceTuning where
  catalog := Catalog.builtin
  generators := GeneratorRegistry.builtin c
  termDays := c.termDays

def handler (t : ResourceTuning) : Handler where
  name := "resource_optimization"
  refuse?
  recommend := t.recommend

end ResourceTuning

/-! ## Registries -/

structure HandlerRegistry where
  handlers : SortedMap String Handler := ∅
  fallback : Option Handler := none

namespace HandlerRegistry

def register (r : HandlerRegistry) (profile : String) (h : Handler) : HandlerRegistry :=
  { r with handlers := r.handlers.insert profile h }

def find? (r : HandlerRegistry) (profile : String) : Option Handler :=
  (r.handlers.get? profile).or r.fallback

/-- One handler for the built-in profiles and for all others. -/
def builtin (c : Config) : HandlerRegistry :=
  let handler := (ResourceTuning.builtin c).handler
  ProfileName.builtin.foldl (fun r name => r.register name handler) { fallback := some handler }

def toText (r : HandlerRegistry) : String :=
  let fallback := match r.fallback with
    | some h => "Some(" ++ quoted h.name ++ ")"
    | none => "None"
  "HandlerRegistry \x7b profiles: [" ++ ", ".intercalate (r.handlers.keys.map quoted)
    ++ "], fallback: " ++ fallback ++ " \x7d"

end HandlerRegistry

end TuningAdvisor
