import TuningAdvisor.Proofs.History
import TuningAdvisor.Proofs.Lists
import TuningAdvisor.Proofs.Lookups
import TuningAdvisor.Proofs.ProfileResolution
/-!
# The metrics that are stored: `MetricProfileHandler::validate` and `merge_result`

A result is checked by the **first** entry of every metric in a report, and stored by the **last** one
(`process_stores_last`). With one entry for each metric, the stored interval carries all that the profile asks
for; where an entry is repeated, the last one may lack what the first one had (`repeatedExample_lacks_avg`).
-/

namespace TuningAdvisor

/-! ## What a profile asks for -/

/-- A measurement has a value for every function of a metric. -/
def Measurement.Covers (x : Measurement) (m : SloMetric) : Prop :=
  ∀ f ∈ m.functions, (x.aggregation.get? f.name).isSome = true

namespace ReportedContainer

/-- What was reported of a metric; the last report counts. -/
def lastMetric? (r : ReportedContainer) (name : String) : Option Measurement :=
  (r.metrics.reverse.find? (·.name == name)).map (·.measurement)

/-- No metric is reported twice. -/
def Distinct (r : ReportedContainer) : Prop := (r.metrics.map (·.name)).Nodup

/-- A report has what a metric asks for. -/
def Supplies (r : ReportedContainer) (m : SloMetric) : Prop := ∃ x, r.metric? m.name = some x ∧ x.Covers m

theorem get?_toMetrics (r : ReportedContainer) (name : String) : r.toMetrics.get? name = r.lastMetric? name := by
  rw [toMetrics, SortedMap.get?_ofList, ← List.map_reverse, List.find?_map, Option.map_map]
  rfl

theorem Distinct.lastMetric?_eq {r : ReportedContainer} (h : r.Distinct) (name : String) :
    r.lastMetric? name = r.metric? name := by
  rw [lastMetric?, find?_reverse_of_nodup h, metric?]

/-- What is reported first is reported last. -/
theorem isSome_lastMetric? (r : ReportedContainer) (name : String) :
    (r.lastMetric? name).isSome = (r.metric? name).isSome := by
  rw [lastMetric?, metric?, Option.isSome_map, Option.isSome_map, Bool.eq_iff_iff]
  simp only [List.find?_isSome, List.mem_reverse]

end ReportedContainer

namespace ResourceTuning

theorem metricProblems_eq_nil_iff {r : ReportedContainer} {m : SloMetric} :
    metricProblems r m = [] ↔ r.Supplies m := by
  unfold metricProblems ReportedContainer.Supplies Measurement.Covers
  cases r.metric? m.name with
  | none => simp
  | some x => simp [Option.isSome_iff_ne_none]

theorem problems_eq_nil_iff {p : Profile} {s : Submission} :
    problems p s = [] ↔ ∀ r ∈ s.containers, ∀ m ∈ p.slo.containerMetrics, r.Supplies m := by
  simp only [problems, List.flatMap_eq_nil_iff, metricProblems_eq_nil_iff]

end ResourceTuning

/-- An interval carries a metric with all its functions. -/
def Interval.Carries (i : Interval) (m : SloMetric) : Prop := ∃ x, i.metric? m.name = some x ∧ x.Covers m

/-! ## What is stored -/

namespace Experiment

/-- The interval of a container of an object that ends at a point in time. -/
def interval? (e : Experiment) (name space container : String) (finish : Instant) : Option Interval := do
  let o ← e.object? name space
  let c ← o.container? container
  c.results.get? finish

/-- A change that leaves names and histories alone leaves all intervals alone. -/
theorem interval?_mapContainers (e : Experiment) {f : Container → Container} (hname : ∀ c, (f c).name = c.name)
    (hresults : ∀ c, (f c).results = c.results) (name space container : String) (finish : Instant) :
    (e.mapContainers f).interval? name space container finish = e.interval? name space container finish := by
  have hobject : (e.mapContainers f).object? name space =
      (e.object? name space).map fun o => { o with containers := o.containers.map f } := List.find?_map
  have hcontainer (o : KubernetesObject) :
      KubernetesObject.container? { o with containers := o.containers.map f } container =
        (o.container? container).map f := by
    unfold KubernetesObject.container?
    rw [List.find?_map]
    simp only [Function.comp_def, hname]
  unfold interval?
  rw [hobject]
  cases e.object? name space with
  | none => rfl
  | some o =>
    simp only [Option.map_some, Option.bind_eq_bind, Option.bind_some, hcontainer]
    cases o.container? container with
    | none => rfl
    | some c => simp only [Option.map_some, Option.bind_some, hresults]

end Experiment

/-- All reports on a container come to one: the last one, with the first image. -/
theorem Container.foldl_receive (window : Interval) {reports : List ReportedContainer} {last : ReportedContainer}
    (c : Container) (h : reports.getLast? = some last) :
    reports.foldl (fun c r => c.receive window r) c =
      c.receive window { last with image := reports.findSome? (·.image) } := by
  induction reports using List.reverseRecOn generalizing last with
  | nil => cases h
  | append_singleton earlier r ih =>
    rw [List.getLast?_concat, Option.some.injEq] at h
    subst h
    rw [List.foldl_append, List.foldl_cons, List.foldl_nil, List.findSome?_append]
    cases hearlier : earlier.getLast? with
    | none =>
      rw [List.getLast?_eq_none_iff.1 hearlier]
      cases r with | mk image name metrics => cases image <;> rfl
    | some before =>
      rw [ih hearlier]
      have himage : [r].findSome? (·.image) = r.image := by cases hr : r.image <;> simp [hr]
      simp only [receive, himage, SortedMap.insert_insert, Option.or_assoc]
      rfl

theorem KubernetesObject.container?_receiveAll (window : Interval) {reports : List ReportedContainer} {name : String}
    {last : ReportedContainer} (o : KubernetesObject) (h : reports.reverse.find? (·.name == name) = some last) :
    (reports.foldl (write (.receive window)) o).container? name =
      some (((o.container? name).getD { name }).receive window
        { last with image := (reports.filter (·.name == name)).findSome? (·.image) }) := by
  have hreported : ∃ r ∈ reports, r.name = name :=
    ⟨last, List.mem_reverse.1 (List.mem_of_find?_eq_some h), by simpa using List.find?_some h⟩
  have hlast : (reports.filter (·.name == name)).getLast? = some last := by
    rw [List.getLast?_eq_head?_reverse, ← List.filter_reverse, List.head?_filter, h]
  rw [container?_writeAll _ hreported]
  exact congrArg some (Container.foldl_receive window _ hlast)

namespace Submission

/-- The last report on a container of an object. -/
def lastReport? (s : Submission) (name space container : String) : Option ReportedContainer :=
  (ReportedObject.containersOn name space s.objects).reverse.find? (·.name == container)

variable {s : Submission}

/-- A container that is reported on has a last report. -/
theorem exists_lastReport? {o : ReportedObject} {r : ReportedContainer} (ho : o ∈ s.objects) (hr : r ∈ o.containers) :
    ∃ last, s.lastReport? o.name o.space r.name = some last := by
  rw [lastReport?, ← Option.isSome_iff_exists, List.find?_isSome]
  refine ⟨r, ?_, by simp⟩
  rw [List.mem_reverse, ReportedObject.containersOn, List.mem_flatMap]
  exact ⟨o, List.mem_filter.2 ⟨ho, ReportedObject.isOn_iff.2 ⟨rfl, rfl⟩⟩, hr⟩

theorem mem_of_lastReport? {name space container : String} {last : ReportedContainer}
    (h : s.lastReport? name space container = some last) : last ∈ s.containers := by
  have hlast := List.mem_of_find?_eq_some h
  rw [List.mem_reverse, ReportedObject.containersOn, List.mem_flatMap] at hlast
  obtain ⟨o, ho, hlast⟩ := hlast
  exact List.mem_flatMap.2 ⟨o, List.mem_of_mem_filter ho, hlast⟩

end Submission

namespace Experiment

variable {e merged : Experiment} {s : Submission} {start finish : Instant} {n : Nat}

/-- An object takes in all reports on its name and namespace, and is made from the first of them if it is new. -/
theorem object?_merge (h : e.merge s start finish = (merged, .ok n)) (name space : String) :
    merged.object? name space = match s.objects.find? (ReportedObject.isOn name space) with
      | none => e.object? name space
      | some first => some ((ReportedObject.containersOn name space s.objects).foldl
          (KubernetesObject.write (.receive { start, finish, metrics := none }))
          ((e.object? name space).getD first.fresh)) := by
  obtain ⟨-, rfl⟩ := merge_ok h
  rw [object?_eq, object?_eq, ← ReportedObject.write_receive]
  exact ReportedObject.first?_writeAll _ _ _

/-- Of all reports on a container of an object, the last one is stored. -/
theorem interval?_merge (h : e.merge s start finish = (merged, .ok n)) {name space container : String}
    {last : ReportedContainer} (hlast : s.lastReport? name space container = some last) :
    merged.interval? name space container finish = some { start, finish, metrics := some last.toMetrics } := by
  rw [interval?, object?_merge h]
  cases hfirst : s.objects.find? (ReportedObject.isOn name space) with
  | none =>
    rw [Submission.lastReport?, ReportedObject.containersOn_eq_nil hfirst] at hlast
    cases hlast
  | some first =>
    have hc := KubernetesObject.container?_receiveAll { start, finish, metrics := none }
      ((e.object? name space).getD first.fresh) hlast
    simp only [Option.bind_eq_bind, Option.bind_some, hc, Container.receive, SortedMap.get?_insert_self]
    rfl

end Experiment

namespace Ingestion

/-- **What is checked first is stored last.** Let the built-in handlers accept a result, whatever the store, the
profiles and the configuration are. Every container that it reports on then has an interval of the window, with the
last entry of every metric in the last report on the container. Every report has been checked by its first entries:
each metric that the profile asks for is there, and in the stored interval too. The interval carries it
with all its functions when its last entry has them all, and so whenever the report has one entry for each metric. -/
theorem process_stores_last {i : Ingestion} {c : Config} {store : ExperimentStore} {s : Submission}
    {counts : RecommendationCounts} (hi : i.handlers = .builtin c) (hok : (i.process store s).1 = .ok counts) :
    ∃ key old profile new, s.checkMandatory = .ok key ∧ store.get? s.name = some old ∧
      old.resolve i.profiles = .ok profile ∧ (i.process store s).2.get? s.name = some new ∧
      ∀ o ∈ s.objects, ∀ r ∈ o.containers, ∃ last stored, s.lastReport? o.name o.space r.name = some last ∧
        new.interval? o.name o.space r.name key.finish = some stored ∧
        stored.start = key.start ∧ stored.finish = key.finish ∧
        (∀ name, stored.metric? name = last.lastMetric? name) ∧
        (∀ m ∈ profile.slo.containerMetrics, last.Supplies m ∧ (stored.metric? m.name).isSome = true) ∧
        (last.Distinct → ∀ m ∈ profile.slo.containerMetrics, stored.Carries m) := by
  obtain ⟨key, old, profile, handler, new, hkey, hold, hacc, hstore⟩ := process_ok hok
  obtain ⟨choice, hpre, hfind⟩ := hacc.checked
  obtain ⟨hvalid, merged, n, hmerge, rfl⟩ := hacc.builtin hi
  have hresolve : old.resolve i.profiles = .ok profile := by
    rw [Experiment.resolve, (Experiment.prechecked_of_ok hpre).profile]
    exact hfind
  refine ⟨key, old, profile, _, hkey, hold, hresolve, by rw [hstore, SortedMap.get?_insert_self], ?_⟩
  intro o ho r hr
  obtain ⟨last, hlast⟩ := Submission.exists_lastReport? ho hr
  have hmetric (name : String) :
      Interval.metric? ⟨key.start, key.finish, some last.toMetrics⟩ name = last.lastMetric? name :=
    last.get?_toMetrics name
  have hproblems := (ResourceTuning.refuse?_eq_none_iff.1 hvalid).2
  have hsupplies := ResourceTuning.problems_eq_nil_iff.1 hproblems last (Submission.mem_of_lastReport? hlast)
  refine ⟨last, _, hlast, ?_, rfl, rfl, hmetric, ?_, ?_⟩
  · rw [Experiment.interval?_mapContainers _ (by simp) (by simp)]
    exact Experiment.interval?_merge hmerge hlast
  · intro m hm
    obtain ⟨x, hx, hcovers⟩ := hsupplies m hm
    refine ⟨⟨x, hx, hcovers⟩, ?_⟩
    rw [hmetric, last.isSome_lastMetric?, hx]
    rfl
  · intro hdistinct m hm
    obtain ⟨x, hx, hcovers⟩ := hsupplies m hm
    exact ⟨x, by rw [hmetric, hdistinct.lastMetric?_eq, hx], hcovers⟩

end Ingestion

namespace Engine

/-- The average processor usage of every container. -/
def averageCpu : SloMetric where
  name := "cpu"
  kubernetesObject := some "container"
  functions := [{ name := "avg" }]

/-- A local experiment whose results have to report the average processor usage. -/
def meteredExample : Experiment := { checkoutExample with slo := some { metrics := [averageCpu] } }

/-- A report with two entries for the processor usage, the second one without a value. -/
def repeatedReport : ReportedContainer where
  name := "server"
  metrics := [⟨"cpu", { aggregation := { avg := some 1.0 } }⟩, ⟨"cpu", {}⟩]

/-- A result with this report. -/
def repeatedExample : Submission where
  declaredName := some "checkout"
  start := some exampleStart
  finish := some exampleFinish
  objects := [{ name := "web", containers := [repeatedReport] }]

/-- The first entry is checked and the second one stored, so that the stored interval lacks the average. -/
theorem repeatedExample_lacks_avg :
    ∃ i store counts, i = ((ofConfig {} {}).register meteredExample).2.ingestion ∧
      store = ((ofConfig {} {}).register meteredExample).2.store ∧ i.handlers = .builtin {} ∧
      (i.process store repeatedExample).1 = .ok counts ∧
      ∃ old profile new stored, store.get? "checkout" = some old ∧ old.resolve i.profiles = .ok profile ∧
        averageCpu ∈ profile.slo.containerMetrics ∧ (i.process store repeatedExample).2.get? "checkout" = some new ∧
        new.interval? "web" "" "server" exampleFinish = some stored ∧ (stored.metric? "cpu").isSome = true ∧
        ¬stored.Carries averageCpu := by
  let e := ((ofConfig {} {}).register meteredExample).2
  have hhandlers : e.ingestion.handlers = .builtin {} := (sameSettings_register _ _).handlers
  have haccepted : (e.ingestion.process e.store repeatedExample).1.toOption.isSome = true := by decide +kernel
  obtain ⟨counts, hcounts⟩ : ∃ counts, (e.ingestion.process e.store repeatedExample).1 = .ok counts := by
    cases h : (e.ingestion.process e.store repeatedExample).1 with
    | error r => rw [h] at haccepted; cases haccepted
    | ok counts => exact ⟨counts, rfl⟩
  obtain ⟨key, old, profile, new, hkey, hold, hresolve, hnew, hstored⟩ :=
    Ingestion.process_stores_last hhandlers hcounts
  have hmetered : averageCpu ∈ profile.slo.containerMetrics := by
    have hslo : (e.store.get? "checkout").bind (fun old => ((old.resolve e.ingestion.profiles).toOption.map (·.slo))) =
        meteredExample.slo := by decide +kernel
    have hold : e.store.get? "checkout" = some old := hold
    simp only [hold, Option.bind_some, hresolve, Except.toOption, Option.map_some] at hslo
    rw [Option.some.inj hslo]
    decide
  obtain ⟨last, stored, hlast, hinterval, -, -, hmetric, hpresent, -⟩ :=
    hstored { name := "web", containers := [repeatedReport] } (by simp [repeatedExample]) repeatedReport (by simp)
  cases hlast
  cases hkey
  refine ⟨_, _, counts, rfl, rfl, hhandlers, hcounts, old, profile, new, stored, hold, hresolve, hmetered, hnew,
    hinterval, (hpresent _ hmetered).2, ?_⟩
  rintro ⟨x, hx, hcovers⟩
  rw [hmetric] at hx
  cases hx
  exact absurd (hcovers { name := "avg" } (by simp [averageCpu])) (by decide)

end Engine

end TuningAdvisor
