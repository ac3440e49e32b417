import TuningAdvisor.Proofs.History
import TuningAdvisor.Proofs.Lookups
/-!
# What counts as declared: `check_objects` behind `merge_result`

The object check reads the objects of an experiment, and accepted results are written into these very objects. Only
the names and kinds of them matter to the check (`Experiment.declared`). **Where objects are declared, an accepted
result reports on nothing else and adds no name, so that the check stays as it was; where none are declared, the
accepted results are what the check goes by from then on** (`object_check_of_registration`).
-/

namespace TuningAdvisor

/-- A container reduced to its name. -/
def Container.bare (c : Container) : Container := { name := c.name }

/-- Nothing is written; a container that is not there is added. -/
def Writing.mention : Writing := ⟨fun _ c => c, fun _ _ => rfl⟩

/-- Of whatever is written, the names are mentioned. -/
theorem Writing.seenAs_bare (w : Writing) : w.SeenAs Container.bare .mention where
  name _ := rfl
  fresh _ := rfl
  run r c := by simp [Container.bare, Writing.mention, w.name]

namespace KubernetesObject

/-- An object with the names of its containers. -/
def bare (o : KubernetesObject) : KubernetesObject := { o with containers := o.containers.map Container.bare }

theorem container?_bare (o : KubernetesObject) (name : String) :
    o.bare.container? name = (o.container? name).map Container.bare := List.find?_map

theorem first?_map_bare (name space : String) (objects : List KubernetesObject) :
    first? name space (objects.map bare) = (first? name space objects).map bare := List.find?_map

theorem writeAll_mention_of_known {o : KubernetesObject} {reports : List ReportedContainer}
    (h : ∀ r ∈ reports, (o.container? r.name).isSome = true) : reports.foldl (write .mention) o = o := by
  induction reports with
  | nil => rfl
  | cons r reports ih =>
    obtain ⟨c, hc⟩ := Option.isSome_iff_exists.1 (h r List.mem_cons_self)
    have hkept : changeFirst (·.name == r.name) { name := r.name } (Writing.mention.run r) o.containers = o.containers :=
      changeFirst_eq_self (a := c) rfl hc
    have hr : o.write .mention r = o := by rw [write, hkept]
    rw [List.foldl_cons, hr]
    exact ih fun r hr => h r (List.mem_cons_of_mem _ hr)

/-- The containers that were there, and those that are mentioned. -/
theorem isSome_container?_mentionAll {o : KubernetesObject} {reports : List ReportedContainer} {name : String} :
    ((reports.foldl (write .mention) o).container? name).isSome = true ↔
      (o.container? name).isSome = true ∨ ∃ r ∈ reports, r.name = name := by
  induction reports generalizing o with
  | nil => simp
  | cons r reports ih =>
    rw [List.foldl_cons, ih]
    by_cases hr : r.name = name
    · subst hr
      simp [container?_write_self]
    · simp [container?_write_of_ne _ _ hr, hr]

/-- A report fits an object: the kinds do not differ, and the object has the containers. -/
structure Admits (o : KubernetesObject) (r : ReportedObject) : Prop where
  kind : ∀ expected reported, o.kind = some expected → r.kind = some reported → lowerText expected = lowerText reported
  containers : ∀ k ∈ r.containers, (o.container? k.name).isSome = true

end KubernetesObject

namespace ReportedObject

open KubernetesObject (first?)

theorem map_bare_writeAll (w : Writing) (reports : List ReportedObject) (objects : List KubernetesObject) :
    (reports.foldl (write w) objects).map KubernetesObject.bare =
      reports.foldl (write .mention) (objects.map KubernetesObject.bare) := map_seen_writeAll w.seenAs_bare reports objects

/-- Reports that fit the objects mention nothing new. -/
theorem writeAll_mention_of_admitted {objects : List KubernetesObject} {reports : List ReportedObject}
    (h : ∀ r ∈ reports, ∃ o, first? r.name r.space objects = some o ∧ o.Admits r) :
    reports.foldl (write .mention) objects = objects := by
  induction reports with
  | nil => rfl
  | cons r reports ih =>
    obtain ⟨o, ho, hadmits⟩ := h r List.mem_cons_self
    have hr : write .mention objects r = objects :=
      changeFirst_eq_self (KubernetesObject.writeAll_mention_of_known hadmits.containers) ho
    rw [List.foldl_cons, hr]
    exact ih fun r hr => h r (List.mem_cons_of_mem _ hr)

/-- A report fits what earlier reports have brought: there is one on the object, the first of them does not differ in
kind, and every container is in one of them. -/
structure CoveredBy (reports : List ReportedObject) (r : ReportedObject) : Prop where
  object : ∃ first, reports.find? (isOn r.name r.space) = some first ∧ ∀ expected reported,
    first.kind = some expected → r.kind = some reported → lowerText expected = lowerText reported
  containers : ∀ k ∈ r.containers, ∃ k' ∈ containersOn r.name r.space reports, k'.name = k.name

/-- Objects that come from reports only admit what the reports cover. -/
theorem admitted_iff_coveredBy {reports : List ReportedObject} {r : ReportedObject} :
    (∃ o, first? r.name r.space (reports.foldl (write .mention) []) = some o ∧ o.Admits r) ↔ r.CoveredBy reports := by
  rw [first?_writeAll]
  cases hfirst : reports.find? (isOn r.name r.space) with
  | none =>
    constructor
    · rintro ⟨o, ho, -⟩
      cases ho
    · intro h
      obtain ⟨first, hsome, -⟩ := h.object
      rw [hfirst] at hsome
      cases hsome
  | some first =>
    have hkind := (KubernetesObject.writeAll_keeps .mention (containersOn r.name r.space reports) first.fresh).2.2
    have hcontainer (name : String) : (((containersOn r.name r.space reports).foldl (KubernetesObject.write .mention)
        first.fresh).container? name).isSome = true ↔ ∃ k ∈ containersOn r.name r.space reports, k.name = name := by
      rw [KubernetesObject.isSome_container?_mentionAll]
      simp [fresh, KubernetesObject.container?]
    constructor
    · rintro ⟨o, ho, hadmits⟩
      cases ho
      refine ⟨⟨first, hfirst, ?_⟩, ?_⟩
      · intro expected reported hexpected
        exact hadmits.kind expected reported (hkind.trans hexpected)
      · intro k hk
        exact (hcontainer k.name).1 (hadmits.containers k hk)
    · intro h
      obtain ⟨_, hsome, hkinds⟩ := h.object
      cases hfirst.symm.trans hsome
      refine ⟨_, rfl, ?_, ?_⟩
      · intro expected reported hexpected
        exact hkinds expected reported (hkind.symm.trans hexpected)
      · intro k hk
        exact (hcontainer k.name).2 (h.containers k hk)

theorem writeAll_eq_nil_iff {w : Writing} {reports : List ReportedObject} :
    reports.foldl (write w) [] = [] ↔ reports = [] := by
  constructor
  · intro hnil
    by_contra hne
    obtain ⟨r, hr⟩ := List.exists_mem_of_ne_nil reports hne
    have hon : (reports.find? (isOn r.name r.space)).isSome = true :=
      List.find?_isSome.2 ⟨r, hr, isOn_iff.2 ⟨rfl, rfl⟩⟩
    obtain ⟨first, hfirst⟩ := Option.isSome_iff_exists.1 hon
    have hobject : first? r.name r.space (reports.foldl (write w) []) = _ := first?_writeAll w [] reports
    rw [hnil, hfirst] at hobject
    cases hobject
  · rintro rfl
    rfl

end ReportedObject

/-! ## The check -/

namespace Experiment

/-- The names and kinds of the objects, and the names of their containers. -/
def declared (e : Experiment) : List KubernetesObject := e.objects.map KubernetesObject.bare

theorem objectProblems_bare (o : KubernetesObject) (r : ReportedObject) :
    objectProblems o.bare r = objectProblems o r := by
  simp only [objectProblems, KubernetesObject.container?_bare, Option.isNone_map]
  rfl

/-- The check reads what is declared, and nothing else of the experiment. -/
theorem checkObjects_congr {e e' : Experiment} (h : e.declared = e'.declared) (s : Submission) :
    e.checkObjects s = e'.checkObjects s := by
  have hbare (e : Experiment) : e.checkObjects s = ({ objects := e.declared } : Experiment).checkObjects s := by
    have hundeclared : e.undeclared s = ({ objects := e.declared } : Experiment).undeclared s := by
      unfold undeclared
      congr 1
      funext r
      simp only [object?_eq, declared, KubernetesObject.first?_map_bare]
      cases KubernetesObject.first? r.name r.space e.objects with
      | none => rfl
      | some o => exact (objectProblems_bare o r).symm
    unfold checkObjects
    simp only [hundeclared, declared, List.isEmpty_map]
  rw [hbare, h, ← hbare]

theorem objectProblems_eq_nil_iff {o : KubernetesObject} {r : ReportedObject} :
    objectProblems o r = [] ↔ o.Admits r := by
  have hcontainers : (r.containers.filter fun k => (o.container? k.name).isNone) = [] ↔
      ∀ k ∈ r.containers, (o.container? k.name).isSome = true := by
    simp [List.filter_eq_nil_iff, Option.isSome_iff_ne_none]
  unfold objectProblems
  rw [List.append_eq_nil_iff, List.map_eq_nil_iff, hcontainers]
  constructor
  · rintro ⟨hkind, hknown⟩
    refine ⟨?_, hknown⟩
    intro expected reported hexpected hreported
    by_contra hne
    simp [hexpected, hreported, hne] at hkind
  · intro h
    refine ⟨?_, h.containers⟩
    split
    · rename_i expected reported hexpected hreported
      simp [h.kind expected reported hexpected hreported]
    · rfl

/-- What the check lets through. -/
theorem checkObjects_ok_iff {e : Experiment} {s : Submission} :
    e.checkObjects s = .ok () ↔
      e.objects = [] ∨ ∀ r ∈ s.objects, ∃ o, e.object? r.name r.space = some o ∧ o.Admits r := by
  have hundeclared : e.undeclared s = [] ↔ ∀ r ∈ s.objects, ∃ o, e.object? r.name r.space = some o ∧ o.Admits r := by
    rw [undeclared, List.flatMap_eq_nil_iff]
    refine forall₂_congr fun r _ => ?_
    cases e.object? r.name r.space with
    | none => simp
    | some o => simp [objectProblems_eq_nil_iff]
  rw [← hundeclared, checkObjects]
  split
  · rename_i hempty
    simp [List.isEmpty_iff.1 hempty]
  · rename_i hne
    have hne : e.objects ≠ [] := by simpa using hne
    split
    · rename_i hnil
      simp [hnil]
    · rename_i hsome
      have hsome : e.undeclared s ≠ [] := hsome
      simp [hne, hsome]

/-- A result that gets past the check of declared objects reports on what is declared. -/
theorem admitted_of_checkObjects {e : Experiment} {s : Submission} (hne : e.declared ≠ [])
    (h : e.checkObjects s = .ok ()) :
    ∀ r ∈ s.objects, ∃ o, KubernetesObject.first? r.name r.space e.declared = some o ∧ o.Admits r := by
  have hbare : e.declared = ({ objects := e.declared } : Experiment).declared := by
    simp [declared, KubernetesObject.bare, Container.bare, Function.comp_def]
  rw [checkObjects_congr hbare, checkObjects_ok_iff] at h
  exact h.resolve_left hne

/-- It mentions nothing new. -/
theorem mention_of_checkObjects {e : Experiment} {s : Submission} (hne : e.declared ≠ [])
    (h : e.checkObjects s = .ok ()) : s.objects.foldl (ReportedObject.write .mention) e.declared = e.declared :=
  ReportedObject.writeAll_mention_of_admitted (admitted_of_checkObjects hne h)

theorem declared_merge {e merged : Experiment} {s : Submission} {start finish : Instant} {n : Nat}
    (h : e.merge s start finish = (merged, .ok n)) :
    merged.declared = s.objects.foldl (ReportedObject.write .mention) e.declared := by
  obtain ⟨-, rfl⟩ := merge_ok h
  exact ReportedObject.map_bare_writeAll (.receive { start, finish, metrics := none }) s.objects e.objects

/-- Where all that is declared comes from reports, the check goes by what the reports cover. -/
theorem checkObjects_ok_iff_of_reports {e : Experiment} {reports : List ReportedObject}
    (h : e.declared = reports.foldl (ReportedObject.write .mention) []) (s : Submission) :
    e.checkObjects s = .ok () ↔ reports = [] ∨ ∀ r ∈ s.objects, r.CoveredBy reports := by
  have hdeclared : e.declared =
      ({ objects := reports.foldl (ReportedObject.write .mention) [] } : Experiment).declared := by
    rw [h]
    exact (ReportedObject.map_bare_writeAll .mention reports []).symm
  rw [checkObjects_congr hdeclared, checkObjects_ok_iff, ReportedObject.writeAll_eq_nil_iff]
  refine or_congr_right (forall₂_congr fun r _ => ?_)
  exact ReportedObject.admitted_iff_coveredBy

theorem declared_mapContainers (e : Experiment) {f : Container → Container} (hf : ∀ c, (f c).name = c.name) :
    (e.mapContainers f).declared = e.declared := by
  simp [declared, mapContainers, KubernetesObject.bare, Container.bare, Function.comp_def, hf]

end Experiment

/-! ## Handlers -/

/-- A handler that leaves the names and kinds of the objects alone. -/
def Handler.KeepsDeclared (h : Handler) : Prop :=
  ∀ (p : Profile) (e : Experiment) (finish : Instant), (h.recommend p e finish).1.declared = e.declared

/-- All handlers of the registry leave them alone. -/
def HandlerRegistry.KeepsDeclared (r : HandlerRegistry) : Prop := ∀ profile h, r.find? profile = some h → h.KeepsDeclared

theorem ResourceTuning.keepsDeclared (t : ResourceTuning) : t.handler.KeepsDeclared := by
  intro p e finish
  show (t.recommend p e finish).1.declared = e.declared
  unfold recommend
  dsimp only
  split
  · rfl
  · refine e.declared_mapContainers ?_
    intro c
    split <;> rfl

theorem HandlerRegistry.keepsDeclared_builtin (c : Config) : (HandlerRegistry.builtin c).KeepsDeclared := by
  intro profile h hfind
  rw [find?_builtin] at hfind
  cases hfind
  exact (ResourceTuning.builtin c).keepsDeclared

/-- An accepted result has passed the check, and what it reports on is declared from then on. -/
theorem Ingestion.Acceptance.declared {i : Ingestion} {e new : Experiment} {s : Submission} {key : ResultKey}
    {profile : Profile} {handler : Handler} {counts : RecommendationCounts} (hi : i.handlers.KeepsDeclared)
    (h : i.Acceptance e s key profile handler new counts) :
    e.checkObjects s = .ok () ∧ new.declared = s.objects.foldl (ReportedObject.write .mention) e.declared := by
  obtain ⟨choice, hpre, -⟩ := h.checked
  obtain ⟨merged, n, hmerge, hrecommend⟩ := h.stored
  refine ⟨(Experiment.prechecked_of_ok hpre).objects, ?_⟩
  have hnew := hi _ _ h.handled profile merged key.finish
  rw [hrecommend] at hnew
  exact hnew.trans (Experiment.declared_merge hmerge)

/-! ## Runs -/

namespace Engine

variable {e : Engine}

theorem declared_stored (x : Experiment) (u : UseCase) (p : Profile) : (stored x u p).declared = x.declared := by
  have hdefault : (x.withDefaultProfile u).declared = x.declared := by
    unfold Experiment.withDefaultProfile
    split <;> rfl
  refine Eq.trans ?_ hdefault
  exact (x.withDefaultProfile u).declared_mapContainers (f := fun c => { c with metrics := p.slo.containerMetrics })
    fun _ => rfl

/-- The accepted results of an experiment account for all that is declared behind a run, and where objects were
declared before it, for nothing new. -/
theorem declared_of_run (hhandlers : e.handlers.KeepsDeclared) {name : String} {old : Experiment}
    (hold : e.store.get? name = some old) (requests : List Request) :
    ∃ new, (e.run requests).2.store.get? name = some new ∧
      new.declared = ((e.acceptedOf name requests).flatMap (·.objects)).foldl (ReportedObject.write .mention)
        old.declared ∧
      (old.declared ≠ [] → new.declared = old.declared) := by
  refine stored_induction (R := fun results new =>
    new.declared = (results.flatMap (·.objects)).foldl (ReportedObject.write .mention) old.declared ∧
      (old.declared ≠ [] → new.declared = old.declared)) hold ⟨rfl, fun _ => rfl⟩ ?_ requests
  rintro f l cur s key profile handler next counts hs ⟨hall, hkept⟩ - hacc
  have hhandlers : f.handlers.KeepsDeclared := hs.handlers ▸ hhandlers
  obtain ⟨hchecked, hnext⟩ := hacc.declared (i := f.ingestion) hhandlers
  constructor
  · rw [hnext, hall]
    simp [List.foldl_append]
  · intro hne
    have hcur := hkept hne
    rw [hnext, Experiment.mention_of_checkObjects (hcur ▸ hne) hchecked, hcur]

/-- **The object check of a registered experiment.** Take any handlers that leave the names of objects alone, register
an experiment, and run the engine on any requests. Where the experiment has declared objects, every result gets the
same verdict of the check as right after the registration. Where it has declared none, the check lets everything
through right after the registration, and from the first accepted report on an object on exactly the results that the
accepted ones cover. -/
theorem object_check_of_registration (e f : Engine) (x : Experiment) (requests : List Request)
    (hhandlers : e.handlers.KeepsDeclared) (haccepted : (e.register x).1.success = true)
    (hrun : ((e.register x).2.run requests).2 = f) :
    ∃ registered current reports, (e.register x).2.store.get? x.name = some registered ∧
      f.store.get? x.name = some current ∧
      reports = ((e.register x).2.acceptedOf x.name requests).flatMap (·.objects) ∧
      (x.objects ≠ [] → ∀ s, current.checkObjects s = registered.checkObjects s) ∧
      (x.objects = [] → ∀ s, registered.checkObjects s = .ok () ∧
        (current.checkObjects s = .ok () ↔ reports = [] ∨ ∀ r ∈ s.objects, r.CoveredBy reports)) := by
  subst hrun
  rcases register_cases e x with ⟨hrejected, -⟩ | ⟨u, choice, p, hx, -, hstore⟩
  · rw [haccepted] at hrejected
    cases hrejected
  have hregistered : (e.register x).2.store.get? x.name = some (stored x u p) := by
    rw [hstore, SortedMap.get?_insert_self]
  have hkeeps : (e.register x).2.handlers.KeepsDeclared := (sameSettings_register e x).handlers ▸ hhandlers
  obtain ⟨current, hcurrent, hall, hkept⟩ := declared_of_run hkeeps hregistered requests
  rw [declared_stored] at hall hkept
  refine ⟨stored x u p, current, _, hregistered, hcurrent, rfl, ?_, ?_⟩
  · intro hne s
    refine Experiment.checkObjects_congr ?_ s
    rw [hkept (by simpa [Experiment.declared] using hne), declared_stored]
  · intro hnone s
    have hdeclared : x.declared = [] := by rw [Experiment.declared, hnone, List.map_nil]
    rw [hdeclared] at hall
    have hnothing : (stored x u p).declared = [].foldl (ReportedObject.write .mention) [] := by
      rw [declared_stored, hdeclared]
      rfl
    constructor
    · exact (Experiment.checkObjects_ok_iff_of_reports hnothing s).2 (.inl rfl)
    · exact Experiment.checkObjects_ok_iff_of_reports hall s

/-- A result on a container that the first result of the example has not reported. -/
def sidecarResult : Submission where
  declaredName := some "checkout"
  objects := [{ name := "web", containers := [{ name := "sidecar" }] }]

/-- The example declares no objects. Its first result goes through the check and so would any other; after it, a
result on another container of the same object does not. -/
theorem checkoutExample_refuses_sidecar :
    (ofConfig {} {}).handlers.KeepsDeclared ∧ ((ofConfig {} {}).register checkoutExample).1.success = true ∧
    checkoutExample.objects = [] ∧
    ∃ f registered current,
      (((ofConfig {} {}).register checkoutExample).2.run (checkoutRequests exampleStart exampleFinish).tail).2 = f ∧
      ((ofConfig {} {}).register checkoutExample).2.store.get? "checkout" = some registered ∧
      f.store.get? "checkout" = some current ∧ registered.checkObjects sidecarResult = .ok () ∧
      current.checkObjects sidecarResult ≠ .ok () := by
  have hhandlers := HandlerRegistry.keepsDeclared_builtin {}
  have haccepted : ((ofConfig {} {}).register checkoutExample).1.success = true := by decide +kernel
  obtain ⟨registered, current, reports, hregistered, hcurrent, hreports, -, hnone⟩ :=
    object_check_of_registration (ofConfig {} {}) _ checkoutExample (checkoutRequests exampleStart exampleFinish).tail
      hhandlers haccepted rfl
  refine ⟨hhandlers, haccepted, rfl, _, registered, current, rfl, hregistered, hcurrent, (hnone rfl sidecarResult).1, ?_⟩
  rw [Ne, (hnone rfl sidecarResult).2]
  have hnames : reports.flatMap (fun r => r.containers.map (·.name)) = ["server"] := by
    rw [hreports]
    decide +kernel
  rintro (hempty | hcovered)
  · rw [hempty] at hnames
    cases hnames
  · have hsidecar := hcovered { name := "web", containers := [{ name := "sidecar" }] } (List.mem_singleton.2 rfl)
    obtain ⟨k, hk, hname⟩ := hsidecar.containers { name := "sidecar" } (List.mem_singleton.2 rfl)
    obtain ⟨r, hr, hk⟩ := List.mem_flatMap.1 hk
    have hmem : k.name ∈ reports.flatMap fun r => r.containers.map (·.name) :=
      List.mem_flatMap.2 ⟨r, List.mem_of_mem_filter hr, List.mem_map.2 ⟨k, hk, rfl⟩⟩
    rw [hnames, hname] at hmem
    simp at hmem

end Engine

end TuningAdvisor
