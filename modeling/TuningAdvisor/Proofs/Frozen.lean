import TuningAdvisor.Proofs.Declarations
import TuningAdvisor.Proofs.Calls
import TuningAdvisor.Proofs.Lists
import TuningAdvisor.Proofs.ProfileResolution
/-!
# What ingestion may fill in: `merge_result` and `MetricProfileHandler::recommend`

A result is written into the objects of its experiment, and a merge adds the ones that are not there. Where objects are
declared, the check has let nothing through that would be added: the merge only grows lists, and the names that are
declared stay as they are, so the lists do not grow at all (`Grows.forall₂_of_map_eq`). **What is left to a result are
histories and image names that were absent** (`definitions_frozen`).
-/

namespace TuningAdvisor

/-- A growth that shows nothing new under a view has only changed the items in their places. -/
theorem Grows.forall₂_of_map_eq {α β : Type} {R S : α → α → Prop} {Fresh : α → Prop} {view : α → β} {l m : List α}
    (h : Grows R Fresh l m) (hview : m.map view = l.map view) (himp : ∀ a b, R a b → view b = view a → S a b) :
    List.Forall₂ S l m := by
  induction h with
  | nil => exact .nil
  | new => simp at hview
  | cons hab _ ih =>
    simp only [List.map_cons, List.cons.injEq] at hview
    exact .cons (himp _ _ hab hview.1) (ih hview.2)

/-! ## Containers and objects -/

/-- The same container apart from its histories, and from an image name where there was none. -/
structure Container.FilledIn (old new : Container) : Prop where
  name : new.name = old.name
  metrics : new.metrics = old.metrics
  image : ∀ i, old.image = some i → new.image = some i

namespace Container.FilledIn

theorem refl (c : Container) : c.FilledIn c := ⟨rfl, rfl, fun _ h => h⟩

theorem trans (a b c : Container) (h : a.FilledIn b) (h' : b.FilledIn c) : a.FilledIn c :=
  ⟨h'.name.trans h.name, h'.metrics.trans h.metrics, fun i hi => h'.image i (h.image i hi)⟩

theorem receive (window : Interval) (r : ReportedContainer) (c : Container) : c.FilledIn (c.receive window r) :=
  ⟨rfl, rfl, fun i hi => by simp [Container.receive, hi]⟩

theorem advised (t : ResourceTuning) (terms : SortedMap String Float) (finish : Instant) (c : Container) :
    c.FilledIn (t.advised terms finish c) := by
  unfold ResourceTuning.advised
  split
  · exact ⟨rfl, rfl, fun _ h => h⟩
  · exact refl c

end Container.FilledIn

namespace KubernetesObject

/-- The same object, whose containers may grow. -/
structure Extended (old new : KubernetesObject) : Prop where
  kind : new.kind = old.kind
  name : new.name = old.name
  space : new.space = old.space
  containers : Grows Container.FilledIn (fun _ => True) old.containers new.containers

/-- The same object with the same containers, apart from what is filled in. -/
structure FilledIn (old new : KubernetesObject) : Prop where
  kind : new.kind = old.kind
  name : new.name = old.name
  space : new.space = old.space
  containers : List.Forall₂ Container.FilledIn old.containers new.containers

theorem Extended.refl (o : KubernetesObject) : o.Extended o := ⟨rfl, rfl, rfl, .refl Container.FilledIn.refl _⟩

theorem Extended.trans (a b c : KubernetesObject) (h : a.Extended b) (h' : b.Extended c) : a.Extended c :=
  ⟨h'.kind.trans h.kind, h'.name.trans h.name, h'.space.trans h.space,
    h.containers.trans Container.FilledIn.trans h'.containers⟩

theorem Extended.receiveAll (window : Interval) : ∀ (reports : List ReportedContainer) (o : KubernetesObject),
    o.Extended (reports.foldl (receive window) o)
  | [], o => .refl o
  | r :: reports, o => by
    have hfirst : o.Extended (o.receive window r) :=
      ⟨rfl, rfl, rfl, .changeFirst trivial Container.FilledIn.refl (Container.FilledIn.receive window r) _⟩
    exact .trans _ _ _ hfirst (receiveAll window reports _)

/-- The names of the containers stand in for their number. -/
theorem Extended.filledIn {old new : KubernetesObject} (h : old.Extended new) (hbare : new.bare = old.bare) :
    old.FilledIn new := by
  have hnames : new.containers.map Container.bare = old.containers.map Container.bare :=
    congrArg KubernetesObject.containers hbare
  exact ⟨h.kind, h.name, h.space, h.containers.forall₂_of_map_eq hnames fun _ _ hab _ => hab⟩

theorem FilledIn.trans (a b c : KubernetesObject) (h : a.FilledIn b) (h' : b.FilledIn c) : a.FilledIn c :=
  ⟨h'.kind.trans h.kind, h'.name.trans h.name, h'.space.trans h.space,
    forall₂_trans Container.FilledIn.trans h.containers h'.containers⟩

end KubernetesObject

/-- Whatever is merged, objects and containers stay in their places and are filled in. -/
theorem ReportedObject.extended_mergeAll (window : Interval) (reports : List ReportedObject)
    (objects : List KubernetesObject) :
    Grows KubernetesObject.Extended (fun _ => True) objects (reports.foldl (mergeInto window) objects) := by
  refine .foldl .refl .trans (fun objects r => ?_) reports objects
  exact .changeFirst trivial .refl (.receiveAll window r.containers) objects

/-! ## Experiments -/

namespace Experiment

theorem SameDefinition.declaredName {old new : Experiment} (h : old.SameDefinition new) :
    new.declaredName = old.declaredName := by
  rw [h]

theorem declaredName_of_checkMandatory {x : Experiment} {u : UseCase} (h : x.checkMandatory = .ok u) :
    x.declaredName = some x.name := by
  have hgiven : hasText x.declaredName = true := by
    by_contra hnone
    rw [Bool.not_eq_true] at hnone
    unfold checkMandatory missingFields at h
    simp only [List.cons_append, List.filter_cons, hnone] at h
    split at h <;> simp_all
  unfold name
  cases hname : x.declaredName with
  | none => simp [hasText, hname] at hgiven
  | some name => rfl

/-- The same definition, and where there are objects, the same objects apart from what is filled in. -/
structure FilledIn (old new : Experiment) : Prop where
  definition : old.SameDefinition new
  objects : old.objects ≠ [] → List.Forall₂ KubernetesObject.FilledIn old.objects new.objects

theorem FilledIn.refl (e : Experiment) : e.FilledIn e :=
  ⟨rfl, fun _ => List.forall₂_same.2 fun _ _ =>
    ⟨rfl, rfl, rfl, List.forall₂_same.2 fun c _ => Container.FilledIn.refl c⟩⟩

theorem FilledIn.trans {a b c : Experiment} (h : a.FilledIn b) (h' : b.FilledIn c) : a.FilledIn c := by
  refine ⟨h.definition.trans h'.definition, fun hne => ?_⟩
  have hobjects := h.objects hne
  refine forall₂_trans KubernetesObject.FilledIn.trans hobjects (h'.objects ?_)
  rintro hnil
  rw [hnil, List.forall₂_nil_right_iff] at hobjects
  exact hne hobjects

/-- The names of what is declared stay as they are. -/
theorem FilledIn.declared {old new : Experiment} (h : old.FilledIn new) (hne : old.objects ≠ []) :
    new.declared = old.declared := by
  have hbare : ∀ a b : KubernetesObject, a.FilledIn b → a.bare = b.bare := by
    intro a b hab
    have hcontainers : a.containers.map Container.bare = b.containers.map Container.bare := by
      rw [← List.forall₂_eq_eq_eq, List.forall₂_map_left_iff, List.forall₂_map_right_iff]
      exact hab.containers.imp fun c d hcd => by simp [Container.bare, hcd.name]
    simp [KubernetesObject.bare, hab.kind, hab.name, hab.space, hcontainers]
  symm
  rw [Experiment.declared, Experiment.declared, ← List.forall₂_eq_eq_eq, List.forall₂_map_left_iff,
    List.forall₂_map_right_iff]
  exact (h.objects hne).imp hbare

end Experiment

/-- What the built-in handlers leave of an accepted result. -/
theorem Ingestion.Acceptance.filledIn {i : Ingestion} {c : Config} {e new : Experiment} {s : Submission}
    {key : ResultKey} {profile : Profile} {handler : Handler} {counts : RecommendationCounts} (hi : i.handlers = .builtin c)
    (h : i.Acceptance e s key profile handler new counts) : e.FilledIn new := by
  have hregular : i.handlers.Regular := hi ▸ HandlerRegistry.regular_builtin c
  have hkeeps : i.handlers.KeepsDeclared := hi ▸ HandlerRegistry.keepsDeclared_builtin c
  refine ⟨h.sameDefinition hregular, fun hne => ?_⟩
  obtain ⟨hchecked, hdeclared⟩ := h.declared hkeeps
  rw [Experiment.mention_of_checkObjects (by simpa [Experiment.declared] using hne) hchecked] at hdeclared
  obtain ⟨-, merged, n, hmerge, rfl⟩ := h.builtin hi
  obtain ⟨-, rfl⟩ := Experiment.merge_ok hmerge
  have hmerged := ReportedObject.extended_mergeAll { start := key.start, finish := key.finish, metrics := none } s.objects
    e.objects
  -- the recommendations of the round come on top of the merge
  refine (hmerged.trans .trans (.map _ (fun o => ?_) _)).forall₂_of_map_eq hdeclared fun _ _ hab => hab.filledIn
  exact ⟨rfl, rfl, rfl, .map _ (Container.FilledIn.advised _ _ _) _⟩

/-! ## Runs -/

namespace Engine

theorem declaredName_stored (x : Experiment) (u : UseCase) (p : Profile) :
    (stored x u p).declaredName = x.declaredName := by
  unfold stored Experiment.withDefaultProfile
  split <;> rfl

/-- Every record is stored under its own name, and the handlers are the built-in ones. -/
structure Named (c : Config) (e : Engine) : Prop where
  handlers : e.handlers = .builtin c
  names : ∀ key x, e.store.get? key = some x → x.declaredName = some key

/-- What is loaded is stored under its name. -/
theorem names_load {store : ExperimentStore} (h : ∀ key x, store.get? key = some x → x.declaredName = some key)
    (experiments : List Experiment) :
    ∀ key x, (ExperimentStore.load store experiments).2.get? key = some x → x.declaredName = some key := by
  have hnamed : ∀ entry ∈ experiments.filterMap (fun e => e.declaredName.map fun name => (name, e)),
      entry.2.declaredName = some entry.1 := by
    intro entry hentry
    obtain ⟨x, -, hx⟩ := List.mem_filterMap.1 hentry
    obtain ⟨name, hname, rfl⟩ := Option.map_eq_some_iff.1 hx
    exact hname
  unfold ExperimentStore.load
  generalize experiments.filterMap _ = entries at hnamed
  dsimp only
  induction entries generalizing store with
  | nil => exact h
  | cons entry entries ih =>
    rw [List.forall_mem_cons] at hnamed
    refine ih ?_ hnamed.2
    intro key x hx
    rcases SortedMap.get?_insert_cases hx with ⟨rfl, rfl⟩ | ⟨-, hx⟩
    · exact hnamed.1
    · exact h key x hx

theorem named_kept (c : Config) : Kept (fun _ => True) (Named c) where
  books hb h := ⟨hb.handlers.trans h.handlers, hb.store ▸ h.names⟩
  register {e} x h := by
    refine ⟨(sameSettings_register e x).handlers.trans h.handlers, ?_⟩
    refine forall_stored_register h.names fun u choice p hx => ?_
    rw [declaredName_stored, Experiment.declaredName_of_checkMandatory hx.mandatory]
  ingest {e} s h := by
    refine ⟨(sameSettings_ingestItem e s).handlers.trans h.handlers, ?_⟩
    refine forall_stored_ingestItem h.names fun _ _ _ _ _ _ hold hacc => ?_
    rw [(hacc.filledIn (i := e.ingestion) h.handlers).definition.declaredName, hold]
  load experiments _ h := ⟨h.handlers, names_load h.names experiments⟩
  profiles _ _ h := ⟨h.handlers, h.names⟩

/-- A registration leaves the records that are there alone. -/
theorem kept_by_register {e : Engine} {name : String} {old : Experiment} (hold : e.store.get? name = some old)
    (x : Experiment) : (e.register x).2.store.get? name = some old := by
  rcases register_cases e x with ⟨-, hstore⟩ | ⟨_, _, _, hx, -, hstore⟩
  · rw [hstore, hold]
  · have hne : name ≠ x.name := by
      rintro rfl
      simp [hx.unused] at hold
    rw [hstore, SortedMap.get?_insert_of_ne _ _ hne, hold]

/-- A taken name is not registered again. -/
theorem register_taken {e : Engine} {x old : Experiment} (hold : e.store.get? x.name = some old) :
    (e.register x).1.success = false ∧ (e.register x).2.store = e.store := by
  rcases register_cases e x with hrejected | ⟨_, _, _, hx, -, -⟩
  · exact hrejected
  · simp [hx.unused] at hold

theorem filledIn_by_ingestAll {c : Config} {e : Engine} (h : e.handlers = .builtin c) {name : String} {old : Experiment}
    (hold : e.store.get? name = some old) (results : List Submission) :
    ∃ new, (e.ingestAll results).2.store.get? name = some new ∧ old.FilledIn new := by
  obtain ⟨new, hnew, hfilled⟩ := stored_induction (R := fun _ new => old.FilledIn new) hold (.refl old)
    (fun hs hr _ hacc => hr.trans (hacc.filledIn (hs.handlers.trans h))) [.ingestAll results]
  exact ⟨new, by simpa [run, serve] using hnew, hfilled⟩

/-- **Definitions are frozen, and names are unique.** Take the built-in handlers and let anything be registered, loaded,
ingested and recommended. Then every record is stored under its own name; a registration under a taken name fails and
stores nothing, and no registration touches a record that is there; and whatever results come in, every
record keeps its definition and the names of the objects and containers that it has, in order, with nothing
filled in but histories and absent image names. -/
theorem definitions_frozen (c : Config) (profiles : ProfileStore) (calls : List Call) :
    ∃ f, (ofConfig c profiles).after calls = f ∧
      (∀ key x, f.store.get? key = some x → x.declaredName = some key) ∧
      (∀ x, f.store.contains x.name = true → (f.register x).1.success = false ∧ (f.register x).2.store = f.store) ∧
      ∀ key old, f.store.get? key = some old →
        (∀ experiments, (f.registerAll experiments).2.store.get? key = some old) ∧
        ∀ results, ∃ new, (f.ingestAll results).2.store.get? key = some new ∧ old.SameDefinition new ∧
          (old.objects ≠ [] → new.declared = old.declared ∧
            List.Forall₂ KubernetesObject.FilledIn old.objects new.objects) := by
  have hnamed : Named c ((ofConfig c profiles).after calls) :=
    (named_kept c).after (fun _ _ _ _ => trivial) ⟨rfl, fun _ _ h => by cases h⟩
  refine ⟨_, rfl, hnamed.names, ?_, ?_⟩
  · intro x htaken
    rw [SortedMap.contains_eq] at htaken
    obtain ⟨old, hold⟩ := Option.isSome_iff_exists.1 htaken
    exact register_taken hold
  · intro key old hold
    constructor
    · intro experiments
      exact registerAll_induction (fun (_ : List ResultKey) f => f.store.get? key = some old) (Q := fun _ => True)
        (l := []) (fun hb h => hb.store ▸ h) (fun _ h => kept_by_register h _) experiments (fun _ _ => trivial) hold
    · intro results
      obtain ⟨new, hnew, hfilled⟩ := filledIn_by_ingestAll hnamed.handlers hold results
      exact ⟨new, hnew, hfilled.definition, fun hne => ⟨hfilled.declared hne, hfilled.objects hne⟩⟩

end Engine

end TuningAdvisor
