import TuningAdvisor.Proofs.Frozen
import TuningAdvisor.Proofs.StoredMetrics
/-!
# Which containers carry the metrics of their profile: `annotate_containers`, `container_mut_or_insert`

A registration writes the metrics of the profile into the containers that an experiment declares. A merge adds
containers too, and writes no metrics into them. **The containers of an experiment that declares objects carry the
metrics of its profile for good, and those of an experiment that declares none never do** (`annotations_of_run`).
-/

namespace TuningAdvisor

/-- All containers carry the same metrics. -/
def Experiment.Carry (e : Experiment) (metrics : List SloMetric) : Prop := ∀ k ∈ e.containers, k.metrics = metrics

namespace Experiment

variable {e new : Experiment} {metrics : List SloMetric}

theorem carry_iff : e.Carry metrics ↔ ∀ o ∈ e.objects, ∀ k ∈ o.containers, k.metrics = metrics := by
  simp only [Carry, containers, List.mem_flatMap]
  grind

/-- What is filled in leaves the metrics alone. -/
theorem FilledIn.carry (h : e.FilledIn new) (hne : e.objects ≠ []) (he : e.Carry metrics) :
    new.objects ≠ [] ∧ new.Carry metrics := by
  have hobjects := h.objects hne
  rw [carry_iff] at he ⊢
  refine ⟨fun hnil => hne ?_, fun o ho k hk => ?_⟩
  · rw [hnil] at hobjects
    exact List.forall₂_nil_right_iff.1 hobjects
  · -- every container stands where it stood
    obtain ⟨o₀, ho₀, hfilled⟩ := exists_of_forall₂ hobjects ho
    obtain ⟨k₀, hk₀, hkept⟩ := exists_of_forall₂ hfilled.containers hk
    rw [hkept.metrics, he o₀ ho₀ k₀ hk₀]

theorem carry_nil_of_merge {merged : Experiment} {s : Submission} {start finish : Instant} {n : Nat} (he : e.Carry [])
    (h : e.merge s start finish = (merged, .ok n)) : merged.Carry [] := by
  obtain ⟨-, rfl⟩ := merge_ok h
  rw [carry_iff] at he ⊢
  exact ReportedObject.forall_writeAll (.receive { start, finish, metrics := none }) (P := fun k => k.metrics = [])
    (fun _ => rfl) (fun _ _ hk => hk) s.objects he

theorem carry_mapContainers {f : Container → Container} (hf : ∀ k, (f k).metrics = k.metrics) (he : e.Carry metrics) :
    (e.mapContainers f).Carry metrics := by
  rw [carry_iff] at he ⊢
  simp only [mapContainers, List.mem_map]
  rintro o ⟨o₀, ho₀, rfl⟩ k hk
  obtain ⟨k₀, hk₀, rfl⟩ := List.mem_map.1 hk
  rw [hf, he o₀ ho₀ k₀ hk₀]

end Experiment

theorem Ingestion.Acceptance.carry_nil {i : Ingestion} {c : Config} {e new : Experiment} {s : Submission}
    {key : ResultKey} {profile : Profile} {handler : Handler} {counts : RecommendationCounts} (hi : i.handlers = .builtin c)
    (h : i.Acceptance e s key profile handler new counts) (he : e.Carry []) : new.Carry [] := by
  obtain ⟨-, merged, n, hmerge, rfl⟩ := h.builtin hi
  refine Experiment.carry_mapContainers (fun k => ?_) (Experiment.carry_nil_of_merge he hmerge)
  exact (Container.FilledIn.advised _ _ _ k).metrics

namespace Engine

/-- A registered experiment, and what has become of it. -/
inductive Annotated (x : Experiment) (p : Profile) (y : Experiment) : Prop where
  | declaring : x.objects ≠ [] → y.objects ≠ [] → y.Carry p.slo.containerMetrics → Annotated x p y
  | selecting : x.objects = [] → y.Carry [] → Annotated x p y

theorem Annotated.stored {e : Engine} {x : Experiment} {u : UseCase} {choice : ProfileChoice} {p : Profile}
    (h : e.Registers x u choice p) : Annotated x p (stored x u p) := by
  have hobjects : (Engine.stored x u p).objects = [] ↔ x.objects = [] := by
    unfold Engine.stored Experiment.withDefaultProfile
    split <;> simp [Experiment.withMetricsOf, Experiment.mapContainers]
  by_cases hnil : x.objects = []
  · refine .selecting hnil fun k hk => ?_
    simp [Experiment.containers, hobjects.2 hnil] at hk
  · exact .declaring hnil (mt hobjects.1 hnil) h.metrics

theorem Annotated.accepted {i : Ingestion} {c : Config} {x e new : Experiment} {p profile : Profile} {s : Submission}
    {key : ResultKey} {handler : Handler} {counts : RecommendationCounts} (hi : i.handlers = .builtin c)
    (hacc : i.Acceptance e s key profile handler new counts) (h : Annotated x p e) : Annotated x p new := by
  cases h with
  | declaring hx hne he =>
    obtain ⟨hne, hnew⟩ := (hacc.filledIn hi).carry hne he
    exact .declaring hx hne hnew
  | selecting hx he => exact .selecting hx (hacc.carry_nil hi he)

/-- A record comes from an experiment that was registered under its name, with a profile that was found. -/
def Traced (experiments : List Experiment) (profiles : ProfileStore) (name : String) (y : Experiment) : Prop :=
  ∃ x ∈ experiments, ∃ u choice p, x.name = name ∧ x.checkMandatory = .ok u ∧ x.requestedProfile u = .ok choice ∧
    choice.find profiles = .ok p ∧ Annotated x p y

theorem traced_run (c : Config) (profiles : ProfileStore) (requests : List Request) {name : String} {y : Experiment}
    (hy : ((ofConfig c profiles).run requests).2.store.get? name = some y) :
    Traced (requests.flatMap Request.experiments) profiles name y := by
  let e := ofConfig c profiles
  let experiments := requests.flatMap Request.experiments
  suffices h : e.SameSettings (e.run requests).2 ∧
      ∀ name y, (e.run requests).2.store.get? name = some y → Traced experiments profiles name y from h.2 name y hy
  refine run_induction (l := []) (Q := (· ∈ experiments)) (P := fun _ f => e.SameSettings f ∧
    ∀ name y, f.store.get? name = some y → Traced experiments profiles name y) ?_ ?_ ?_
    (fun r hr x hx => List.mem_flatMap.2 ⟨r, hr, hx⟩) ⟨.refl e, fun _ _ h => by cases h⟩
  · rintro l f g hb ⟨hs, hall⟩
    exact ⟨hs.trans hb.toSameSettings, hb.store ▸ hall⟩
  · rintro l f x hx ⟨hs, hall⟩
    refine ⟨hs.trans (sameSettings_register f x), forall_stored_register hall fun u choice p hreg => ?_⟩
    have hfind : choice.find profiles = .ok p := (hs.find choice).symm.trans hreg.found
    exact ⟨x, hx, u, choice, p, rfl, hreg.mandatory, hreg.requested, hfind, .stored hreg⟩
  · rintro l f s ⟨hs, hall⟩
    refine ⟨hs.trans (sameSettings_ingestItem f s), forall_stored_ingestItem hall fun _ _ _ _ _ _ hold hacc => ?_⟩
    obtain ⟨x, hx, u, choice, p, hname, hu, hrequested, hfind, hold⟩ := hold
    exact ⟨x, hx, u, choice, p, hname, hu, hrequested, hfind, hold.accepted (i := f.ingestion) hs.handlers hacc⟩

/-- **What containers carry.** Take the built-in handlers and let experiments be registered and results come in, the
profiles being what they are. Every stored experiment was registered under its name, with a profile that was found. If
it declared objects, all of its containers carry the container metrics of that profile. If it declared none, all of its
containers come from results, and they carry no metrics. -/
theorem annotations_of_run (c : Config) (profiles : ProfileStore) (requests : List Request) :
    ∃ f, ((ofConfig c profiles).run requests).2 = f ∧
      ∀ name y, f.store.get? name = some y → ∃ x ∈ requests.flatMap Request.experiments, ∃ u choice p,
        x.name = name ∧ x.checkMandatory = .ok u ∧ x.requestedProfile u = .ok choice ∧ choice.find profiles = .ok p ∧
        ∀ k ∈ y.containers, k.metrics = if x.objects.isEmpty then [] else p.slo.containerMetrics := by
  refine ⟨_, rfl, fun name y hy => ?_⟩
  obtain ⟨x, hx, u, choice, p, hname, hu, hrequested, hfind, hannotated⟩ := traced_run c profiles requests hy
  refine ⟨x, hx, u, choice, p, hname, hu, hrequested, hfind, fun k hk => ?_⟩
  cases hannotated with
  | declaring hne _ hcarry => simpa [hne] using hcarry k hk
  | selecting hnil hcarry => simpa [hnil] using hcarry k hk

/-- A result on a container with the average that `meteredExample` asks for. -/
def meteredResult : Submission where
  declaredName := some "checkout"
  start := some exampleStart
  finish := some exampleFinish
  objects :=
    [{ name := "web"
       containers := [{ name := "server", metrics := [⟨"cpu", { aggregation := { avg := some 1.0 } }⟩] }] }]

/-- The result is accepted, and the container that it brings carries nothing of what its profile asks for. -/
theorem meteredResult_not_annotated :
    ∃ f y k, ((ofConfig {} {}).run [.register meteredExample, .ingestAll [meteredResult]]).2 = f ∧
      f.store.get? "checkout" = some y ∧ k ∈ y.containers ∧ k.name = "server" ∧ k.metrics = [] ∧
      averageCpu ∈ (Profile.inline "checkout" { metrics := [averageCpu] }).slo.containerMetrics := by
  obtain ⟨f, hf, hall⟩ := annotations_of_run {} {} [.register meteredExample, .ingestAll [meteredResult]]
  have hstored : (f.store.get? "checkout").any (fun y => y.containers.any (·.name == "server")) = true := by
    subst hf
    decide +kernel
  obtain ⟨y, hy, hcontainer⟩ := (Option.any_eq_true _ _).1 hstored
  obtain ⟨k, hk, hname⟩ := List.any_eq_true.1 hcontainer
  obtain ⟨x, hx, u, choice, p, -, -, -, -, hmetrics⟩ := hall "checkout" y hy
  have hselecting : x = meteredExample := by simpa [Request.experiments] using hx
  subst hselecting
  exact ⟨f, y, k, hf, hy, hk, by simpa using hname, hmetrics k hk, by decide⟩

end Engine

end TuningAdvisor
