import TuningAdvisor.Proofs.Declarations
/-!
# The object check looks at the first object of a name: `check_objects`

A declared object fits a report if name and namespace are the same, the types agree where both are given, and it has
every reported container. **The check never lets through what no declared object fits, but it asks only the first object
of a name and a namespace** (`Experiment.ChecksAgainst`). Where these are pairwise distinct, that is the declared object,
and the check accepts exactly what is declared; of a Deployment and a StatefulSet of one name, reports on the second one
are refused (`Engine.twinExample_refuses_second`).
-/

namespace TuningAdvisor

namespace KubernetesObject

variable {o : KubernetesObject} {r : ReportedObject} {objects : List KubernetesObject}

/-- A declared object fits a report. -/
structure Declares (o : KubernetesObject) (r : ReportedObject) : Prop where
  name : o.name = r.name
  space : o.space = r.space
  /-- The types agree in all but letter case, where both are given. -/
  kind : ∀ expected reported, o.kind = some expected → r.kind = some reported → lowerText expected = lowerText reported
  containers : ∀ k ∈ r.containers, ∃ c ∈ o.containers, c.name = k.name

/-- The first object of the name and the namespace fits a report. -/
def DeclaredByFirst (objects : List KubernetesObject) (r : ReportedObject) : Prop :=
  ∃ before o after, objects = before ++ o :: after ∧ o.Declares r ∧ ∀ b ∈ before, b.key ≠ (r.name, r.space)

theorem isSome_container?_iff {name : String} :
    (o.container? name).isSome = true ↔ ∃ c ∈ o.containers, c.name = name := by
  simp [container?, List.find?_isSome]

theorem declares_iff : o.Declares r ↔ o.name = r.name ∧ o.space = r.space ∧ o.Admits r := by
  constructor
  · intro h
    exact ⟨h.name, h.space, h.kind, fun k hk => isSome_container?_iff.2 (h.containers k hk)⟩
  · rintro ⟨hname, hspace, hadmits⟩
    exact ⟨hname, hspace, hadmits.kind, fun k hk => isSome_container?_iff.1 (hadmits.containers k hk)⟩

/-- The check asks the first object of the name and the namespace. -/
theorem declaredByFirst_iff :
    DeclaredByFirst objects r ↔ ∃ o, first? r.name r.space objects = some o ∧ o.Admits r := by
  simp only [first?, List.find?_eq_some_iff_append, Bool.and_eq_true, beq_iff_eq]
  constructor
  · rintro ⟨before, o, after, hsplit, hdeclares, hbefore⟩
    obtain ⟨hname, hspace, hadmits⟩ := declares_iff.1 hdeclares
    refine ⟨o, ⟨⟨hname, hspace⟩, before, after, hsplit, fun b hb => ?_⟩, hadmits⟩
    simpa [key, imp_iff_not_or] using hbefore b hb
  · rintro ⟨o, ⟨⟨hname, hspace⟩, before, after, hsplit, hbefore⟩, hadmits⟩
    refine ⟨before, o, after, hsplit, declares_iff.2 ⟨hname, hspace, hadmits⟩, fun b hb => ?_⟩
    simpa [key, imp_iff_not_or] using hbefore b hb

theorem DeclaredByFirst.exists_declares (h : DeclaredByFirst objects r) : ∃ o ∈ objects, o.Declares r := by
  obtain ⟨before, o, after, rfl, hdeclares, -⟩ := h
  exact ⟨o, by simp, hdeclares⟩

/-- With distinct names and namespaces, an object is the first one of its own. -/
theorem declaredByFirst_of_distinct (hdistinct : (objects.map key).Nodup) (ho : o ∈ objects) (h : o.Declares r) :
    DeclaredByFirst objects r := by
  obtain ⟨before, after, rfl⟩ := List.append_of_mem ho
  refine ⟨before, o, after, rfl, h, fun b hb hkey => ?_⟩
  rw [List.map_append] at hdistinct
  have hsame : b.key = o.key := by rw [hkey, key, h.name, h.space]
  exact (List.nodup_append.1 hdistinct).2.2 b.key (List.mem_map_of_mem hb) o.key (by simp) hsame

end KubernetesObject

namespace Experiment

open KubernetesObject

/-- What a check makes of results, told by the objects that were declared. -/
structure ChecksAgainst (e : Experiment) (objects : List KubernetesObject) : Prop where
  exact : ∀ s, e.checkObjects s = .ok () ↔ objects = [] ∨ ∀ r ∈ s.objects, DeclaredByFirst objects r
  sound : ∀ s, e.checkObjects s = .ok () → objects = [] ∨ ∀ r ∈ s.objects, ∃ o ∈ objects, o.Declares r
  /-- Where no two objects have the same name and namespace, the check accepts just what is declared. -/
  complete : (objects.map key).Nodup →
    ∀ s, e.checkObjects s = .ok () ↔ objects = [] ∨ ∀ r ∈ s.objects, ∃ o ∈ objects, o.Declares r

theorem checksAgainst_of_declared {e x : Experiment} (h : e.declared = x.declared) : e.ChecksAgainst x.objects := by
  have hexact (s : Submission) :
      e.checkObjects s = .ok () ↔ x.objects = [] ∨ ∀ r ∈ s.objects, DeclaredByFirst x.objects r := by
    rw [checkObjects_congr h, checkObjects_ok_iff]
    simp only [object?_eq, declaredByFirst_iff]
  have hsound (s : Submission) (hs : e.checkObjects s = .ok ()) :
      x.objects = [] ∨ ∀ r ∈ s.objects, ∃ o ∈ x.objects, o.Declares r :=
    ((hexact s).1 hs).imp_right fun hfirst r hr => (hfirst r hr).exists_declares
  refine ⟨hexact, hsound, fun hdistinct s => ⟨hsound s, fun hs => (hexact s).2 (hs.imp_right fun hdeclared r hr => ?_)⟩⟩
  obtain ⟨o, ho, hdeclares⟩ := hdeclared r hr
  exact declaredByFirst_of_distinct hdistinct ho hdeclares

end Experiment

namespace Engine

/-- **The object check of an accepted experiment.** Right after its registration, and as long as the engine runs if it
has declared objects, the check goes by the declared objects: it accepts exactly the results whose every report fits
the first object of its name and namespace, so only such as fit some declared object, and all of these where names and
namespaces are distinct. -/
theorem object_check_by_first (e : Engine) (x : Experiment) (requests : List Request)
    (hhandlers : e.handlers.KeepsDeclared) (haccepted : (e.register x).1.success = true) :
    ∃ registered current, (e.register x).2.store.get? x.name = some registered ∧
      ((e.register x).2.run requests).2.store.get? x.name = some current ∧
      registered.ChecksAgainst x.objects ∧ (x.objects ≠ [] → current.ChecksAgainst x.objects) := by
  rcases register_cases e x with ⟨hrejected, -⟩ | ⟨u, choice, p, -, -, hstore⟩
  · rw [haccepted] at hrejected
    cases hrejected
  have hregistered : (e.register x).2.store.get? x.name = some (stored x u p) := by
    rw [hstore, SortedMap.get?_insert_self]
  have hkeeps : (e.register x).2.handlers.KeepsDeclared := (sameSettings_register e x).handlers ▸ hhandlers
  obtain ⟨current, hcurrent, -, hkept⟩ := declared_of_run hkeeps hregistered requests
  rw [declared_stored] at hkept
  refine ⟨stored x u p, current, hregistered, hcurrent, ?_, fun hne => ?_⟩
  · exact Experiment.checksAgainst_of_declared (declared_stored x u p)
  · exact Experiment.checksAgainst_of_declared (hkept (by simpa [Experiment.declared] using hne))

/-- A Deployment and a StatefulSet of one name. -/
def twinExample : Experiment where
  declaredName := some "checkout"
  mode := some "experiment"
  targetCluster := some "local"
  slo := some {}
  objects := [{ kind := some "deployment", name := "web", containers := [{ name := "server" }] },
    { kind := some "statefulset", name := "web", containers := [{ name := "server" }] }]

/-- A report on the second one. -/
def secondTwin : ReportedObject where
  kind := some "statefulset"
  name := "web"
  containers := [{ name := "server" }]

/-- The experiment is accepted and declares the second object, but a result on it is refused. -/
theorem twinExample_refuses_second :
    (ofConfig {} {}).handlers.KeepsDeclared ∧ ((ofConfig {} {}).register twinExample).1.success = true ∧
    (∃ o ∈ twinExample.objects, o.Declares secondTwin) ∧
    ∃ registered, ((ofConfig {} {}).register twinExample).2.store.get? "checkout" = some registered ∧
      registered.checkObjects { objects := [secondTwin] } ≠ .ok () := by
  have hhandlers := HandlerRegistry.keepsDeclared_builtin {}
  have haccepted : ((ofConfig {} {}).register twinExample).1.success = true := by decide +kernel
  obtain ⟨registered, -, hregistered, -, hchecks, -⟩ :=
    object_check_by_first (ofConfig {} {}) twinExample [] hhandlers haccepted
  refine ⟨hhandlers, haccepted, ⟨_, List.mem_cons_of_mem _ List.mem_cons_self, rfl, rfl, ?_, ?_⟩, registered, hregistered, ?_⟩
  · rintro expected reported ⟨⟩ ⟨⟩
    rfl
  · intro k hk
    exact ⟨_, List.mem_singleton_self _, by rw [List.mem_singleton.1 hk]⟩
  · rw [Ne, hchecks.exact]
    rintro (hnone | hfirst)
    · cases hnone
    · -- the first object of the name is the Deployment
      obtain ⟨o, ho, hadmits⟩ := KubernetesObject.declaredByFirst_iff.1 (hfirst secondTwin (List.mem_singleton_self _))
      cases ho
      exact absurd (hadmits.kind "deployment" "statefulset" rfl rfl) (by decide)

end Engine

end TuningAdvisor
