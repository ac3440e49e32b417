import TuningAdvisor.Proofs.Merge
import TuningAdvisor.Proofs.Runs
/-!
# Which profile a result is checked against: `resolve_profile` of both validators

Registration looks a profile up by its name without the blanks around it; the stored experiment keeps the
name as it was given, and a result looks that one up. **Both find the same profile exactly when the
name has no blanks around it, or the store has that profile under the name with the blanks too**; where it
has none, no result of the experiment gets past the lookup.
-/

namespace TuningAdvisor

namespace Rejection

/-- The first character of a text. -/
def Begins (c : Char) (s : String) : Prop := s.toList.head? = some c

theorem Begins.append {c : Char} {a b : String} (h : Begins c a) : Begins c (a ++ b) := by
  unfold Begins at *
  rw [String.toList_append, List.head?_append, h]
  rfl

theorem invalid_ne_profileNotFound (c : Char) {reason : String} (h : Begins c reason) (hc : c ≠ 'P') (n : String) :
    Rejection.invalid reason ≠ .profileNotFound n := by
  intro e
  have e : reason = "Performance profile not found: " ++ n := Rejection.invalid.inj e
  have hp : Begins 'P' reason := e ▸ Begins.append rfl
  exact hc (Option.some.inj (h.symm.trans hp))

end Rejection

namespace Experiment

/-- The profile name of an experiment that is looked up without the blanks around it, if there are any. -/
def paddedProfile? (x : Experiment) : Option String :=
  if x.slo.isNone && x.namedProfile?.isSome && x.profile != x.namedProfile? then x.profile else none

/-- The profile that a result of the experiment is checked against. -/
def resolve (e : Experiment) (profiles : ProfileStore) : Except Rejection Profile :=
  e.currentProfile >>= (·.find profiles)

/-! ## Rejections before the lookup -/

theorem checkDuration_ne {e : Experiment} {c : Config} {start finish : Instant} {r : Rejection} {n : String}
    (h : e.checkDuration c start finish = .error r) : r ≠ .profileNotFound n := by
  unfold checkDuration at h
  dsimp only at h
  split at h
  · cases h
    refine Rejection.invalid_ne_profileNotFound 'T' ?_ (by decide) n
    exact rfl
  · split at h
    · cases h
      refine Rejection.invalid_ne_profileNotFound 'I' ?_ (by decide) n
      exact .append rfl
    · split at h
      · cases h
        refine Rejection.invalid_ne_profileNotFound 'I' ?_ (by decide) n
        exact .append <| .append <| .append <| .append <| .append <| .append rfl
      · cases h

theorem checkObjects_ne {e : Experiment} {s : Submission} {r : Rejection} {n : String}
    (h : e.checkObjects s = .error r) : r ≠ .profileNotFound n := by
  unfold checkObjects at h
  split at h
  · cases h
  · split at h
    · cases h
    · cases h
      refine Rejection.invalid_ne_profileNotFound 'k' ?_ (by decide) n
      exact .append rfl

theorem currentProfile_ne {e : Experiment} {r : Rejection} {n : String} (h : e.currentProfile = .error r) :
    r ≠ .profileNotFound n := by
  unfold currentProfile at h
  split at h <;> cases h
  refine Rejection.invalid_ne_profileNotFound 'U' ?_ (by decide) n
  exact rfl

theorem precheck_ne {e : Experiment} {c : Config} {s : Submission} {key : ResultKey} {r : Rejection} {n : String}
    (h : e.precheck c s key = .error r) : r ≠ .profileNotFound n := by
  unfold precheck at h
  rcases of_except_bind_error h with h | ⟨_, -, h⟩
  · exact checkDuration_ne h
  · dsimp only at h
    split at h
    · cases h
      exact nofun
    · rcases of_except_bind_error h with h | ⟨_, -, h⟩
      · exact checkObjects_ne h
      · exact currentProfile_ne h

end Experiment

theorem IntervalError.invalid_message_ne (e : IntervalError) (n : String) :
    Rejection.invalid e.message ≠ .profileNotFound n := by
  cases e with
  | notAfterStart start finish =>
    refine Rejection.invalid_ne_profileNotFound 'i' ?_ (by decide) n
    exact .append <| .append <| .append rfl
  | metricsAlreadySet finish =>
    refine Rejection.invalid_ne_profileNotFound 'm' ?_ (by decide) n
    exact .append rfl

theorem Rejection.profileNotFound_injective {m n : String} (h : profileNotFound m = profileNotFound n) : m = n := by
  have h : "Performance profile not found: " ++ m = "Performance profile not found: " ++ n := Rejection.invalid.inj h
  exact (String.append_right_inj _).1 h

theorem ProfileChoice.find_eq_profileNotFound_iff {choice : ProfileChoice} {profiles : ProfileStore} {n : String} :
    choice.find profiles = .error (.profileNotFound n) ↔ choice = .named n ∧ profiles.find n = .ok none := by
  constructor
  · intro h
    cases choice with
    | inline p => cases h
    | named name =>
      unfold find at h
      dsimp only at h
      split at h
      · cases h
      · rename_i hnone
        cases Rejection.profileNotFound_injective (Except.error.inj h)
        exact ⟨rfl, hnone⟩
      · cases h
  · rintro ⟨rfl, h⟩
    simp only [find, h]

/-! ## Handlers -/

/-- A handler that changes objects and windows only, and does not give a missing profile as its reason. -/
structure Handler.Regular (h : Handler) : Prop where
  keeps : ∀ (p : Profile) (e : Experiment) (finish : Instant), e.SameDefinition (h.recommend p e finish).1
  reasons : ∀ p s reason n, h.refuse? p s = some reason → Rejection.invalid reason ≠ .profileNotFound n

/-- All handlers of the registry are regular. -/
def HandlerRegistry.Regular (r : HandlerRegistry) : Prop := ∀ profile h, r.find? profile = some h → h.Regular

theorem ResourceTuning.regular (t : ResourceTuning) : t.handler.Regular where
  keeps p e finish := by
    show e.SameDefinition (t.recommend p e finish).1
    unfold recommend
    dsimp only
    split <;> rfl
  reasons p s reason n h := by
    have h : refuse? p s = some reason := h
    unfold refuse? at h
    split at h
    · cases h
      refine Rejection.invalid_ne_profileNotFound 'r' ?_ (by decide) n
      exact rfl
    · split at h <;> cases h
      refine Rejection.invalid_ne_profileNotFound 'M' ?_ (by decide) n
      exact .append <| .append <| .append rfl

theorem HandlerRegistry.regular_builtin (c : Config) : (HandlerRegistry.builtin c).Regular := by
  intro profile h hfind
  rw [find?_builtin] at hfind
  cases hfind
  exact (ResourceTuning.builtin c).regular

namespace Ingestion

variable {i : Ingestion} {store : ExperimentStore} {e new : Experiment} {s : Submission} {key : ResultKey}
  {profile : Profile} {handler : Handler} {counts : RecommendationCounts} {n : String}

theorem Acceptance.sameDefinition (hi : i.handlers.Regular) (h : i.Acceptance e s key profile handler new counts) :
    e.SameDefinition new := by
  obtain ⟨merged, _, hmerge, hrecommend⟩ := h.stored
  have hmerged := e.sameDefinition_merge s key.start key.finish
  have hnew := (hi _ _ h.handled).keeps profile merged key.finish
  rw [hmerge] at hmerged
  rw [hrecommend] at hnew
  exact hmerged.trans hnew

/-- The lookup alone says that a profile is missing. -/
theorem apply_profileNotFound_iff (hi : i.handlers.Regular) :
    ((i.apply s key).on e).1 = .error (.profileNotFound n) ↔
      e.precheck i.config s key = .ok (.named n) ∧ i.profiles.find n = .ok none := by
  constructor
  · intro h
    unfold apply at h
    rw [InPlace.on_bind, InPlace.on_get] at h
    rcases InPlace.of_lift_bind_error h with hpre | ⟨choice, hpre, h⟩
    · exact absurd rfl (Experiment.precheck_ne hpre)
    rcases InPlace.of_lift_bind_error h with hfind | ⟨profile, -, h⟩
    · obtain ⟨rfl, hnone⟩ := ProfileChoice.find_eq_profileNotFound_iff.1 hfind
      exact ⟨hpre, hnone⟩
    -- once the profile is found, none is missing any more
    split at h
    · rename_i handler hhandler
      dsimp only at h
      split at h
      · rename_i reason hreason
        exact absurd (Except.error.inj h) ((hi _ _ hhandler).reasons _ _ _ n hreason)
      · rcases InPlace.of_lift_bind_error h with h | ⟨_, -, h⟩
        · obtain ⟨why, -, hwhy⟩ := of_mapError_error h
          exact absurd hwhy (why.invalid_message_ne n)
        rcases InPlace.of_lift_bind_error h with h | ⟨_, -, h⟩
        · obtain ⟨why, -, hwhy⟩ := of_mapError_error h
          cases hwhy
        · cases h
    · cases h
  · rintro ⟨hpre, hnone⟩
    have hfind : (ProfileChoice.named n).find i.profiles = .error (.profileNotFound n) :=
      ProfileChoice.find_eq_profileNotFound_iff.2 ⟨rfl, hnone⟩
    simp only [apply, InPlace.on_bind, InPlace.on_get, InPlace.on_lift, hpre, hfind]

theorem process_profileNotFound_iff (hi : i.handlers.Regular) (he : store.get? s.name = some e) :
    (i.process store s).1 = .error (.profileNotFound n) ↔ i.profiles.find n = .ok none ∧
      ∃ key, s.checkMandatory = .ok key ∧ e.precheck i.config s key = .ok (.named n) := by
  unfold process
  cases hkey : s.checkMandatory with
  | error r =>
    have hr : r ≠ .profileNotFound n := by
      unfold Submission.checkMandatory at hkey
      dsimp only at hkey
      split at hkey <;> cases hkey
      exact nofun
    simp [hr]
  | ok key =>
    have hname := (key_of_checkMandatory hkey).1
    have happly : ((i.apply s key).on e).1 = .error (.profileNotFound n) ↔ _ := apply_profileNotFound_iff hi
    simp only [hname, he, Except.ok.injEq, exists_eq_left']
    rw [and_comm]
    exact happly

end Ingestion

/-! ## Registration and ingestion -/

namespace Engine

variable {e f : Engine} {x : Experiment} {u : UseCase} {choice : ProfileChoice} {p : Profile}

/-- What a result looks up: what registration has looked up, or the name with its blanks. -/
theorem Registers.currentProfile (h : e.Registers x u choice p) :
    (stored x u p).currentProfile = .ok ((x.paddedProfile?.map .named).getD choice) := by
  have hchoice := h.requested
  unfold Experiment.requestedProfile at hchoice
  cases hslo : x.slo with
  | some slo =>
    simp only [hslo] at hchoice
    split at hchoice
    · cases hchoice
    · cases hchoice
      simp [Experiment.currentProfile, stored, Experiment.withDefaultProfile, Experiment.withMetricsOf,
        Experiment.mapContainers, Experiment.paddedProfile?, Experiment.name, hslo]
  | none =>
    simp only [hslo] at hchoice
    cases hchoice
    cases hnamed : x.namedProfile? with
    | none =>
      simp [Experiment.currentProfile, stored, Experiment.withDefaultProfile, Experiment.withMetricsOf,
        Experiment.mapContainers, Experiment.paddedProfile?, hslo, hnamed]
    | some name =>
      obtain ⟨raw, hraw⟩ : ∃ raw, x.profile = some raw := by
        cases hp : x.profile with
        | none => simp [Experiment.namedProfile?, hp] at hnamed
        | some raw => exact ⟨raw, rfl⟩
      have hstored : (stored x u p).currentProfile = .ok (.named raw) := by
        simp [Experiment.currentProfile, stored, Experiment.withDefaultProfile, Experiment.withMetricsOf,
          Experiment.mapContainers, hslo, hnamed, hraw]
      rw [hstored]
      by_cases hpadded : raw = name
      · simp [Experiment.paddedProfile?, hslo, hnamed, hraw, hpadded]
      · simp [Experiment.paddedProfile?, hslo, hnamed, hraw, hpadded]

theorem Registers.metrics (_ : e.Registers x u choice p) :
    ∀ c ∈ (stored x u p).containers, c.metrics = p.slo.containerMetrics := by
  intro c hc
  obtain ⟨o, ho, hc⟩ := List.mem_flatMap.1 hc
  obtain ⟨o', -, rfl⟩ := List.mem_map.1 ho
  obtain ⟨c', -, rfl⟩ := List.mem_map.1 hc
  rfl

/-- A registered experiment stays, and keeps its definition. -/
theorem definition_kept (hhandlers : e.handlers.Regular) {old : Experiment} {name : String}
    (hold : e.store.get? name = some old) (requests : List Request) :
    ∃ new, (e.run requests).2.store.get? name = some new ∧ old.SameDefinition new := by
  refine stored_induction (R := fun _ new => old.SameDefinition new) hold rfl ?_ requests
  intro f l cur s key profile handler next counts hs hsame _ hacc
  have hregular : f.handlers.Regular := by rw [hs.handlers]; exact hhandlers
  exact hsame.trans (hacc.sameDefinition hregular)

section Later

variable {cur : Experiment}

/-- What a result looks up later on. -/
theorem Registers.currentProfile_later (h : e.Registers x u choice p) (hsame : (stored x u p).SameDefinition cur) :
    cur.currentProfile = .ok ((x.paddedProfile?.map .named).getD choice) :=
  (congrArg Experiment.currentProfile hsame).trans h.currentProfile

/-- The profile is found again, unless the name with its blanks leads elsewhere. -/
theorem Registers.resolve_later_iff (h : e.Registers x u choice p) (hsame : (stored x u p).SameDefinition cur)
    (hsettings : e.SameSettings f) :
    cur.resolve f.profiles = .ok p ↔
      ∀ raw, x.paddedProfile? = some raw → (ProfileChoice.named raw).find e.profiles = .ok p := by
  unfold Experiment.resolve
  rw [h.currentProfile_later hsame]
  show ProfileChoice.find f.profiles _ = _ ↔ _
  rw [hsettings.find]
  cases x.paddedProfile? with
  | none => simpa using h.found
  | some raw => simp

/-- The lookup of a result finds nothing exactly when the name has blanks, and no profile with them. -/
theorem Registers.precheck_missing_iff (h : e.Registers x u choice p) (hsame : (stored x u p).SameDefinition cur)
    {s : Submission} {key : ResultKey} {n : String} (hnone : e.profiles.find n = .ok none) :
    cur.precheck f.config s key = .ok (.named n) ↔
      x.paddedProfile? = some n ∧ ∃ looked, cur.precheck f.config s key = .ok looked := by
  have hlooked : ∀ looked, cur.precheck f.config s key = .ok looked →
      (x.paddedProfile?.map ProfileChoice.named).getD choice = looked := fun looked hpre =>
    Except.ok.inj ((h.currentProfile_later hsame).symm.trans (Experiment.prechecked_of_ok hpre).profile)
  constructor
  · intro hpre
    refine ⟨?_, _, hpre⟩
    have hnamed := hlooked _ hpre
    cases hpadded : x.paddedProfile? with
    | none =>
      have hfound := h.found
      simp only [hpadded, Option.map_none, Option.getD_none] at hnamed
      simp [hnamed, ProfileChoice.find, hnone] at hfound
    | some raw => simpa [hpadded] using hnamed
  · rintro ⟨hpadded, looked, hpre⟩
    have hnamed := hlooked _ hpre
    simp only [hpadded, Option.map_some, Option.getD_some] at hnamed
    rw [hpre, hnamed]

end Later

/-- **A result is checked against the profile of the registration, unless blanks around its name get in the
way.** The profile is the one whose metrics the containers were given. It is found again exactly when the name is
looked up as it was, or has that profile with its blanks too; and a profile is missing exactly when the
name with its blanks has none, for every result that gets as far as the lookup. -/
theorem profile_of_registration_iff (e f : Engine) (x : Experiment) (requests : List Request)
    (hhandlers : e.handlers.Regular) (haccepted : (e.register x).1.success = true)
    (hrun : ((e.register x).2.run requests).2 = f) :
    ∃ u choice p current, e.Registers x u choice p ∧
      (e.register x).2.store.get? x.name = some (stored x u p) ∧
      (∀ c ∈ (stored x u p).containers, c.metrics = p.slo.containerMetrics) ∧
      f.store.get? x.name = some current ∧
      (current.resolve f.profiles = .ok p ↔
        ∀ raw, x.paddedProfile? = some raw → (ProfileChoice.named raw).find e.profiles = .ok p) ∧
      ∀ s n, s.name = x.name →
        ((f.ingestion.process f.store s).1 = .error (.profileNotFound n) ↔
          x.paddedProfile? = some n ∧ e.profiles.find n = .ok none ∧
            ∃ key choice, s.checkMandatory = .ok key ∧ current.precheck f.config s key = .ok choice) := by
  subst hrun
  rcases register_cases e x with ⟨hrejected, -⟩ | ⟨u, choice, p, hx, -, hstore⟩
  · rw [haccepted] at hrejected
    cases hrejected
  · have hfirst : (e.register x).2.store.get? x.name = some (stored x u p) := by
      rw [hstore, SortedMap.get?_insert_self]
    have hregister := sameSettings_register e x
    have hsettings := hregister.trans (sameSettings_run (e.register x).2 requests)
    obtain ⟨cur, hcur, hsame⟩ := definition_kept (hregister.handlers ▸ hhandlers) hfirst requests
    generalize ((e.register x).2.run requests).2 = f at hsettings hcur ⊢
    have hregular : f.handlers.Regular := hsettings.handlers ▸ hhandlers
    refine ⟨u, choice, p, cur, hx, hfirst, hx.metrics, hcur, hx.resolve_later_iff hsame hsettings, fun s n hname => ?_⟩
    rw [Ingestion.process_profileNotFound_iff (i := f.ingestion) hregular (hname ▸ hcur)]
    show f.profiles.find n = .ok none ∧ (∃ key, _ ∧ cur.precheck f.config s key = _) ↔ _
    rw [hsettings.answers]
    constructor
    · rintro ⟨hnone, key, hkey, hpre⟩
      obtain ⟨hpadded, looked, hlooked⟩ := (hx.precheck_missing_iff hsame hnone).1 hpre
      exact ⟨hpadded, hnone, key, looked, hkey, hlooked⟩
    · rintro ⟨hpadded, hnone, key, looked, hkey, hlooked⟩
      exact ⟨hnone, key, hkey, (hx.precheck_missing_iff hsame hnone).2 ⟨hpadded, looked, hlooked⟩⟩

/-- A local experiment whose profile name has blanks around it. -/
def paddedExample : Experiment where
  declaredName := some "checkout"
  mode := some "experiment"
  targetCluster := some "local"
  profile := some " default "
  selector := some {}

/-- No result of the example gets past the lookup, although the store has the profile `default`. -/
theorem paddedExample_profileNotFound :
    (ofConfig {} {}).handlers.Regular ∧ ((ofConfig {} {}).register paddedExample).1.success = true ∧
    ∃ f current, (((ofConfig {} {}).register paddedExample).2.run []).2 = f ∧ f.store.get? "checkout" = some current ∧
      ∀ s key choice, s.name = "checkout" → s.checkMandatory = .ok key → current.precheck f.config s key = .ok choice →
        (f.ingestion.process f.store s).1 = .error (.profileNotFound " default ") := by
  have haccepted : ((ofConfig {} {}).register paddedExample).1.success = true := by decide +kernel
  have hhandlers := HandlerRegistry.regular_builtin {}
  obtain ⟨u, choice, p, current, -, -, -, hcurrent, -, hmissing⟩ :=
    profile_of_registration_iff (ofConfig {} {}) _ paddedExample [] hhandlers haccepted rfl
  refine ⟨hhandlers, haccepted, _, current, rfl, hcurrent, fun s key looked hname hkey hpre => ?_⟩
  have hpadded : paddedExample.paddedProfile? = some " default " := by decide +kernel
  have hnone : ProfileStore.find {} " default " = .ok none := rfl
  exact (hmissing s " default " hname).2 ⟨hpadded, hnone, key, looked, hkey, hpre⟩

end Engine

end TuningAdvisor
