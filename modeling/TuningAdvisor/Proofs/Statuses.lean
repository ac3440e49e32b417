import TuningAdvisor.Proofs.History
import TuningAdvisor.Proofs.Calls
import TuningAdvisor.Proofs.ProfileResolution
/-!
# Results are accepted or refused, and nothing breaks inside: the statuses of `ResultValidator::process`

A result can fail inside for want of a profile store, of a handler, or of a term that is longer than nothing. The
store answers for good once it has been loaded, the built-in registry has a handler for every profile, and terms are
checked when an experiment is registered: **every result is created, refused or a conflict**
(`internal_error_unreachable`).

The merge has a check of its own, and it is needed. A length is a difference of clocks, and windows are ordered by
their clocks: an inserted second before midnight counts as passed for the order, but not for the difference. A window
that starts right after midnight and ends within that second has a positive length and ends before it starts.
-/

namespace TuningAdvisor

/-! ## Order and length -/

namespace Instant

theorem before_iff {a b : Instant} :
    a.before b = true ↔ a.seconds < b.seconds ∨ a.seconds = b.seconds ∧ a.nanos < b.nanos := by
  have hcompare : compare a b = (compareOn seconds a b).then (compareOn nanos a b) := rfl
  rw [before, beq_iff_eq, hcompare, Ordering.then_eq_lt]
  simp [compareOn, compare_lt_iff_lt]

end Instant

/-- The window ends in the last second of a day and starts in the first one of the next, and one of the two seconds is
an inserted one. -/
structure ResultKey.AcrossInserted (key : ResultKey) : Prop where
  next : key.start.seconds = key.finish.seconds + 1
  midnight : key.start.secondOfDay = 0
  inserted : key.start.inserted = true ∨ key.finish.inserted = true

/-- A window that has a length is in order, but for an inserted second between its ends. -/
theorem ResultKey.ordered_or_acrossInserted {key : ResultKey}
    (h : 0 < Instant.wholeMillis (key.finish.since key.start)) :
    key.start.before key.finish = true ∨ key.AcrossInserted := by
  obtain ⟨name, start, finish⟩ := key
  have hnanos := start.inRange.2.2
  have hnanos' := finish.inRange.2.2
  have hspan : 0 < finish.since start := by
    by_contra hle
    have hwhole : 0 ≤ Int.tdiv (-finish.since start) Instant.millisecond := Int.tdiv_nonneg (by omega) (by decide)
    rw [Int.neg_tdiv] at hwhole
    unfold Instant.wholeMillis at h
    dsimp only at h
    omega
  dsimp only at *
  rw [Instant.before_iff]
  by_cases hordered : start.seconds < finish.seconds ∨ start.seconds = finish.seconds ∧ start.nanos < finish.nanos
  · exact .inl hordered
  · -- the clocks are a second apart, and only the day keeps the inserted one from being counted
    unfold Instant.since Instant.second at hspan
    simp only [Instant.secondOfDay, Instant.inserted, decide_eq_true_eq] at hspan
    refine .inr ⟨?_, ?_, ?_⟩ <;> simp only [Instant.secondOfDay, Instant.inserted, decide_eq_true_eq] <;>
      (split at hspan <;> [skip; split at hspan]) <;> omega

namespace Experiment

variable {e : Experiment} {s : Submission} {start finish : Instant}

theorem checkDuration_pos {c : Config} (h : e.checkDuration c start finish = .ok ()) :
    0 < Instant.wholeMillis (finish.since start) := by
  unfold checkDuration at h
  dsimp only at h
  split at h
  · cases h
  · rename_i hpos
    exact not_le.1 hpos

/-- A merge fails on a window that is out of order, and on nothing else. -/
theorem merge_error {why : IntervalError} (h : (e.merge s start finish).2 = .error why) :
    start.before finish = false ∧ why = .notAfterStart start finish := by
  have hwindow := (merge_failed h).1
  unfold Interval.of? at hwindow
  split at hwindow <;> cases hwindow
  rename_i hordered
  exact ⟨by simpa using hordered, rfl⟩

/-- The merge of a result that has come through the checks. -/
theorem merge_error_of_prechecked {c : Config} {key : ResultKey} {choice : ProfileChoice} {why : IntervalError}
    (hpre : e.precheck c s key = .ok choice) (h : (e.merge s key.start key.finish).2 = .error why) :
    key.AcrossInserted := by
  have hpos := checkDuration_pos (prechecked_of_ok hpre).duration
  exact (ResultKey.ordered_or_acrossInserted hpos).resolve_left (by simp [(merge_error h).1])

end Experiment

/-! ## Rejections that are no one's fault but the sender's -/

namespace Rejection

/-- The record is refused for what it says. -/
def Expected (r : Rejection) : Prop := r.status = Status.badRequest ∨ r.status = Status.conflict

theorem Expected.invalid (reason : String) : (Rejection.invalid reason).Expected := .inl rfl

theorem Expected.conflict (reason : String) : (Rejection.conflict reason).Expected := .inr rfl

theorem Expected.missingFields (names : List String) : (Rejection.missingFields names).Expected := .inl rfl

end Rejection

theorem Submission.expected_of_checkMandatory {s : Submission} {r : Rejection} (h : s.checkMandatory = .error r) :
    r.Expected := by
  unfold checkMandatory at h
  dsimp only at h
  split at h <;> cases h
  exact .missingFields _

namespace Experiment

variable {e : Experiment} {c : Config} {s : Submission} {key : ResultKey} {start finish : Instant} {r : Rejection}

theorem expected_of_checkDuration (h : e.checkDuration c start finish = .error r) : r.Expected := by
  unfold checkDuration at h
  dsimp only at h
  split at h
  · cases h
    exact .invalid _
  · split at h
    · cases h
      exact .invalid _
    · split at h <;> cases h
      exact .invalid _

theorem expected_of_checkObjects (h : e.checkObjects s = .error r) : r.Expected := by
  unfold checkObjects at h
  split at h
  · cases h
  · split at h <;> cases h
    exact .invalid _

theorem expected_of_currentProfile (h : e.currentProfile = .error r) : r.Expected := by
  unfold currentProfile at h
  split at h <;> cases h
  exact .invalid _

theorem expected_of_precheck (h : e.precheck c s key = .error r) : r.Expected := by
  unfold precheck at h
  rcases of_except_bind_error h with h | ⟨_, -, h⟩
  · exact expected_of_checkDuration h
  · dsimp only at h
    split at h
    · cases h
      exact .conflict _
    · rcases of_except_bind_error h with h | ⟨_, -, h⟩
      · exact expected_of_checkObjects h
      · exact expected_of_currentProfile h

end Experiment

theorem ProfileChoice.expected_of_find {choice : ProfileChoice} {profiles : ProfileStore} {r : Rejection}
    (hloads : profiles.Loads) (h : choice.find profiles = .error r) : r.Expected := by
  obtain ⟨contents, hcontents⟩ := hloads
  cases choice with
  | inline p => cases h
  | named name =>
    simp only [find, ProfileStore.find, hcontents] at h
    cases hfound : contents.get? name <;> simp only [Except.map, hfound] at h <;> cases h
    exact .invalid _

/-! ## Terms -/

/-- All declared terms are longer than nothing. -/
def Experiment.PositiveTerms (e : Experiment) : Prop :=
  ∀ settings, e.recommendationSettings = some settings → ∀ term ∈ settings.terms.entries, 0.0 < term.2

/-- Declared terms that come through the check have an accepted length. -/
theorem Experiment.validTerms_of_checkSettings {e : Experiment} {c : Config} (h : e.checkSettings c = .ok ())
    {settings : RecommendationSettings} (hsettings : e.recommendationSettings = some settings) :
    ∀ term ∈ settings.terms.entries, isValidTerm term.2 = true := by
  intro term hterm
  unfold checkSettings at h
  simp only [hsettings] at h
  split at h <;> [split at h; skip] <;> [skip; split at h; skip] <;> try cases h
  · rename_i hnone
    have hnone : settings.terms.entries.find? (fun e => !isValidTerm e.2) = none :=
      Option.eq_none_iff_forall_ne_some.2 fun found => hnone found.1 found.2
    simpa using List.find?_eq_none.1 hnone term hterm

theorem Experiment.positiveTerms_of_checkSettings {e : Experiment} {c : Config} (h : e.checkSettings c = .ok ()) :
    e.PositiveTerms := by
  intro settings hsettings term hterm
  have hvalid := validTerms_of_checkSettings h hsettings term hterm
  simp only [isValidTerm, Bool.and_eq_true, decide_eq_true_eq] at hvalid
  exact hvalid.1

theorem Experiment.SameDefinition.positiveTerms {old new : Experiment} (h : old.SameDefinition new)
    (hold : old.PositiveTerms) : new.PositiveTerms := by
  rw [h]
  exact hold

namespace ResourceTuning

/-- What holds of the declared terms, and of the default one. -/
theorem forall_terms {t : ResourceTuning} {e : Experiment} {P : Float → Prop} (hdays : P t.termDays)
    (he : ∀ settings, e.recommendationSettings = some settings → ∀ term ∈ settings.terms.entries, P term.2) :
    ∀ term ∈ (t.terms e).entries, P term.2 := by
  have hshort : ∀ term ∈ (RecommendationSettings.onlyShortTerm t.termDays).entries, P term.2 := by
    simpa [RecommendationSettings.onlyShortTerm, SortedMap.ofList, SortedMap.insert, SortedMap.empty,
      SortedMap.put] using hdays
  unfold terms
  split
  · rename_i settings hsettings
    unfold RecommendationSettings.termsOr
    split
    · exact hshort
    · exact he settings hsettings
  · exact hshort

theorem badTerm?_eq_none {t : ResourceTuning} {e : Experiment} (hdays : 0.0 < t.termDays) (he : e.PositiveTerms) :
    badTerm? (t.terms e) = none := by
  have hall : ∀ term ∈ (t.terms e).entries, 0.0 < term.2 := forall_terms (P := fun days => 0.0 < days) hdays he
  exact List.find?_eq_none.2 fun term hterm => by simpa using hall term hterm

theorem recommend_succeeds {t : ResourceTuning} {e : Experiment} (hdays : 0.0 < t.termDays) (he : e.PositiveTerms)
    (p : Profile) (finish : Instant) : ∃ counts, (t.recommend p e finish).2 = .ok counts := by
  unfold recommend
  simp only [badTerm?_eq_none hdays he]
  exact ⟨_, rfl⟩

end ResourceTuning

/-! ## One result -/

namespace Ingestion

variable {i : Ingestion} {c : Config} {e : Experiment} {store : ExperimentStore} {s : Submission} {key : ResultKey}
  {r : Rejection}

theorem expected_of_apply (hi : i.handlers = .builtin c) (hdays : 0.0 < c.termDays) (hloads : i.profiles.Loads)
    (he : e.PositiveTerms) (h : ((i.apply s key).on e).1 = .error r) : r.Expected := by
  unfold apply at h
  rw [InPlace.on_bind, InPlace.on_get] at h
  rcases InPlace.of_lift_bind_error h with hpre | ⟨choice, -, h⟩
  · exact Experiment.expected_of_precheck hpre
  rcases InPlace.of_lift_bind_error h with hfind | ⟨profile, -, h⟩
  · exact ProfileChoice.expected_of_find hloads hfind
  rw [hi, HandlerRegistry.find?_builtin] at h
  dsimp only at h
  split at h
  · cases h
    exact .invalid _
  rcases InPlace.of_lift_bind_error h with h | ⟨_, -, h⟩
  · obtain ⟨why, -, rfl⟩ := of_mapError_error h
    exact .invalid _
  · -- the terms of the merged experiment are those of the registered one
    have hterms := (e.sameDefinition_merge s key.start key.finish).positiveTerms he
    obtain ⟨counts, hmade⟩ := (ResourceTuning.builtin c).recommend_succeeds hdays hterms profile key.finish
    have hmade : ((ResourceTuning.builtin c).handler.recommend profile (e.merge s key.start key.finish).1
      key.finish).2 = .ok counts := hmade
    rcases InPlace.of_lift_bind_error h with h | ⟨_, -, h⟩
    · rw [hmade] at h
      cases h
    · cases h

theorem expected_of_process (hi : i.handlers = .builtin c) (hdays : 0.0 < c.termDays) (hloads : i.profiles.Loads)
    (hstore : ∀ name e, store.get? name = some e → e.PositiveTerms) (h : (i.process store s).1 = .error r) :
    r.Expected := by
  unfold process at h
  split at h
  · rename_i hmandatory
    cases h
    exact Submission.expected_of_checkMandatory hmandatory
  · split at h
    · cases h
      exact .invalid _
    · rename_i e he
      exact expected_of_apply hi hdays hloads (hstore _ e he) h

/-- A result that gets as far as a merge that fails is refused with the reason of the merge. -/
theorem process_of_merge_error {choice : ProfileChoice} {profile : Profile} {handler : Handler} {why : IntervalError}
    (hkey : s.checkMandatory = .ok key) (he : store.get? s.name = some e) (hpre : e.precheck i.config s key = .ok choice)
    (hfind : choice.find i.profiles = .ok profile) (hhandler : i.handlers.find? profile.name = some handler)
    (hvalid : handler.refuse? profile s = none) (hmerge : (e.merge s key.start key.finish).2 = .error why) :
    i.process store s = (.error (.invalid why.message), store) := by
  have hrefused : ((i.apply s key).on e).1 = .error (.invalid why.message) := by
    simp only [apply, InPlace.on_bind, InPlace.on_get, InPlace.on_lift, hpre, hfind, hhandler, hvalid, hmerge,
      Except.mapError]
  have hprocess : (i.process store s).1 = .error (.invalid why.message) := by rw [process_found hkey he, hrefused]
  exact Prod.ext hprocess (process_error hprocess)

end Ingestion

/-! ## The answer of the store -/

/-- Changes the experiment of a name by work that leaves a note, and says whether there is one. The note goes into a
cell. -/
def ExperimentStore.updateNoting {β : Type} (store : ExperimentStore) (name : String)
    (work : Experiment → β × Experiment) (cell : Option β) : Bool × Option β × ExperimentStore :=
  match store.get? name with
  | some e => (true, some (work e).1, store.insert name (work e).2)
  | none => (false, cell, store)

/-- Deals with one result through the update of the store. The outcome is what is in the cell behind it, and `unset`
where nothing is. -/
def Ingestion.processNoting (i : Ingestion) (unset : Rejection) (store : ExperimentStore) (s : Submission) :
    Except Rejection RecommendationCounts × ExperimentStore :=
  match s.checkMandatory with
  | .error r => (.error r, store)
  | .ok key =>
    match store.updateNoting key.name (i.apply s key).on none with
    | (false, _, store) => (.error (.experimentNotFound key.name), store)
    | (true, outcome, store) => (outcome.getD (.error unset), store)

/-- Where the store has found the experiment, the cell is set: what is answered for an empty cell is never seen. -/
theorem Ingestion.processNoting_eq (i : Ingestion) (unset : Rejection) (store : ExperimentStore) (s : Submission) :
    i.processNoting unset store s = i.process store s := by
  unfold processNoting process
  cases s.checkMandatory with
  | error r => rfl
  | ok key =>
    dsimp only
    unfold ExperimentStore.updateNoting
    cases store.get? key.name <;> rfl

/-! ## Whole runs -/

namespace Engine

/-- The settings do not fail, and neither do the terms of the experiments. -/
structure Steady (c : Config) (e : Engine) : Prop where
  handlers : e.handlers = .builtin c
  profiles : e.profiles.Loads
  terms : ∀ name x, e.store.get? name = some x → x.PositiveTerms

theorem positiveTerms_stored {e : Engine} {x : Experiment} {u : UseCase} {choice : ProfileChoice} {p : Profile}
    (h : e.Registers x u choice p) : (stored x u p).PositiveTerms := by
  have hterms := Experiment.positiveTerms_of_checkSettings h.settings
  unfold stored Experiment.withDefaultProfile
  split <;> exact hterms

theorem steady_kept (c : Config) : Kept (fun _ => False) (Steady c) where
  books hb h := by
    refine ⟨hb.handlers.trans h.handlers, ?_, hb.store ▸ h.terms⟩
    rw [ProfileStore.Loads, hb.profiles]
    exact h.profiles
  register {e} x h := by
    have hsettings := sameSettings_register e x
    refine ⟨hsettings.handlers.trans h.handlers, ?_, ?_⟩
    · rw [ProfileStore.Loads, hsettings.profiles]
      exact h.profiles
    · exact forall_stored_register h.terms fun _ _ _ hx => positiveTerms_stored hx
  ingest {e} s h := by
    have hsettings := sameSettings_ingestItem e s
    refine ⟨hsettings.handlers.trans h.handlers, ?_, ?_⟩
    · rw [ProfileStore.Loads, hsettings.profiles]
      exact h.profiles
    · have hregular : e.handlers.Regular := h.handlers ▸ HandlerRegistry.regular_builtin c
      exact forall_stored_ingestItem h.terms fun _ _ _ _ _ _ hold hacc =>
        (hacc.sameDefinition (i := e.ingestion) hregular).positiveTerms hold
  load experiments hnone h := by
    cases experiments with
    | nil => exact ⟨h.handlers, h.profiles, h.terms⟩
    | cons x _ => exact (hnone x List.mem_cons_self).elim
  profiles p hloads h := ⟨h.handlers, hloads h.profiles, h.terms⟩

/-- The answer to a result is one of three. -/
theorem Steady.status_ingestItem {c : Config} {e : Engine} (h : Steady c e) (hdays : 0.0 < c.termDays) (s : Submission) :
    (e.ingestItem s).1.verdict.status ∈ [Status.created, Status.badRequest, Status.conflict] := by
  have hverdict : (e.ingestItem s).1.verdict = .ofResult (e.ingestion.process e.store s).1 := rfl
  rw [hverdict]
  cases hmade : (e.ingestion.process e.store s).1 with
  | ok counts => exact List.mem_cons_self
  | error r =>
    have hexpected := Ingestion.expected_of_process (i := e.ingestion) h.handlers hdays h.profiles h.terms hmade
    simpa [Verdict.ofResult, Rejection.verdict, Rejection.Expected] using Or.inr hexpected

/-- **No result breaks anything.** Take the built-in handlers, profiles that can be loaded and a default term that is
longer than nothing, and let experiments come in through registrations only. Then every result of every batch is
created, refused or a conflict; the store never leaves the outcome of a result unset; and the merge fails for windows
across an inserted second only, in which case the result is refused for it and nothing is stored. -/
theorem internal_error_unreachable (c : Config) (profiles : ProfileStore) (calls : List Call)
    (hloads : profiles.Loads) (hdays : 0.0 < c.termDays) (hloaded : ∀ call ∈ calls, call.loaded = []) :
    ∃ f, (ofConfig c profiles).after calls = f ∧
      (∀ results, ∀ i ∈ (f.ingestAll results).1.items,
        i.verdict.status ∈ [Status.created, Status.badRequest, Status.conflict]) ∧
      (∀ unset store s, f.ingestion.processNoting unset store s = f.ingestion.process store s) ∧
      ∀ s key e choice profile why, s.checkMandatory = .ok key → f.store.get? s.name = some e →
        e.precheck f.config s key = .ok choice → choice.find f.profiles = .ok profile →
        ResourceTuning.refuse? profile s = none → (e.merge s key.start key.finish).2 = .error why →
        key.AcrossInserted ∧ f.ingestion.process f.store s = (.error (.invalid why.message), f.store) := by
  -- the terms of what is stored have been checked, as nothing is loaded
  have hstart : Steady c (ofConfig c profiles) := ⟨rfl, hloads, fun _ _ h => by cases h⟩
  have hsteady : Steady c ((ofConfig c profiles).after calls) :=
    (steady_kept c).after (fun o ho x hx => by simp [hloaded o ho] at hx) hstart
  refine ⟨_, rfl, ?_, fun _ _ _ => Ingestion.processNoting_eq _ _ _ _, ?_⟩
  · intro results i hi
    exact forall_items_runBatch (P := Steady c)
      (Q := fun i => i.verdict.status ∈ [Status.created, Status.badRequest, Status.conflict])
      (fun e s h => ⟨(steady_kept c).ingest s h, h.status_ingestItem hdays s⟩) _ results _ hsteady i hi
  · intro s key e choice profile why hkey he hpre hfind hvalid hmerge
    have hhandler := HandlerRegistry.find?_builtin c profile.name
    rw [← hsteady.handlers] at hhandler
    exact ⟨Experiment.merge_error_of_prechecked hpre hmerge,
      Ingestion.process_of_merge_error hkey he hpre hfind hhandler hvalid hmerge⟩

/-- Windows of a second. -/
def briefExample : Experiment := { checkoutExample with trialSettings := some { measurementDuration := "1s" } }

/-- From 2017-01-01T00:00:00Z to 2016-12-31T23:59:60.5Z. -/
def insertedKey : ResultKey where
  name := "checkout"
  start := ⟨1483228800, 0, by decide⟩
  finish := ⟨1483228799, 1500000000, by decide⟩

/-- A result for that window. -/
def insertedResult : Submission where
  declaredName := some "checkout"
  start := some insertedKey.start
  finish := some insertedKey.finish
  objects := [{ name := "web", containers := [{ name := "server" }] }]

/-- The result comes through the checks of its length, of its window, of its objects and of its metrics. -/
theorem insertedResult_checked :
    ∃ f e choice profile, (ofConfig {} {}).after [.serve (.register briefExample)] = f ∧
      f.store.get? "checkout" = some e ∧ e.precheck f.config insertedResult insertedKey = .ok choice ∧
      choice.find f.profiles = .ok profile ∧ ResourceTuning.refuse? profile insertedResult = none := by
  have hchecked : ((((ofConfig {} {}).after [.serve (.register briefExample)]).store.get? "checkout").bind fun e =>
      (e.precheck {} insertedResult insertedKey).toOption.bind fun choice =>
        (choice.find {}).toOption.filter fun p => (ResourceTuning.refuse? p insertedResult).isNone).isSome = true := by
    decide +kernel
  obtain ⟨profile, hchecked⟩ := Option.isSome_iff_exists.1 hchecked
  simp only [Option.bind_eq_some_iff, Option.filter_eq_some_iff, Option.isNone_iff_eq_none] at hchecked
  obtain ⟨e, he, choice, hpre, hfind, hvalid⟩ := hchecked
  exact ⟨_, e, choice, profile, rfl, he, of_toOption_eq_some hpre, of_toOption_eq_some hfind, hvalid⟩

/-- It fails in the merge: the window ends before it starts. -/
theorem insertedResult_fails_in_merge :
    ProfileStore.Loads {} ∧ 0.0 < ({} : Config).termDays ∧
    ∃ f e choice, (ofConfig {} {}).after [.serve (.register briefExample)] = f ∧
      f.store.get? insertedResult.name = some e ∧ insertedResult.checkMandatory = .ok insertedKey ∧
      e.precheck f.config insertedResult insertedKey = .ok choice ∧
      (e.merge insertedResult insertedKey.start insertedKey.finish).2 =
        .error (.notAfterStart insertedKey.start insertedKey.finish) ∧
      (f.ingestion.process f.store insertedResult).1 =
        .error (.invalid (IntervalError.notAfterStart insertedKey.start insertedKey.finish).message) := by
  obtain ⟨f, e, choice, profile, hf, he, hpre, hfind, hvalid⟩ := insertedResult_checked
  have hhandlers : f.handlers = .builtin {} := by rw [← hf]; rfl
  have hhandler := HandlerRegistry.find?_builtin {} profile.name
  rw [← hhandlers] at hhandler
  have hmerge : (e.merge insertedResult insertedKey.start insertedKey.finish).2 =
      .error (.notAfterStart insertedKey.start insertedKey.finish) := rfl
  have hrefused := Ingestion.process_of_merge_error (i := f.ingestion) rfl he hpre hfind hhandler hvalid hmerge
  exact ⟨⟨_, rfl⟩, by decide +kernel, f, e, choice, hf, he, rfl, hpre, hmerge, congrArg Prod.fst hrefused⟩

/-- It is refused for that, and nothing is stored. -/
theorem insertedResult_refused :
    ProfileStore.Loads {} ∧ 0.0 < ({} : Config).termDays ∧
    (∀ call ∈ [Call.serve (.register briefExample)], call.loaded = []) ∧
    ∃ f why, (ofConfig {} {}).after [.serve (.register briefExample)] = f ∧
      (∀ i ∈ (f.ingestAll [insertedResult]).1.items,
        i.verdict.status ∈ [Status.created, Status.badRequest, Status.conflict]) ∧
      insertedKey.AcrossInserted ∧
      f.ingestion.process f.store insertedResult = (.error (.invalid why), f.store) := by
  have hloads : ProfileStore.Loads {} := ⟨_, rfl⟩
  have hdays : 0.0 < ({} : Config).termDays := by decide +kernel
  have hloaded : ∀ call ∈ [Call.serve (.register briefExample)], call.loaded = [] := by simp [Call.loaded]
  obtain ⟨f, hf, hstatus, -, hmerge⟩ := internal_error_unreachable {} {} _ hloads hdays hloaded
  obtain ⟨_, e, choice, profile, rfl, he, hpre, hfind, hvalid⟩ := insertedResult_checked
  subst hf
  obtain ⟨hacross, hrefused⟩ := hmerge insertedResult insertedKey e choice profile _ rfl he hpre hfind hvalid rfl
  exact ⟨hloads, hdays, hloaded, _, _, rfl, hstatus _, hacross, hrefused⟩

end Engine

end TuningAdvisor
