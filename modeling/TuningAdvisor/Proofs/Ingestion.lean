import TuningAdvisor.Admission.Ingestion
import TuningAdvisor.Proofs.SortedMap
/-!
# Ingestion is all or nothing: `ResultValidator::process`

Work on a stored experiment is done in place, so a write before a failure would stay. `ReadOnly` and
`AllOrNothing` say of a piece of work what it may leave behind, and go through `bind`: **the checks,
the merge and the recommendations read only, and the one write is the last thing that happens**. The
same walk backwards gives what an acceptance means (`apply_ok_iff`).
-/

namespace TuningAdvisor

namespace InPlace

variable {ε σ α β : Type}

/-- Runs the work. -/
def on (m : InPlace ε σ α) (s : σ) : Except ε α × σ := m.run.run s

/-- Leaves alone what it works on. -/
def ReadOnly (m : InPlace ε σ α) : Prop := ∀ e, (m.on e).2 = e

/-- Leaves it alone wherever it fails. -/
def AllOrNothing (m : InPlace ε σ α) : Prop := ∀ e r, (m.on e).1 = .error r → (m.on e).2 = e

theorem on_bind (m : InPlace ε σ α) (f : α → InPlace ε σ β) (e : σ) :
    (m >>= f).on e = match m.on e with
      | (.ok a, e') => (f a).on e'
      | (.error r, e') => (.error r, e') := by
  show (ExceptT.bindCont f (m.run.run e).1).run (m.run.run e).2 = _
  unfold on
  rcases m.run.run e with ⟨r | a, e'⟩ <;> rfl

theorem on_bind_of_ok {m : InPlace ε σ α} {e e' : σ} {a : α} (h : m.on e = (.ok a, e')) (f : α → InPlace ε σ β) :
    (m >>= f).on e = (f a).on e' := by rw [on_bind, h]

theorem on_bind_of_error {m : InPlace ε σ α} {e e' : σ} {r : ε} (h : m.on e = (.error r, e'))
    (f : α → InPlace ε σ β) : (m >>= f).on e = (.error r, e') := by rw [on_bind, h]

@[simp] theorem on_get (e : σ) : (get : InPlace ε σ σ).on e = (.ok e, e) := rfl

@[simp] theorem on_set (e e' : σ) : (set e' : InPlace ε σ PUnit).on e = (.ok (), e') := rfl

@[simp] theorem on_modify (f : σ → σ) (e : σ) : (modify f : InPlace ε σ PUnit).on e = (.ok (), f e) := rfl

@[simp] theorem on_pure (a : α) (e : σ) : (pure a : InPlace ε σ α).on e = (.ok a, e) := rfl

@[simp] theorem on_lift (x : Except ε α) (e : σ) : (liftM x : InPlace ε σ α).on e = (x, e) := rfl

theorem AllOrNothing.bind {m : InPlace ε σ α} {f : α → InPlace ε σ β} (hm : m.ReadOnly)
    (hf : ∀ a, (f a).AllOrNothing) : (m >>= f).AllOrNothing := by
  intro e r he
  have h := hm e
  rw [on_bind] at he ⊢
  rcases hr : m.on e with ⟨r' | a, e'⟩ <;> rw [hr] at h he
  · exact h
  · exact (hf a e' r he).trans h

theorem AllOrNothing.write (e' : σ) (a : α) :
    (do set e'; return a : InPlace ε σ α).AllOrNothing := by
  intro e r he
  rw [on_bind] at he
  cases he

theorem AllOrNothing.throw (r : ε) : (throw r : InPlace ε σ α).AllOrNothing := fun _ _ _ => rfl

/-- Work that succeeds succeeds in both of its parts. -/
theorem of_bind_ok {m : InPlace ε σ α} {f : α → InPlace ε σ β} {e e' : σ} {b : β}
    (h : (m >>= f).on e = (.ok b, e')) : ∃ a e₁, m.on e = (.ok a, e₁) ∧ (f a).on e₁ = (.ok b, e') := by
  rw [on_bind] at h
  split at h
  · rename_i a e₁ hm; exact ⟨a, e₁, hm, h⟩
  · cases h

theorem of_lift_bind_ok {x : Except ε α} {f : α → InPlace ε σ β} {e e' : σ} {b : β}
    (h : ((liftM x : InPlace ε σ α) >>= f).on e = (.ok b, e')) : ∃ a, x = .ok a ∧ (f a).on e = (.ok b, e') := by
  obtain ⟨a, e₁, hx, h⟩ := of_bind_ok h
  cases hx
  exact ⟨a, rfl, h⟩

/-- Work that fails does so in its first part, or behind it. -/
theorem of_lift_bind_error {x : Except ε α} {f : α → InPlace ε σ β} {e : σ} {r : ε}
    (h : (((liftM x : InPlace ε σ α) >>= f).on e).1 = .error r) :
    x = .error r ∨ ∃ a, x = .ok a ∧ ((f a).on e).1 = .error r := by
  rw [on_bind, on_lift] at h
  cases x with
  | error r' => cases h; exact .inl rfl
  | ok a => exact .inr ⟨a, rfl, h⟩

end InPlace

section MapError

variable {ε ε' α : Type} {f : ε → ε'} {x : Except ε α}

@[simp] theorem mapError_ok (a : α) : (Except.ok a : Except ε α).mapError f = .ok a := rfl

theorem of_mapError_ok {a : α} (h : x.mapError f = .ok a) : x = .ok a := by
  cases x with
  | error e => cases h
  | ok b => cases h; rfl

theorem of_mapError_error {e' : ε'} (h : x.mapError f = .error e') : ∃ e, x = .error e ∧ f e = e' := by
  cases x with
  | error e => exact ⟨e, rfl, Except.error.inj h⟩
  | ok a => cases h

end MapError

theorem of_toOption_eq_some {ε α : Type} {x : Except ε α} {a : α} (h : x.toOption = some a) : x = .ok a := by
  cases x with
  | error e => cases h
  | ok b => cases h; rfl

/-- A sequence that succeeds succeeds in both of its parts. -/
theorem of_except_bind_ok {ε α β : Type} {x : Except ε α} {f : α → Except ε β} {b : β}
    (h : x >>= f = .ok b) : ∃ a, x = .ok a ∧ f a = .ok b := by
  cases x with
  | error e => cases h
  | ok a => exact ⟨a, rfl, h⟩

theorem of_except_map_ok {ε α β : Type} {x : Except ε α} {f : α → β} {b : β} (h : f <$> x = .ok b) :
    ∃ a, x = .ok a ∧ f a = b := by
  cases x with
  | error e => cases h
  | ok a => exact ⟨a, rfl, Except.ok.inj h⟩

/-- A sequence fails in its first part, or behind it. -/
theorem of_except_bind_error {ε α β : Type} {x : Except ε α} {f : α → Except ε β} {r : ε}
    (h : x >>= f = .error r) : x = .error r ∨ ∃ a, x = .ok a ∧ f a = .error r := by
  cases x with
  | error e => cases h; exact .inl rfl
  | ok a => exact .inr ⟨a, rfl, h⟩

namespace Experiment

variable {e : Experiment} {c : Config} {s : Submission} {key : ResultKey} {choice : ProfileChoice}

/-- What it takes to get as far as the lookup of the profile. -/
structure Prechecked (e : Experiment) (c : Config) (s : Submission) (key : ResultKey) (choice : ProfileChoice) :
    Prop where
  duration : e.checkDuration c key.start key.finish = .ok ()
  unused : e.windows.get? key.finish = none
  objects : e.checkObjects s = .ok ()
  profile : e.currentProfile = .ok choice

theorem prechecked_of_ok (h : e.precheck c s key = .ok choice) : e.Prechecked c s key choice := by
  unfold precheck at h
  obtain ⟨_, hduration, h⟩ := of_except_bind_ok h
  dsimp only at h
  split at h
  · cases h
  · rename_i hunused
    obtain ⟨_, hobjects, hprofile⟩ := of_except_bind_ok h
    exact ⟨hduration, by simpa [SortedMap.contains_eq] using hunused, hobjects, hprofile⟩

end Experiment

namespace Ingestion

/-- What it takes to accept a result, and what is stored when it is: every check passes, the merge
and the recommendations succeed, and the experiment is left as the recommendations leave it. -/
structure Acceptance (i : Ingestion) (e : Experiment) (s : Submission) (key : ResultKey)
    (profile : Profile) (handler : Handler) (e' : Experiment) (counts : RecommendationCounts) : Prop where
  checked : ∃ choice, e.precheck i.config s key = .ok choice ∧ choice.find i.profiles = .ok profile
  handled : i.handlers.find? profile.name = some handler
  valid : handler.refuse? profile s = none
  stored : ∃ merged n, e.merge s key.start key.finish = (merged, .ok n) ∧
    handler.recommend profile merged key.finish = (e', .ok counts)

theorem apply_allOrNothing (i : Ingestion) (s : Submission) (key : ResultKey) :
    (i.apply s key).AllOrNothing := by
  unfold apply
  refine .bind (fun _ => rfl) fun e => ?_
  refine .bind (fun _ => rfl) fun choice => ?_
  refine .bind (fun _ => rfl) fun profile => ?_
  split
  · dsimp only
    split
    · exact fun _ _ _ => rfl
    · refine .bind (fun _ => rfl) fun _ => ?_
      exact .bind (fun _ => rfl) fun _ => .write _ _
  · exact .throw _

/-- A result is accepted exactly as `Acceptance` says. -/
theorem apply_ok_iff {i : Ingestion} {e e' : Experiment} {s : Submission} {key : ResultKey}
    {counts : RecommendationCounts} :
    (i.apply s key).on e = (.ok counts, e') ↔
      ∃ profile handler, i.Acceptance e s key profile handler e' counts := by
  constructor
  · intro h
    unfold apply at h
    obtain ⟨_, _, hget, h⟩ := InPlace.of_bind_ok h
    cases hget
    obtain ⟨choice, hchoice, h⟩ := InPlace.of_lift_bind_ok h
    obtain ⟨profile, hprofile, h⟩ := InPlace.of_lift_bind_ok h
    split at h
    · rename_i handler hhandler
      dsimp only at h
      split at h
      · cases h
      · rename_i hvalid
        obtain ⟨n, hmerged, h⟩ := InPlace.of_lift_bind_ok h
        obtain ⟨counts', hmade, h⟩ := InPlace.of_lift_bind_ok h
        cases h
        refine ⟨profile, handler, ⟨choice, hchoice, hprofile⟩, hhandler, ?_, _, n,
          Prod.ext rfl (of_mapError_ok hmerged), Prod.ext rfl (of_mapError_ok hmade)⟩
        exact Option.eq_none_iff_forall_ne_some.2 hvalid
    · cases h
  · rintro ⟨profile, handler, ⟨choice, hchoice, hprofile⟩, hhandler, hvalid, merged, n, hmerge, hrec⟩
    simp only [apply, InPlace.on_bind, InPlace.on_get, InPlace.on_lift, hchoice, hprofile, hhandler, hvalid,
      hmerge, hrec, mapError_ok, InPlace.on_set, InPlace.on_pure]

/-! ## The store -/

theorem key_of_checkMandatory {s : Submission} {key : ResultKey} (h : s.checkMandatory = .ok key) :
    key.name = s.name ∧ s.start = some key.start ∧ s.finish = some key.finish := by
  unfold Submission.checkMandatory at h
  dsimp only at h
  split at h
  · rename_i hstart hfinish
    cases h
    exact ⟨rfl, hstart, hfinish⟩
  · cases h

/-- The work on a result is done on the experiment that it names. -/
theorem process_found {i : Ingestion} {store : ExperimentStore} {s : Submission} {key : ResultKey} {e : Experiment}
    (hkey : s.checkMandatory = .ok key) (he : store.get? s.name = some e) :
    i.process store s = (((i.apply s key).on e).1, store.insert s.name ((i.apply s key).on e).2) := by
  have hname := (key_of_checkMandatory hkey).1
  simp only [process, hkey, hname, he]
  rfl

/-- A result that is rejected leaves the store as it was. -/
theorem process_error {i : Ingestion} {store : ExperimentStore} {s : Submission} {r : Rejection}
    (h : (i.process store s).1 = .error r) : (i.process store s).2 = store := by
  unfold process at h ⊢
  split
  · rfl
  · split
    · rfl
    · rename_i key hkey _ e he
      simp only [hkey, he] at h
      have hkept : ((i.apply s key).on e).2 = e := i.apply_allOrNothing s key e r h
      show store.insert key.name ((i.apply s key).on e).2 = store
      rw [hkept]
      exact SortedMap.insert_of_get? he

/-- A result that is accepted replaces the experiment that it names, and nothing else. -/
theorem process_ok {i : Ingestion} {store : ExperimentStore} {s : Submission} {counts : RecommendationCounts}
    (h : (i.process store s).1 = .ok counts) :
    ∃ key e profile handler e', s.checkMandatory = .ok key ∧ store.get? s.name = some e ∧
      i.Acceptance e s key profile handler e' counts ∧ (i.process store s).2 = store.insert s.name e' := by
  unfold process at h ⊢
  split at h
  · cases h
  · rename_i key hkey
    have hname := (key_of_checkMandatory hkey).1
    split at h
    · cases h
    · rename_i e he
      have hrun : (i.apply s key).on e = (.ok counts, ((i.apply s key).on e).2) := Prod.ext h rfl
      obtain ⟨profile, handler, hacc⟩ := apply_ok_iff.1 hrun
      rw [hname] at he
      simp only [hkey, hname, he]
      exact ⟨key, e, profile, handler, _, rfl, rfl, hacc, rfl⟩

/-- **Ingestion is atomic and local.** Whatever the store, the profiles, the handlers and the
configuration are: a result that is not accepted leaves every experiment as it was, and one that is
accepted has gone through every check, is merged and has its recommendations, all in the one
experiment that it names. -/
theorem process_atomic_local (i : Ingestion) (store : ExperimentStore) (s : Submission) :
    ((Verdict.ofResult (i.process store s).1).success = false → (i.process store s).2 = store) ∧
    ((Verdict.ofResult (i.process store s).1).success = true →
      (∃ key e profile handler e' counts, s.checkMandatory = .ok key ∧ store.get? s.name = some e ∧
        i.Acceptance e s key profile handler e' counts ∧
        i.process store s = (.ok counts, store.insert s.name e')) ∧
      ∀ name, name ≠ s.name → (i.process store s).2.get? name = store.get? name) := by
  cases h : (i.process store s).1 with
  | error r =>
    refine ⟨fun _ => process_error h, fun hs => ?_⟩
    simp [Verdict.ofResult, Rejection.verdict] at hs
  | ok counts =>
    refine ⟨fun hs => ?_, fun _ => ?_⟩
    · simp [Verdict.ofResult, Verdict.accepted] at hs
    · obtain ⟨key, e, profile, handler, e', hkey, he, hacc, hstore⟩ := process_ok h
      refine ⟨⟨key, e, profile, handler, e', counts, hkey, he, hacc, Prod.ext h hstore⟩, fun name hname => ?_⟩
      rw [hstore, SortedMap.get?_insert_of_ne _ _ hname]

end Ingestion

end TuningAdvisor
