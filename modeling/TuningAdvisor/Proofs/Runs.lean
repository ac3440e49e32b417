import TuningAdvisor.Engine
import TuningAdvisor.Proofs.Ingestion
/-!
# Runs of an engine: `create_experiments` and `update_results` in turns

A run serves registrations and results in any order, one by one or in batches. Whatever the batch policy
is, **a batch is its items one after the other, up to the last one that it reports**, so that a property
of a run only has to be kept by a registration and by a result (`run_induction`). The run is seen from
outside: which results were accepted is read off the reports.
-/

namespace TuningAdvisor

/-! ## Batches -/

/-- Items dealt with one after the other, each with what became of it. -/
inductive Trace {σ α : Type} (step : σ → α → BatchItem × σ) : σ → List (α × BatchItem) → σ → Prop where
  | nil {s : σ} : Trace step s [] s
  | cons {s s' : σ} {a : α} {rest : List (α × BatchItem)} :
    Trace step (step s a).2 rest s' → Trace step s ((a, (step s a).1) :: rest) s'

theorem runBatch_trace {σ α : Type} (policy : BatchPolicy) (step : σ → α → BatchItem × σ) :
    ∀ (as : List α) (s : σ),
      Trace step s (as.zip (runBatch policy step as s).1.items) (runBatch policy step as s).2
  | [], _ => .nil
  | a :: rest, s => by
    unfold runBatch
    dsimp only
    split
    · simpa using Trace.cons (a := a) .nil
    · exact .cons (runBatch_trace policy step rest (step s a).2)

/-! ## Requests -/

/-- What an engine is asked to do. -/
inductive Request where
  | register (x : Experiment)
  | registerAll (experiments : List Experiment)
  | ingestAll (results : List Submission)

/-- The experiments that a request brings. -/
def Request.experiments : Request → List Experiment
  | .register x => [x]
  | .registerAll experiments => experiments
  | .ingestAll _ => []

/-- The window of a result, if it was accepted. -/
def BatchItem.accepted (i : BatchItem) (s : Submission) : List ResultKey :=
  if i.verdict.success then s.checkMandatory.toOption.toList else []

/-- Stores with the same contents give the same profiles. -/
theorem ProfileChoice.find_congr {s t : ProfileStore} (choice : ProfileChoice) (h : t.contents = s.contents) :
    choice.find t = choice.find s := by
  cases choice with
  | inline p => rfl
  | named name => simp only [find, ProfileStore.find, h]

namespace Engine

/-- Serves a request; the answer is reduced to the windows of the accepted results. -/
def serve (e : Engine) : Request → List ResultKey × Engine
  | .register x => ([], (e.register x).2)
  | .registerAll experiments => ([], (e.registerAll experiments).2)
  | .ingestAll results =>
    let (report, e) := e.ingestAll results
    ((results.zip report.items).flatMap fun r => r.2.accepted r.1, e)

/-- Serves requests one after the other. -/
def run (e : Engine) : List Request → List ResultKey × Engine
  | [] => ([], e)
  | r :: rest =>
    let (first, e) := e.serve r
    let (later, e) := e.run rest
    (first ++ later, e)

theorem run_append (e : Engine) : ∀ before after : List Request,
    e.run (before ++ after) =
      ((e.run before).1 ++ ((e.run before).2.run after).1, ((e.run before).2.run after).2)
  | [], _ => rfl
  | r :: before, after => by simp only [List.cons_append, run, run_append, List.append_assoc]

/-! ## The settings -/

/-- Same configuration, same handlers, and the same answers of the profile store. -/
structure SameSettings (e f : Engine) : Prop where
  config : f.config = e.config
  handlers : f.handlers = e.handlers
  profiles : f.profiles.contents = e.profiles.contents

namespace SameSettings

variable {e f g : Engine}

theorem refl (e : Engine) : e.SameSettings e := ⟨rfl, rfl, rfl⟩

theorem trans (h : e.SameSettings f) (h' : f.SameSettings g) : e.SameSettings g :=
  ⟨h'.config.trans h.config, h'.handlers.trans h.handlers, h'.profiles.trans h.profiles⟩

theorem answers (h : e.SameSettings f) (name : String) : f.profiles.find name = e.profiles.find name := by
  simp only [ProfileStore.find, h.profiles]

theorem find (h : e.SameSettings f) (choice : ProfileChoice) : choice.find f.profiles = choice.find e.profiles :=
  choice.find_congr h.profiles

end SameSettings

/-- Bookkeeping: neither the experiments nor the settings change. -/
structure Books (e f : Engine) : Prop extends e.SameSettings f where
  store : f.store = e.store

theorem sameSettings_update (e : Engine) (store : ExperimentStore) (asked : Bool) :
    e.SameSettings ({ e with store }.noteProfiles asked) := by
  unfold noteProfiles
  split <;> exact ⟨rfl, rfl, rfl⟩

theorem store_noteProfiles (e : Engine) (asked : Bool) : (e.noteProfiles asked).store = e.store := by
  unfold noteProfiles
  split <;> rfl

theorem books_noteRegistration (e : Engine) (r : Registration) : e.Books (e.noteRegistration r) := by
  unfold noteRegistration
  split <;> exact ⟨⟨rfl, rfl, rfl⟩, rfl⟩

theorem books_noteResult (e : Engine) (s : Submission) (made : Except Rejection RecommendationCounts) :
    e.Books (e.noteResult s made) := by
  unfold noteResult
  split <;> exact ⟨⟨rfl, rfl, rfl⟩, rfl⟩

theorem books_noteHalt (e : Engine) (kind : String) (r : BatchReport) : e.Books (e.noteHalt kind r) := by
  unfold noteHalt
  split <;> exact ⟨⟨rfl, rfl, rfl⟩, rfl⟩

theorem books_countStore (e : Engine) : e.Books e.countStore := ⟨⟨rfl, rfl, rfl⟩, rfl⟩

theorem sameSettings_register (e : Engine) (x : Experiment) : e.SameSettings (e.register x).2 := by
  unfold register
  exact .trans (sameSettings_update _ _ _) (books_noteRegistration _ _).toSameSettings

theorem sameSettings_ingestItem (e : Engine) (s : Submission) : e.SameSettings (e.ingestItem s).2 := by
  unfold ingestItem
  exact .trans (sameSettings_update _ _ _) (books_noteResult _ _ _).toSameSettings

/-! ## One registration, one result -/

/-- What it takes to register an experiment. -/
structure Registers (e : Engine) (x : Experiment) (u : UseCase) (choice : ProfileChoice) (p : Profile) : Prop where
  mandatory : x.checkMandatory = .ok u
  unused : e.store.get? x.name = none
  settings : x.checkSettings e.config = .ok ()
  requested : x.requestedProfile u = .ok choice
  found : choice.find e.profiles = .ok p

/-- What is stored of a registered experiment. -/
def stored (x : Experiment) (u : UseCase) (p : Profile) : Experiment :=
  { (x.withDefaultProfile u).withMetricsOf p with verdict := some .accepted }

theorem name_withDefaultProfile (x : Experiment) (u : UseCase) : (x.withDefaultProfile u).name = x.name := by
  unfold Experiment.withDefaultProfile
  split <;> rfl

/-- A check leaves the name alone. -/
theorem name_check (store : ExperimentStore) (profiles : ProfileStore) (c : Config) (x : Experiment) :
    (Registration.check store profiles c x).experiment.name = x.name := by
  unfold Registration.check
  split
  · rfl
  · dsimp only
    split
    · exact name_withDefaultProfile x _
    · exact name_withDefaultProfile x _

theorem of_precheck_ok {store : ExperimentStore} {c : Config} {x : Experiment} {u : UseCase} {choice : ProfileChoice}
    (h : Registration.precheck store c x = .ok (u, choice)) :
    x.checkMandatory = .ok u ∧ store.get? x.name = none ∧ x.checkSettings c = .ok () ∧
      x.requestedProfile u = .ok choice := by
  unfold Registration.precheck at h
  obtain ⟨u', hu, h⟩ := of_except_bind_ok h
  dsimp only at h
  split at h
  · cases h
  · rename_i hunused
    obtain ⟨_, hsettings, h⟩ := of_except_bind_ok h
    obtain ⟨choice', hchoice, h⟩ := of_except_bind_ok h
    cases h
    exact ⟨hu, by simpa [SortedMap.contains_eq] using hunused, hsettings, hchoice⟩

/-- The store behind a registration. -/
theorem store_register (e : Engine) (x : Experiment) : (e.register x).2.store =
    if (Registration.check e.store e.profiles e.config x).rejection.isSome then e.store
    else e.store.insert (Registration.check e.store e.profiles e.config x).experiment.name
      { (Registration.check e.store e.profiles e.config x).experiment with
        verdict := some (Registration.check e.store e.profiles e.config x).verdict } :=
  (books_noteRegistration _ _).store.trans (store_noteProfiles _ _)

/-- A registration is rejected and leaves the store alone, or it adds one experiment. -/
theorem register_cases (e : Engine) (x : Experiment) :
    ((e.register x).1.success = false ∧ (e.register x).2.store = e.store) ∨
    ∃ u choice p, e.Registers x u choice p ∧ (e.register x).1.success = true ∧
      (e.register x).2.store = e.store.insert x.name (stored x u p) := by
  have hverdict : (e.register x).1 = (Registration.check e.store e.profiles e.config x).verdict := rfl
  rw [store_register, hverdict]
  unfold Registration.check
  split
  · exact .inl ⟨rfl, rfl⟩
  · rename_i u choice hpre
    dsimp only
    split
    · rename_i p hp
      obtain ⟨hmandatory, hunused, hsettings, hrequested⟩ := of_precheck_ok hpre
      refine .inr ⟨u, choice, p, ⟨hmandatory, hunused, hsettings, hrequested, hp⟩, rfl, ?_⟩
      rw [← name_withDefaultProfile x u]
      rfl
    · exact .inl ⟨rfl, rfl⟩

/-- The store behind a result. -/
theorem store_ingestItem (e : Engine) (s : Submission) :
    (e.ingestItem s).2.store = (e.ingestion.process e.store s).2 :=
  (books_noteResult _ _ _).store.trans (store_noteProfiles _ _)

/-- A result is rejected and leaves the store alone, or it changes the experiment that it names. -/
theorem ingestItem_cases (e : Engine) (s : Submission) :
    ((e.ingestItem s).1.verdict.success = false ∧ (e.ingestItem s).2.store = e.store) ∨
    ∃ key old profile handler new counts, s.checkMandatory = .ok key ∧ e.store.get? s.name = some old ∧
      e.ingestion.Acceptance old s key profile handler new counts ∧
      (e.ingestItem s).1.verdict.success = true ∧ (e.ingestItem s).2.store = e.store.insert s.name new := by
  have hverdict : (e.ingestItem s).1.verdict = .ofResult (e.ingestion.process e.store s).1 := rfl
  rw [store_ingestItem, hverdict]
  cases h : (e.ingestion.process e.store s).1 with
  | error r => exact .inl ⟨rfl, Ingestion.process_error h⟩
  | ok counts =>
    obtain ⟨key, old, profile, handler, new, hkey, hold, hacc, hnew⟩ := Ingestion.process_ok h
    exact .inr ⟨key, old, profile, handler, new, counts, hkey, hold, hacc, rfl, hnew⟩

/-- What holds of all that is stored still does behind a registration, if it holds of what is added. -/
theorem forall_stored_register {P : String → Experiment → Prop} {e : Engine} {x : Experiment}
    (h : ∀ name y, e.store.get? name = some y → P name y)
    (hnew : ∀ u choice p, e.Registers x u choice p → P x.name (stored x u p)) :
    ∀ name y, (e.register x).2.store.get? name = some y → P name y := by
  intro name y hy
  rcases register_cases e x with ⟨-, hstore⟩ | ⟨u, choice, p, hx, -, hstore⟩ <;> rw [hstore] at hy
  · exact h name y hy
  · rcases SortedMap.get?_insert_cases hy with ⟨rfl, rfl⟩ | ⟨-, hy⟩
    · exact hnew u choice p hx
    · exact h name y hy

/-- What holds of all that is stored still does behind a result, if what is accepted keeps it. -/
theorem forall_stored_ingestItem {P : String → Experiment → Prop} {e : Engine} {s : Submission}
    (h : ∀ name y, e.store.get? name = some y → P name y)
    (hkeep : ∀ key old profile handler new counts, P s.name old →
      e.ingestion.Acceptance old s key profile handler new counts → P s.name new) :
    ∀ name y, (e.ingestItem s).2.store.get? name = some y → P name y := by
  intro name y hy
  rcases ingestItem_cases e s with ⟨-, hstore⟩ | ⟨key, old, profile, handler, new, counts, -, hold, hacc, -, hstore⟩ <;>
    rw [hstore] at hy
  · exact h name y hy
  · rcases SortedMap.get?_insert_cases hy with ⟨rfl, rfl⟩ | ⟨-, hy⟩
    · exact hkeep key old profile handler _ counts (h _ _ hold) hacc
    · exact h name y hy

/-! ## Whole runs -/

section Notes

variable {β : Type} (note : Submission → BatchItem → List β)

/-- What is noted of the results of a request. -/
def noteServed (e : Engine) : Request → List β
  | .ingestAll results => (results.zip (e.ingestAll results).1.items).flatMap fun r => note r.1 r.2
  | _ => []

/-- What is noted of the results of a run. -/
def noted (e : Engine) : List Request → List β
  | [] => []
  | r :: rest => e.noteServed note r ++ (e.serve r).2.noted rest

end Notes

/-- The answer of a run notes the windows of the accepted results. -/
theorem noted_accepted (e : Engine) : ∀ requests : List Request,
    e.noted (fun s i => i.accepted s) requests = (e.run requests).1
  | [] => rfl
  | r :: rest => by
    rw [noted, noted_accepted _ rest, run]
    cases r <;> rfl

section
variable {β : Type} {note : Submission → BatchItem → List β} {P : List β → Engine → Prop} {Q : Experiment → Prop}

variable (P) in
theorem registerAll_induction (books : ∀ {l e f}, Books e f → P l e → P l f)
    (registered : ∀ {l e x}, Q x → P l e → P l (e.register x).2) {l : List β} {e : Engine}
    (experiments : List Experiment) (hq : ∀ x ∈ experiments, Q x) (h : P l e) : P l (e.registerAll experiments).2 := by
  have hitems : ∀ {e f : Engine} {items : List (Experiment × BatchItem)}, Trace registerItem e items f →
      (∀ r ∈ items, Q r.1) → P l e → P l f := by
    intro e f items ht
    induction ht with
    | nil => exact fun _ h => h
    | cons _ ih => exact fun hq h => ih (fun r hr => hq r (.tail _ hr)) (registered (hq _ (.head _)) h)
  have ht := runBatch_trace e.config.batchPolicy registerItem experiments e
  have hbatch := hitems ht (fun r hr => hq _ (List.of_mem_zip hr).1) h
  exact books (books_countStore _) (books (books_noteHalt _ _ _) hbatch)

variable (P) in
theorem ingestAll_induction (books : ∀ {l e f}, Books e f → P l e → P l f)
    (ingested : ∀ {l e s}, P l e → P (l ++ note s (e.ingestItem s).1) (e.ingestItem s).2)
    {l : List β} {e : Engine} (results : List Submission) (h : P l e) :
    P (l ++ (results.zip (e.ingestAll results).1.items).flatMap fun r => note r.1 r.2) (e.ingestAll results).2 := by
  have hitems : ∀ {e f : Engine} {items : List (Submission × BatchItem)}, Trace ingestItem e items f →
      ∀ {l}, P l e → P (l ++ items.flatMap fun r => note r.1 r.2) f := by
    intro e f items ht
    induction ht with
    | nil => intro l h; simpa using h
    | cons _ ih =>
      intro l h
      rw [List.flatMap_cons, ← List.append_assoc]
      exact ih (ingested h)
  exact books (books_noteHalt _ _ _) (hitems (runBatch_trace e.config.batchPolicy ingestItem results e) h)

variable (note) in
/-- What a registration and a result keep, a run keeps, whatever is noted of the results. -/
theorem noted_induction (books : ∀ {l e f}, Books e f → P l e → P l f)
    (registered : ∀ {l e x}, Q x → P l e → P l (e.register x).2)
    (ingested : ∀ {l e s}, P l e → P (l ++ note s (e.ingestItem s).1) (e.ingestItem s).2) :
    ∀ {requests : List Request} {l : List β} {e : Engine}, (∀ r ∈ requests, ∀ x ∈ r.experiments, Q x) →
      P l e → P (l ++ e.noted note requests) (e.run requests).2
  | [], l, e, _, h => by simpa [run, noted] using h
  | r :: rest, l, e, hq, h => by
    have hr : P (l ++ e.noteServed note r) (e.serve r).2 := by
      cases r with
      | register x => simpa [serve, noteServed] using registered (hq _ (.head _) x (by simp [Request.experiments])) h
      | registerAll experiments =>
        simpa [serve, noteServed] using registerAll_induction P books registered experiments (hq _ (.head _)) h
      | ingestAll results => exact ingestAll_induction P books ingested results h
    have hrest := noted_induction books registered ingested (fun r' hr' => hq r' (.tail _ hr')) hr
    simpa [run, noted, List.append_assoc] using hrest

end

/-- What a registration and a result keep, a run keeps. -/
theorem run_induction {P : List ResultKey → Engine → Prop} {Q : Experiment → Prop}
    (books : ∀ {l e f}, Books e f → P l e → P l f)
    (registered : ∀ {l e x}, Q x → P l e → P l (e.register x).2)
    (ingested : ∀ {l e s}, P l e → P (l ++ (e.ingestItem s).1.accepted s) (e.ingestItem s).2)
    {requests : List Request} {l : List ResultKey} {e : Engine} (hq : ∀ r ∈ requests, ∀ x ∈ r.experiments, Q x)
    (h : P l e) : P (l ++ (e.run requests).1) (e.run requests).2 := by
  rw [← noted_accepted]
  exact noted_induction (fun s i => i.accepted s) (P := P) books registered ingested hq h

theorem sameSettings_run (e : Engine) (requests : List Request) : e.SameSettings (e.run requests).2 :=
  run_induction (P := fun _ f => e.SameSettings f) (Q := fun _ => True) (l := [])
    (fun hb h => h.trans hb.toSameSettings) (fun _ h => h.trans (sameSettings_register _ _))
    (fun h => h.trans (sameSettings_ingestItem _ _)) (fun _ _ _ _ => trivial) (.refl e)

/-! ### One experiment -/

/-- The accepted results of an experiment. -/
def acceptedOf (name : String) (e : Engine) (requests : List Request) : List Submission :=
  e.noted (fun s i => if i.verdict.success && s.name == name then [s] else []) requests

/-- What holds of a stored experiment and is kept by every result that is accepted for it holds of it behind a run. -/
theorem stored_induction {e : Engine} {name : String} {R : List Submission → Experiment → Prop} {old : Experiment}
    (hold : e.store.get? name = some old) (hstart : R [] old)
    (accept : ∀ {f : Engine} {l cur s key profile handler next counts}, e.SameSettings f → R l cur → s.name = name →
      f.ingestion.Acceptance cur s key profile handler next counts → R (l ++ [s]) next) (requests : List Request) :
    ∃ new, (e.run requests).2.store.get? name = some new ∧ R (e.acceptedOf name requests) new := by
  suffices h : e.SameSettings (e.run requests).2 ∧ ∃ new, (e.run requests).2.store.get? name = some new ∧
      R (e.acceptedOf name requests) new from h.2
  refine noted_induction _ (P := fun l f => e.SameSettings f ∧ ∃ new, f.store.get? name = some new ∧ R l new)
    (Q := fun _ => True) (l := []) ?_ ?_ ?_ (fun _ _ _ _ => trivial) ⟨.refl e, old, hold, hstart⟩
  · rintro l f g hb ⟨hs, cur, hcur, hr⟩
    exact ⟨hs.trans hb.toSameSettings, cur, hb.store ▸ hcur, hr⟩
  · rintro l f x - ⟨hs, cur, hcur, hr⟩
    refine ⟨hs.trans (sameSettings_register f x), cur, ?_, hr⟩
    rcases register_cases f x with ⟨-, hstore⟩ | ⟨_, _, _, hx, -, hstore⟩
    · rw [hstore, hcur]
    · have hne : name ≠ x.name := fun e => by rw [e, hx.unused] at hcur; cases hcur
      rw [hstore, SortedMap.get?_insert_of_ne _ _ hne, hcur]
  · rintro l f s ⟨hs, cur, hcur, hr⟩
    refine ⟨hs.trans (sameSettings_ingestItem f s), ?_⟩
    rcases ingestItem_cases f s with ⟨hrejected, hstore⟩ |
      ⟨key, found, profile, handler, next, counts, -, hfound, hacc, haccepted, hstore⟩
    · exact ⟨cur, by rw [hstore, hcur], by simpa [hrejected] using hr⟩
    · by_cases hname : s.name = name
      · subst hname
        cases hfound.symm.trans hcur
        refine ⟨next, by rw [hstore, SortedMap.get?_insert_self], ?_⟩
        simpa [haccepted] using accept hs hr rfl hacc
      · refine ⟨cur, by rw [hstore, SortedMap.get?_insert_of_ne _ _ (Ne.symm hname), hcur], ?_⟩
        simpa [hname] using hr

end Engine

end TuningAdvisor
