import TuningAdvisor.Proofs.Runs
/-!
# Everything an engine can be asked to do: the calls of `TuningEngine`

Beside registrations and results, an engine loads stored experiments, recommends, sums up trials, and its profiles may
be added and removed. Recommendations and summaries are bookkeeping, so that **a property of the reachable engines is
one of registrations, results, loads and profile changes** (`Kept.after`).
-/

namespace TuningAdvisor

/-- A call of the engine. -/
inductive Call where
  | serve (request : Request)
  | load (experiments : List Experiment)
  | recommend (layers : List String) (seed : Values) (h : History)
  | summarize (trials : List Trial) (profile : String)
  | addProfile (p : Profile)
  | removeProfile (name : String)

/-- The experiments that come into the store without a check. -/
def Call.loaded : Call → List Experiment
  | .load experiments => experiments
  | _ => []

/-- The load of the profiles has succeeded, or will. -/
def ProfileStore.Loads (s : ProfileStore) : Prop := ∃ profiles, s.contents = .ok profiles

theorem ProfileStore.Loads.change {s : ProfileStore} (h : s.Loads) (name : String) (f : ProfileMap → ProfileMap) :
    (s.change name f).2.Loads := by
  obtain ⟨profiles, hprofiles⟩ := h
  exact ⟨f profiles, by simp only [ProfileStore.change, hprofiles]; rfl⟩

namespace Engine

/-- The engine behind a call. -/
def call (e : Engine) : Call → Engine
  | .serve request => (e.serve request).2
  | .load experiments => (e.load experiments).2
  | .recommend layers seed h => (e.recommend layers seed h).2
  | .summarize trials profile => (e.summarize trials profile).2
  | .addProfile p => { e with profiles := (e.profiles.add p).2 }
  | .removeProfile name => { e with profiles := (e.profiles.remove name).2 }

/-- The engine behind calls. -/
def after (e : Engine) (calls : List Call) : Engine := calls.foldl call e

/-! ## Bookkeeping -/

theorem Books.trans {e f g : Engine} (h : e.Books f) (h' : f.Books g) : e.Books g :=
  ⟨h.toSameSettings.trans h'.toSameSettings, h'.store.trans h.store⟩

theorem books_noteProfiles (e : Engine) (asked : Bool) : e.Books (e.noteProfiles asked) :=
  ⟨sameSettings_update e e.store asked, store_noteProfiles e asked⟩

theorem books_log (e : Engine) (event : Event) : e.Books (e.log event) := ⟨⟨rfl, rfl, rfl⟩, rfl⟩

theorem books_noteReport (e : Engine) (scope : String) (r : Report) : e.Books (e.noteReport scope r) := by
  have hskipped : ∀ (notes : List Notification) (f : Engine), e.Books f →
      e.Books (notes.foldl (fun g n => g.log (.tunableSkipped scope n)) f) := by
    intro notes
    induction notes with
    | nil => exact fun f h => h
    | cons n notes ih => exact fun f h => ih _ (h.trans (books_log f _))
  unfold noteReport
  refine .trans ?_ (books_log _ _)
  exact hskipped r.notifications _ ⟨⟨rfl, rfl, rfl⟩, rfl⟩

theorem books_recommend (e : Engine) (layers : List String) (seed : Values) (h : History) :
    e.Books (e.recommend layers seed h).2 := by
  simp only [recommend]
  split
  · exact ⟨.refl e, rfl⟩
  · exact books_noteReport _ _ _

theorem books_summarize (e : Engine) (trials : List Trial) (profile : String) :
    e.Books (e.summarize trials profile).2 := books_noteProfiles e true

/-! ## Reachable engines -/

/-- What every call keeps, as long as it loads nothing but experiments of a kind. -/
structure Kept (Loadable : Experiment → Prop) (P : Engine → Prop) : Prop where
  books : ∀ {e f : Engine}, e.Books f → P e → P f
  register : ∀ {e : Engine} (x : Experiment), P e → P (e.register x).2
  ingest : ∀ {e : Engine} (s : Submission), P e → P (e.ingestItem s).2
  load : ∀ {e : Engine} (experiments : List Experiment), (∀ x ∈ experiments, Loadable x) → P e →
    P (e.load experiments).2
  profiles : ∀ {e : Engine} (profiles : ProfileStore), (e.profiles.Loads → profiles.Loads) → P e → P { e with profiles }

namespace Kept

variable {Loadable : Experiment → Prop} {P : Engine → Prop} {e : Engine}

theorem serve (hp : Kept Loadable P) (request : Request) (h : P e) : P (e.serve request).2 := by
  have hrun : P (e.run [request]).2 := run_induction (P := fun _ f => P f) (Q := fun _ => True) (l := [])
    hp.books (fun _ h => hp.register _ h) (fun h => hp.ingest _ h) (by simp) h
  simpa [run] using hrun

theorem call (hp : Kept Loadable P) (call : Call) (hload : ∀ x ∈ call.loaded, Loadable x) (h : P e) :
    P (e.call call) := by
  cases call with
  | serve request => exact hp.serve request h
  | load experiments => exact hp.load experiments hload h
  | recommend layers seed history => exact hp.books (books_recommend e layers seed history) h
  | summarize trials profile => exact hp.books (books_summarize e trials profile) h
  | addProfile p => exact hp.profiles _ (fun hloads => hloads.change _ _) h
  | removeProfile name => exact hp.profiles _ (fun hloads => hloads.change _ _) h

theorem after (hp : Kept Loadable P) {calls : List Call}
    (hload : ∀ call ∈ calls, ∀ x ∈ call.loaded, Loadable x) (h : P e) : P (e.after calls) := by
  induction calls generalizing e with
  | nil => exact h
  | cons call rest ih =>
    simp only [List.forall_mem_cons] at hload
    exact ih hload.2 (hp.call call hload.1 h)

end Kept

/-! ## What a batch reports -/

section
variable {σ α : Type} {step : σ → α → BatchItem × σ}

/-- What a step keeps of the items so far, a batch keeps of all that it reports. -/
theorem runBatch_items (P : List BatchItem → σ → Prop)
    (hstep : ∀ items s a, P items s → P (items ++ [(step s a).1]) (step s a).2) (policy : BatchPolicy) :
    ∀ (as : List α) (items : List BatchItem) (s : σ), P items s →
      P (items ++ (runBatch policy step as s).1.items) (runBatch policy step as s).2
  | [], items, s, h => by simpa [runBatch] using h
  | a :: rest, items, s, h => by
    have hnext := hstep items s a h
    unfold runBatch
    dsimp only
    split
    · exact hnext
    · have hrest := runBatch_items P hstep policy rest _ _ hnext
      rwa [List.append_assoc] at hrest

/-- What a step keeps holds throughout a batch, and what it answers then of every item. -/
theorem forall_items_runBatch {P : σ → Prop} {Q : BatchItem → Prop}
    (hstep : ∀ s a, P s → P (step s a).2 ∧ Q (step s a).1) (policy : BatchPolicy) (as : List α) (s : σ) (h : P s) :
    ∀ i ∈ (runBatch policy step as s).1.items, Q i := by
  have hitem : ∀ items s a, (P s ∧ ∀ i ∈ items, Q i) →
      P (step s a).2 ∧ ∀ i ∈ items ++ [(step s a).1], Q i := by
    intro items s a hs
    obtain ⟨hnext, hitem⟩ := hstep s a hs.1
    exact ⟨hnext, List.forall_mem_append.2 ⟨hs.2, by simpa using hitem⟩⟩
  have hitems := runBatch_items (fun items s => P s ∧ ∀ i ∈ items, Q i) hitem policy as [] s ⟨h, by simp⟩
  simpa using hitems.2

end

end Engine

end TuningAdvisor
