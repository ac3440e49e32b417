import TuningAdvisor.Proofs.Counting
/-!
# The gauge of the store: `set_experiments_in_store`

The engine shows how many experiments its store holds, and sets this gauge behind a load and behind a batch of
registrations. Behind a single registration it does not, so that the gauge is stale then: **it lags behind the store by
the single registrations that were accepted since it was last set** (`gauge_of_calls`). Results, recommendations and
summaries change neither of the two.
-/

namespace TuningAdvisor.Engine

/-- The gauge lags behind the store by a number of experiments. -/
def Lags (e : Engine) (n : Nat) : Prop := e.counters.experimentsInStore + n = e.store.size

variable {e : Engine} {n : Nat}

/-- A gauge that has just been set. -/
theorem lags_countStore (e : Engine) : e.countStore.Lags 0 := rfl

theorem Lags.noteProfiles (h : e.Lags n) (asked : Bool) : (e.noteProfiles asked).Lags n := by
  rw [Lags, counters_noteProfiles, store_noteProfiles]
  exact h

theorem Lags.noteHalt (h : e.Lags n) (kind : String) (r : BatchReport) : (e.noteHalt kind r).Lags n := by
  unfold Engine.noteHalt
  split <;> exact h

/-! ## Registrations -/

theorem gauge_register (e : Engine) (x : Experiment) :
    (e.register x).2.counters.experimentsInStore = e.counters.experimentsInStore := by
  have hnoted : ∀ (f : Engine) (r : Registration),
      (f.noteRegistration r).counters.experimentsInStore = f.counters.experimentsInStore := by
    intro f r
    unfold noteRegistration
    dsimp only
    split <;> rfl
  unfold register
  dsimp only
  rw [hnoted, counters_noteProfiles]

/-- An accepted registration puts one more experiment in the store, and leaves the gauge alone. -/
theorem Lags.register (h : e.Lags n) (x : Experiment) :
    (e.register x).2.Lags (if (e.register x).1.success = true then n + 1 else n) := by
  rw [Lags] at h
  rw [Lags, gauge_register]
  rcases register_cases e x with ⟨hrejected, hstore⟩ | ⟨_, _, _, hx, haccepted, hstore⟩
  · rw [hstore, hrejected, if_neg Bool.false_ne_true, h]
  · have hunused : e.store.get? x.name = none := by simpa [SortedMap.contains_eq] using hx.unused
    rw [hstore, haccepted, if_pos rfl, SortedMap.size_insert_of_new _ hunused]
    omega

theorem lags_registerAll (e : Engine) (experiments : List Experiment) : (e.registerAll experiments).2.Lags 0 :=
  lags_countStore _

theorem lags_load (e : Engine) (experiments : List Experiment) : (e.load experiments).2.Lags 0 := lags_countStore _

/-! ## Results and reports -/

theorem gauge_ingestItem (e : Engine) (s : Submission) :
    (e.ingestItem s).2.counters.experimentsInStore = e.counters.experimentsInStore := by
  have hnoted : ∀ (f : Engine) (made : Except Rejection RecommendationCounts),
      (f.noteResult s made).counters.experimentsInStore = f.counters.experimentsInStore := by
    intro f made
    unfold noteResult
    cases made <;> rfl
  unfold ingestItem
  dsimp only
  rw [hnoted, counters_noteProfiles]

/-- An accepted result replaces its experiment. -/
theorem Lags.ingestItem (h : e.Lags n) (s : Submission) : (e.ingestItem s).2.Lags n := by
  rw [Lags] at h
  rw [Lags, gauge_ingestItem, h]
  rcases ingestItem_cases e s with ⟨-, hstore⟩ | ⟨_, _, _, _, _, _, -, hold, -, -, hstore⟩
  · rw [hstore]
  · rw [hstore, SortedMap.size_insert_of_get? _ hold]

theorem Lags.ingestAll (h : e.Lags n) (results : List Submission) : (e.ingestAll results).2.Lags n := by
  have hbatch := runBatch_items (fun _ f => f.Lags n) (fun _ _ s hf => Lags.ingestItem hf s) e.config.batchPolicy
    results [] e h
  exact hbatch.noteHalt _ _

theorem Lags.recommend (h : e.Lags n) (layers : List String) (seed : Values) (history : History) :
    (e.recommend layers seed history).2.Lags n := by
  have hlogged : ∀ (scope : String) (notes : List Notification) (f : Engine),
      f.Lags n → (notes.foldl (fun f note => f.log (.tunableSkipped scope note)) f).Lags n := by
    intro scope notes
    induction notes with
    | nil => exact fun _ hf => hf
    | cons note notes ih => exact fun f hf => ih (f.log _) hf
  unfold Engine.recommend
  dsimp only
  split
  · exact h
  · exact hlogged _ _ _ h

/-! ## Calls -/

/-- How many experiments are not on the gauge behind a call, where `n` were not on it before: one more with an
accepted single registration, and none behind a batch of registrations or a load. -/
def uncountedBy (e : Engine) (n : Nat) : Call → Nat
  | .serve (.register x) => if (e.register x).1.success then n + 1 else n
  | .serve (.registerAll _) | .load _ => 0
  | .serve (.ingestAll _) | .recommend .. | .summarize .. | .addProfile _ | .removeProfile _ => n

/-- How many experiments are not on the gauge behind calls. -/
def uncounted (e : Engine) (n : Nat) : List Call → Nat
  | [] => n
  | call :: rest => (e.call call).uncounted (e.uncountedBy n call) rest

theorem Lags.call (h : e.Lags n) (call : Call) : (e.call call).Lags (e.uncountedBy n call) := by
  cases call with
  | serve request =>
    cases request with
    | register x => exact h.register x
    | registerAll experiments => exact lags_registerAll e experiments
    | ingestAll results => exact h.ingestAll results
  | load experiments => exact lags_load e experiments
  | recommend layers seed history => exact h.recommend layers seed history
  | summarize trials profile => exact h.noteProfiles true
  | addProfile p => exact h
  | removeProfile name => exact h

theorem Lags.after (h : e.Lags n) (calls : List Call) : (e.after calls).Lags (e.uncounted n calls) := by
  induction calls generalizing e n with
  | nil => exact h
  | cons call rest ih => exact ih (h.call call)

/-- Without single registrations, nothing comes past the gauge. -/
theorem uncounted_eq_zero {calls : List Call} (h : ∀ x, Call.serve (.register x) ∉ calls) :
    e.uncounted 0 calls = 0 := by
  induction calls generalizing e with
  | nil => rfl
  | cons call rest ih =>
    have hnone : e.uncountedBy 0 call = 0 := by
      cases call with
      | serve request =>
        cases request with
        | register x => exact absurd List.mem_cons_self (h x)
        | registerAll experiments => rfl
        | ingestAll results => rfl
      | _ => rfl
    rw [uncounted, hnone]
    exact ih fun x hx => h x (List.mem_cons_of_mem _ hx)

/-- **The gauge lags by the single registrations.** Take an engine whose gauge shows the size of its store, as that of a
new engine does, and any calls. Then the gauge falls short of the store by the single registrations that were accepted
since the last load or batch of registrations, by nothing else, and never shows too much. Behind a load and behind a
batch, whatever was loaded, repeated or left out, it is exact; and it is exact all the time where experiments are
registered in batches only. -/
theorem gauge_of_calls (hstart : e.counters.experimentsInStore = e.store.size) (calls : List Call) :
    (e.after calls).counters.experimentsInStore + e.uncounted 0 calls = (e.after calls).store.size ∧
    (∀ experiments, ((e.after calls).load experiments).2.counters.experimentsInStore =
      ((e.after calls).load experiments).2.store.size) ∧
    (∀ experiments, ((e.after calls).registerAll experiments).2.counters.experimentsInStore =
      ((e.after calls).registerAll experiments).2.store.size) ∧
    ((∀ x, Call.serve (.register x) ∉ calls) →
      (e.after calls).counters.experimentsInStore = (e.after calls).store.size) := by
  have hzero : e.Lags 0 := hstart
  have hcalls := hzero.after calls
  refine ⟨hcalls, lags_load _, lags_registerAll _, fun hbatches => ?_⟩
  rw [uncounted_eq_zero hbatches] at hcalls
  exact hcalls

/-- One experiment is registered and gets a result. The gauge still shows an empty store. -/
theorem gauge_of_checkoutCalls :
    (ofConfig {} {}).counters.experimentsInStore = (ofConfig {} {}).store.size ∧
    ((ofConfig {} {}).after checkoutCalls).counters.experimentsInStore = 0 ∧
    ((ofConfig {} {}).after checkoutCalls).store.size = 1 ∧ (ofConfig {} {}).uncounted 0 checkoutCalls = 1 := by
  have hgauge : ((ofConfig {} {}).after checkoutCalls).counters.experimentsInStore = 0 := by decide +kernel
  have hsize : ((ofConfig {} {}).after checkoutCalls).store.size = 1 := by decide +kernel
  have hlags := (gauge_of_calls (e := ofConfig {} {}) rfl checkoutCalls).1
  rw [hgauge, hsize, Nat.zero_add] at hlags
  exact ⟨rfl, hgauge, hsize, hlags⟩

end TuningAdvisor.Engine
