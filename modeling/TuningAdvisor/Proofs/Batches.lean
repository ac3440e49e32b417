import TuningAdvisor.Proofs.Independence
/-!
# Batches that halt and batches that continue: `BatchPolicy` in `create_experiments` and `update_results`

Two runs of a batch are compared item by item: states that no item can tell apart stay so (`Respects`), and an item
that fails leaves a state that cannot be told apart from the one it came to (`NoOps`). From these two, **a batch that
halts has done what one that continues does up to the first failure** (`runBatch_halt`), **and an item that failed may as
well not have been there** (`runBatch_eraseIdx`). The engine has both: its operations respect equality of the stores,
and every rejection leaves the store alone.
-/

namespace TuningAdvisor

/-- The items up to the first one that failed, this one included. -/
def upToFailure : List BatchItem → List BatchItem
  | [] => []
  | i :: rest => if i.verdict.success then i :: upToFailure rest else [i]

section Batch

variable {σ α : Type} {step : σ → α → BatchItem × σ} {R : σ → σ → Prop}

/-- Whatever the policy is, every item is reported or skipped. -/
theorem length_runBatch (policy : BatchPolicy) (step : σ → α → BatchItem × σ) : ∀ (as : List α) (s : σ),
    (runBatch policy step as s).1.items.length + (runBatch policy step as s).1.skipped = as.length
  | [], _ => rfl
  | a :: rest, s => by
    unfold runBatch
    dsimp only
    split
    · simp only [List.length_cons, List.length_nil]
      omega
    · have hrest := length_runBatch policy step rest (step s a).2
      simp only [List.length_cons]
      omega

theorem runBatch_continue_cons (a : α) (rest : List α) (s : σ) :
    runBatch .continue step (a :: rest) s =
      ({ items := (step s a).1 :: (runBatch .continue step rest (step s a).2).1.items
         skipped := (runBatch .continue step rest (step s a).2).1.skipped },
        (runBatch .continue step rest (step s a).2).2) := by
  rw [runBatch]
  simp

theorem runBatch_halt_cons_of_success {a : α} {s : σ} (rest : List α) (h : (step s a).1.verdict.success = true) :
    runBatch .haltOnFirstFailure step (a :: rest) s =
      ({ items := (step s a).1 :: (runBatch .haltOnFirstFailure step rest (step s a).2).1.items
         skipped := (runBatch .haltOnFirstFailure step rest (step s a).2).1.skipped },
        (runBatch .haltOnFirstFailure step rest (step s a).2).2) := by
  rw [runBatch]
  simp [h]

theorem runBatch_halt_cons_of_failure {a : α} {s : σ} (rest : List α) (h : (step s a).1.verdict.success = false) :
    runBatch .haltOnFirstFailure step (a :: rest) s =
      ({ items := [(step s a).1], skipped := rest.length }, (step s a).2) := by
  rw [runBatch]
  simp [h]

/-- A batch that continues skips nothing. -/
theorem skipped_runBatch_continue (step : σ → α → BatchItem × σ) : ∀ (as : List α) (s : σ),
    (runBatch .continue step as s).1.skipped = 0
  | [], _ => rfl
  | a :: rest, s => by
    rw [runBatch_continue_cons]
    exact skipped_runBatch_continue step rest (step s a).2

/-- Steps have the same outcome in states that cannot be told apart, and lead to such states. -/
def Respects (step : σ → α → BatchItem × σ) (R : σ → σ → Prop) : Prop :=
  ∀ {s t : σ} (a : α), R s t → (step t a).1 = (step s a).1 ∧ R (step s a).2 (step t a).2

/-- A step that fails leads to a state that cannot be told apart from the one before it. -/
def NoOps (step : σ → α → BatchItem × σ) (R : σ → σ → Prop) : Prop :=
  ∀ {s : σ} {a : α}, (step s a).1.verdict.success = false → R (step s a).2 s

theorem runBatch_continue_congr (hstep : Respects step R) : ∀ (as : List α) {s t : σ}, R s t →
    (runBatch .continue step as t).1 = (runBatch .continue step as s).1 ∧
      R (runBatch .continue step as s).2 (runBatch .continue step as t).2
  | [], _, _, h => ⟨rfl, h⟩
  | a :: rest, s, t, h => by
    obtain ⟨hitem, hnext⟩ := hstep a h
    obtain ⟨hreport, hlast⟩ := runBatch_continue_congr hstep rest hnext
    rw [runBatch_continue_cons, runBatch_continue_cons, hitem, hreport]
    exact ⟨rfl, hlast⟩

/-- A batch that halts reports what one that continues reports up to the first failure, and leaves what that one leaves
behind so many items. -/
theorem runBatch_halt (hstep : Respects step R) : ∀ (as : List α) {s t : σ}, R s t →
    (runBatch .haltOnFirstFailure step as t).1.items = upToFailure (runBatch .continue step as s).1.items ∧
      R (runBatch .continue step (as.take (runBatch .haltOnFirstFailure step as t).1.items.length) s).2
        (runBatch .haltOnFirstFailure step as t).2
  | [], _, _, h => ⟨rfl, h⟩
  | a :: rest, s, t, h => by
    obtain ⟨hitem, hnext⟩ := hstep a h
    rw [runBatch_continue_cons, upToFailure]
    by_cases hok : (step s a).1.verdict.success = true
    · obtain ⟨hitems, hlast⟩ := runBatch_halt hstep rest hnext
      rw [runBatch_halt_cons_of_success rest (by rw [hitem, hok]), if_pos hok, hitem]
      refine ⟨congrArg ((step s a).1 :: ·) hitems, ?_⟩
      dsimp only
      rw [List.length_cons, List.take_succ_cons, runBatch_continue_cons]
      exact hlast
    · have hfailed : (step s a).1.verdict.success = false := by simpa using hok
      rw [runBatch_halt_cons_of_failure rest (by rw [hitem, hfailed]), if_neg hok, hitem]
      refine ⟨rfl, ?_⟩
      dsimp only
      rw [List.length_singleton, List.take_succ_cons, List.take_zero, runBatch_continue_cons]
      exact hnext

/-- A batch that continues, without one of the items that failed: the others fare as before. -/
theorem runBatch_eraseIdx (hstep : Respects step R) (hnoop : NoOps step R) (hrefl : ∀ s, R s s) :
    ∀ (as : List α) (n : Nat) {s : σ} {item : BatchItem},
      (runBatch .continue step as s).1.items[n]? = some item → item.verdict.success = false →
      (runBatch .continue step (as.eraseIdx n) s).1.items = (runBatch .continue step as s).1.items.eraseIdx n ∧
        R (runBatch .continue step as s).2 (runBatch .continue step (as.eraseIdx n) s).2
  | [], _, s, _, _, _ => ⟨rfl, hrefl s⟩
  | a :: rest, 0, s, item, hn, hfailed => by
    rw [runBatch_continue_cons] at hn ⊢
    have hitem : (step s a).1 = item := by simpa using hn
    obtain ⟨hreport, hlast⟩ := runBatch_continue_congr hstep rest (hnoop (hitem ▸ hfailed))
    rw [List.eraseIdx_cons_zero, List.eraseIdx_cons_zero, hreport]
    exact ⟨rfl, hlast⟩
  | a :: rest, n + 1, s, item, hn, hfailed => by
    rw [runBatch_continue_cons] at hn ⊢
    obtain ⟨hitems, hlast⟩ := runBatch_eraseIdx hstep hnoop hrefl rest n hn hfailed
    rw [List.eraseIdx_cons_succ, runBatch_continue_cons, List.eraseIdx_cons_succ, hitems]
    exact ⟨rfl, hlast⟩

end Batch

namespace Engine

/-- The engine under another batch policy. -/
def withPolicy (e : Engine) (policy : BatchPolicy) : Engine :=
  { e with config := { e.config with batchPolicy := policy } }

/-- Engines that no operation can tell apart. -/
structure Agree (e f : Engine) : Prop extends e.Alike f where
  store : f.store = e.store

variable {e f g : Engine}

namespace Agree

theorem refl (e : Engine) : e.Agree e := ⟨.refl e, rfl⟩

theorem withPolicy (e : Engine) (policy policy' : BatchPolicy) :
    (e.withPolicy policy).Agree (e.withPolicy policy') := ⟨⟨⟨policy', rfl⟩, rfl, rfl⟩, rfl⟩

theorem on (h : e.Agree f) (name : String) : AgreeOn name e f := ⟨h.toAlike, by rw [h.store]⟩

theorem perform (op : Operation) (h : e.Agree f) :
    (f.perform op).1 = (e.perform op).1 ∧ (e.perform op).2.Agree (f.perform op).2 := by
  obtain ⟨hitem, hown⟩ := perform_congr (h.on op.name)
  refine ⟨hitem, hown.toAlike, SortedMap.ext_get? fun name => ?_⟩
  by_cases hname : name = op.name
  · rw [hname]
    exact hown.record
  · have he : AgreeOn name e (e.perform op).2 := agreeOn_perform_of_ne hname
    have hf : AgreeOn name f (f.perform op).2 := agreeOn_perform_of_ne hname
    exact ((he.symm.trans (h.on name)).trans hf).record

/-- **A rejected operation does nothing.** -/
theorem of_rejected {op : Operation} (h : (e.perform op).1.verdict.success = false) : (e.perform op).2.Agree e := by
  refine ⟨(sameSettings_perform e op).alike.symm, ?_⟩
  rcases perform_cases e op with ⟨-, hstore⟩ | ⟨haccepted, -⟩
  · exact hstore.symm
  · rw [haccepted] at h
    cases h

end Agree

/-! ## The batches of the engine -/

section Laws

variable {α : Type}

/-- What a batch of the engine does under the one policy, in terms of what it does under the other. -/
structure BatchLaws (batch : Engine → List α → BatchReport × Engine) (e : Engine) (as : List α) : Prop where
  /-- A batch that continues deals with everything. -/
  complete : (batch (e.withPolicy .continue) as).1.items.length = as.length ∧
    (batch (e.withPolicy .continue) as).1.skipped = 0
  /-- A batch that halts reports the items up to the first failure, -/
  halted : (batch (e.withPolicy .haltOnFirstFailure) as).1.items =
    upToFailure (batch (e.withPolicy .continue) as).1.items
  /-- counts the others, -/
  skipped : (batch (e.withPolicy .haltOnFirstFailure) as).1.items.length +
    (batch (e.withPolicy .haltOnFirstFailure) as).1.skipped = as.length
  /-- and leaves the store as it is behind so many items. -/
  store : (batch (e.withPolicy .haltOnFirstFailure) as).2.store =
    (batch (e.withPolicy .continue) (as.take (batch (e.withPolicy .haltOnFirstFailure) as).1.items.length)).2.store
  /-- What fails may as well not be there. -/
  erased : ∀ (n : Nat) (item : BatchItem), (batch (e.withPolicy .continue) as).1.items[n]? = some item →
    item.verdict.success = false →
    (batch (e.withPolicy .continue) (as.eraseIdx n)).1.items =
        (batch (e.withPolicy .continue) as).1.items.eraseIdx n ∧
      (batch (e.withPolicy .continue) (as.eraseIdx n)).2.store = (batch (e.withPolicy .continue) as).2.store

/-- A batch of operations that are carried out one after the other. -/
structure Batches (op : α → Operation) (batch : Engine → List α → BatchReport × Engine) : Prop where
  report : ∀ (e : Engine) (as : List α),
    (batch e as).1 = (runBatch e.config.batchPolicy (fun e a => e.perform (op a)) as e).1
  store : ∀ (e : Engine) (as : List α),
    (batch e as).2.store = (runBatch e.config.batchPolicy (fun e a => e.perform (op a)) as e).2.store

theorem batches_registerAll : Batches .register registerAll where
  report _ _ := rfl
  store _ _ := (books_countStore _).store.trans (books_noteHalt _ _ _).store

theorem batches_ingestAll : Batches .ingest ingestAll where
  report _ _ := rfl
  store _ _ := (books_noteHalt _ _ _).store

theorem Batches.laws {op : α → Operation} {batch : Engine → List α → BatchReport × Engine} (h : Batches op batch)
    (e : Engine) (as : List α) : BatchLaws batch e as := by
  have hstep : Respects (fun e a => e.perform (op a)) Agree := fun a h => h.perform (op a)
  have hnoop : NoOps (fun e a => e.perform (op a)) Agree := Agree.of_rejected
  have hskipped := skipped_runBatch_continue (fun e a => e.perform (op a)) as (e.withPolicy .continue)
  have hlength := length_runBatch .continue (fun e a => e.perform (op a)) as (e.withPolicy .continue)
  obtain ⟨hitems, hlast⟩ := runBatch_halt hstep as (Agree.withPolicy e .continue .haltOnFirstFailure)
  refine ⟨⟨?_, ?_⟩, ?_, ?_, ?_, ?_⟩
  · rw [h.report]
    rw [hskipped] at hlength
    exact hlength
  · rw [h.report]
    exact hskipped
  · rw [h.report, h.report]
    exact hitems
  · rw [h.report]
    exact length_runBatch .haltOnFirstFailure _ as _
  · rw [h.report, h.store, h.store]
    exact hlast.store
  · intro n item hn hfailed
    rw [h.report] at hn
    rw [h.report, h.report, h.store, h.store]
    obtain ⟨hothers, hend⟩ := runBatch_eraseIdx hstep hnoop .refl as n hn hfailed
    exact ⟨hothers, hend.store⟩

end Laws

/-- **A batch that halts is a prefix of one that continues, and what is rejected does nothing.** For every engine and
every batch, of experiments as well as of results: the report of the batch that halts is the report of the one that
continues up to the first failure, the rest is counted, and the store is the one behind these items. Without an item that
fails, a batch that continues has the same outcome for every other item, and leaves the same store. -/
theorem halting_is_prefix_of_continuing (e : Engine) (experiments : List Experiment) (results : List Submission) :
    BatchLaws registerAll e experiments ∧ BatchLaws ingestAll e results :=
  ⟨batches_registerAll.laws e experiments, batches_ingestAll.laws e results⟩

end Engine

end TuningAdvisor
