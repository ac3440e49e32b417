import Mathlib
import TuningAdvisor.Proofs.Calls
import TuningAdvisor.Proofs.History
import TuningAdvisor.Proofs.Lists
/-!
# What the counters count: `TunerMetrics` in `TuningEngine`

Every answer of an engine leaves its trace in the counters, and nothing else does: **the counters of a fresh engine are
at any time the counts of what it has answered since** (`Engine.counters_of_calls`). One family falls short of its help
text. The notifications of a report are counted by their kinds, but those that come of an accepted result are not:
they are missing from the skipped tunables.
-/

namespace TuningAdvisor

/-! ## Counts under labels -/

namespace Counters

/-- What is counted under a label. -/
def under (m : SortedMap String Nat) (label : String) : Nat := (m.get? label).getD 0

theorem under_bump (m : SortedMap String Nat) (label label' : String) :
    under (bump m label) label' = under m label' + if label' = label then 1 else 0 := by
  unfold under bump
  by_cases h : label' = label
  · subst h
    rw [SortedMap.get?_insert_self, if_pos rfl]
    rfl
  · rw [SortedMap.get?_insert_of_ne _ _ h, if_neg h]
    rfl

/-- What is counted under a number. -/
theorem under_bump_toString (m : SortedMap String Nat) (n n' : Nat) :
    under (bump m (toString n)) (toString n') = under m (toString n') + if n' = n then 1 else 0 := by
  rw [under_bump]
  exact congrArg _ (if_congr Nat.repr_inj rfl rfl)

/-- One more is counted under all labels together. -/
theorem total_bump (m : SortedMap String Nat) (label : String) : total (bump m label).values = total m.values + 1 := by
  have hinsert : ∀ n, total (m.insert label n).values = n + total (m.erase label).values := by
    intro n
    have hperm := (m.perm_insert_erase label n).map (·.2)
    exact total_eq_of_perm hperm
  unfold bump
  rw [hinsert]
  cases h : m.get? label with
  | none =>
    have hsame := total_eq_of_perm ((SortedMap.perm_insert (v := 0) h).map (·.2))
    have hzero := hinsert 0
    simp only [List.map_cons, total_cons] at hsame
    simp only [SortedMap.values, Option.getD_none] at *
    omega
  | some n =>
    have hsame := hinsert n
    rw [SortedMap.insert_of_get? h] at hsame
    simp only [Option.getD_some]
    omega

theorem kind_name_injective : ∀ k k' : NotificationKind, k.name = k'.name → k = k' := by
  intro k k'
  cases k <;> cases k' <;> decide

theorem under_skip (notes : List Notification) (kind : NotificationKind) : ∀ m : SortedMap String Nat,
    under (notes.foldl (fun m n => bump m n.kind.name) m) kind.name =
      under m kind.name + notes.countP (·.kind == kind) := by
  induction notes with
  | nil => exact fun m => rfl
  | cons n notes ih =>
    intro m
    have hlabel : (if kind.name = n.kind.name then 1 else 0) = if (n.kind == kind) = true then 1 else 0 := by
      refine if_congr ?_ rfl rfl
      rw [beq_iff_eq]
      exact ⟨fun h => (kind_name_injective _ _ h).symm, fun h => by rw [h]⟩
    rw [List.foldl_cons, ih, under_bump, List.countP_cons, hlabel]
    omega

theorem total_skip (notes : List Notification) : ∀ m : SortedMap String Nat,
    total (notes.foldl (fun m n => bump m n.kind.name) m).values = total m.values + notes.length := by
  induction notes with
  | nil => exact fun m => rfl
  | cons n notes ih =>
    intro m
    rw [List.foldl_cons, ih, total_bump, List.length_cons]
    omega

end Counters

/-! ## Answers -/

/-- What an engine has answered: the verdicts on experiments, what became of results, and reports. -/
structure Answers where
  registrations : List Verdict := []
  results : List BatchItem := []
  reports : List Report := []

namespace Answers

instance : Append Answers where
  append a b := ⟨a.registrations ++ b.registrations, a.results ++ b.results, a.reports ++ b.reports⟩

theorem append_assoc (a b c : Answers) : a ++ b ++ c = a ++ (b ++ c) := by
  show Answers.mk _ _ _ = Answers.mk _ _ _
  congr 1 <;> exact List.append_assoc ..

theorem append_empty (a : Answers) : a ++ {} = a := by
  show Answers.mk _ _ _ = a
  simp

theorem append_registrations (a : Answers) (verdicts : List Verdict) :
    a ++ { registrations := verdicts } = { a with registrations := a.registrations ++ verdicts } := by
  show Answers.mk _ _ _ = _
  simp

theorem append_results (a : Answers) (items : List BatchItem) :
    a ++ { results := items } = { a with results := a.results ++ items } := by
  show Answers.mk _ _ _ = _
  simp

theorem append_reports (a : Answers) (reports : List Report) :
    a ++ { reports } = { a with reports := a.reports ++ reports } := by
  show Answers.mk _ _ _ = _
  simp

/-- The accepted results. -/
def accepted (a : Answers) : List BatchItem := a.results.filter (·.verdict.success)

/-- The counts of the recommendations for accepted results. -/
def summaries (a : Answers) : List RecommendationCounts := a.accepted.filterMap (·.counts)

/-- The notifications of reports. -/
def notifications (a : Answers) : List Notification := a.reports.flatMap (·.notifications)

/-- How many notifications there were altogether, those of accepted results too. -/
def notified (a : Answers) : Nat := total (a.summaries.map (·.notifications)) + a.notifications.length

variable {a : Answers} {i : BatchItem}

theorem accepted_of_accepted (hi : i.verdict.success = true) :
    accepted { a with results := a.results ++ [i] } = a.accepted ++ [i] := by
  simp [accepted, hi]

theorem accepted_of_rejected (hi : i.verdict.success = false) :
    accepted { a with results := a.results ++ [i] } = a.accepted := by
  simp [accepted, hi]

theorem summaries_of_accepted {counts : RecommendationCounts} (hi : i.verdict.success = true)
    (hcounts : i.counts = some counts) :
    summaries { a with results := a.results ++ [i] } = a.summaries ++ [counts] := by
  rw [summaries, accepted_of_accepted hi, List.filterMap_append]
  simp [summaries, hcounts]

theorem summaries_of_rejected (hi : i.verdict.success = false) :
    summaries { a with results := a.results ++ [i] } = a.summaries := by
  rw [summaries, accepted_of_rejected hi, summaries]

end Answers

/-- The counters are the counts of what was answered. -/
structure Counters.Count (a : Answers) (c : Counters) : Prop where
  experimentsRegistered : c.experimentsRegistered = a.registrations.countP (·.success)
  experimentsRejected : ∀ status, Counters.under c.experimentsRejected (toString status) =
    a.registrations.countP fun v => !v.success && v.status == status
  resultsAccepted : c.resultsAccepted = a.accepted.length
  resultsRejected : ∀ status, Counters.under c.resultsRejected (toString status) =
    a.results.countP fun i => !i.verdict.success && i.verdict.status == status
  recommendations : c.recommendations =
    total (a.summaries.map (·.recommendations)) + total (a.reports.map (·.recommendations.length))
  /-- Only the notifications of reports are counted by their kinds. -/
  tunablesSkipped : ∀ kind : NotificationKind,
    Counters.under c.tunablesSkipped kind.name = a.notifications.countP (·.kind == kind)
  /-- All kinds together, the notifications of accepted results are missing. -/
  skipped : total c.tunablesSkipped.values + total (a.summaries.map (·.notifications)) = a.notified

namespace Counters.Count

variable {a : Answers} {c : Counters}

/-- An accepted experiment. -/
theorem register {v : Verdict} (h : c.Count a) (hv : v.success = true) :
    Count { a with registrations := a.registrations ++ [v] }
      { c with experimentsRegistered := c.experimentsRegistered + 1 } := by
  refine { h with experimentsRegistered := ?_, experimentsRejected := fun status => ?_ }
  · rw [h.experimentsRegistered]
    simp [hv]
  · rw [h.experimentsRejected status]
    simp [hv]

/-- A rejected experiment. -/
theorem refuse {v : Verdict} (h : c.Count a) (hv : v.success = false) :
    Count { a with registrations := a.registrations ++ [v] } (c.rejectExperiment v.status) := by
  refine { h with experimentsRegistered := ?_, experimentsRejected := fun status => ?_ }
  · show c.experimentsRegistered = _
    rw [h.experimentsRegistered]
    simp [hv]
  · show under (bump _ _) _ = _
    rw [under_bump_toString, h.experimentsRejected status]
    simp [hv, List.countP_singleton, @eq_comm _ status]

/-- An accepted result. -/
theorem accept {i : BatchItem} {counts : RecommendationCounts} (h : c.Count a) (hi : i.verdict.success = true)
    (hcounts : i.counts = some counts) :
    Count { a with results := a.results ++ [i] }
      { c with
        resultsAccepted := c.resultsAccepted + 1
        recommendations := c.recommendations + counts.recommendations } := by
  have hsummaries := Answers.summaries_of_accepted (a := a) hi hcounts
  refine { h with resultsAccepted := ?_, resultsRejected := fun status => ?_, recommendations := ?_, skipped := ?_ }
  · rw [Answers.accepted_of_accepted hi, h.resultsAccepted, List.length_append]
    rfl
  · rw [h.resultsRejected status]
    simp [hi]
  · rw [hsummaries, h.recommendations]
    simp [Nat.add_right_comm]
  · show total c.tunablesSkipped.values + _ = total _ + a.notifications.length
    have hskipped := h.skipped
    rw [Answers.notified] at hskipped
    rw [hsummaries, List.map_append, total_append]
    omega

/-- A rejected result. -/
theorem reject {i : BatchItem} (h : c.Count a) (hi : i.verdict.success = false) :
    Count { a with results := a.results ++ [i] } (c.rejectResult i.verdict.status) := by
  have hsummaries := Answers.summaries_of_rejected (a := a) hi
  refine { h with resultsAccepted := ?_, resultsRejected := fun status => ?_, recommendations := ?_, skipped := ?_ }
  · rw [Answers.accepted_of_rejected hi]
    exact h.resultsAccepted
  · show under (bump _ _) _ = _
    rw [under_bump_toString, h.resultsRejected status]
    simp [hi, List.countP_singleton, @eq_comm _ status]
  · rw [hsummaries]
    exact h.recommendations
  · rw [Answers.notified, hsummaries]
    exact h.skipped

/-- A report. -/
theorem report (h : c.Count a) (r : Report) :
    Count { a with reports := a.reports ++ [r] }
      ({ c with recommendations := c.recommendations + r.recommendations.length }.skip r.notifications) := by
  have hnotifications : Answers.notifications { a with reports := a.reports ++ [r] } =
      a.notifications ++ r.notifications := by simp [Answers.notifications]
  refine { h with recommendations := ?_, tunablesSkipped := fun kind => ?_, skipped := ?_ }
  · show c.recommendations + r.recommendations.length = _
    rw [h.recommendations]
    simp [Nat.add_assoc, Answers.summaries, Answers.accepted]
  · show under (r.notifications.foldl _ _) _ = _
    rw [under_skip, h.tunablesSkipped kind, hnotifications, List.countP_append]
  · show total (r.notifications.foldl _ c.tunablesSkipped).values + total (a.summaries.map _) =
      total (a.summaries.map _) + _
    have hskipped := h.skipped
    rw [Answers.notified] at hskipped
    rw [total_skip, hnotifications, List.length_append]
    omega

end Counters.Count

namespace Engine

/-- What a call answers. -/
def answer (e : Engine) : Call → Answers
  | .serve (.register x) => { registrations := [(e.register x).1] }
  | .serve (.registerAll experiments) =>
    { registrations := (e.registerAll experiments).1.items.map (·.verdict) }
  | .serve (.ingestAll results) => { results := (e.ingestAll results).1.items }
  | .recommend layers seed h => { reports := (e.recommend layers seed h).1.toOption.toList }
  | .load _ | .summarize _ _ | .addProfile _ | .removeProfile _ => {}

/-- What calls answer. -/
def answers (e : Engine) : List Call → Answers
  | [] => {}
  | call :: rest => e.answer call ++ (e.call call).answers rest

/-! ## One answer -/

variable {e : Engine} {a : Answers}

theorem counters_noteProfiles (e : Engine) (asked : Bool) : (e.noteProfiles asked).counters = e.counters := by
  unfold noteProfiles
  split <;> rfl

theorem count_countStore (h : e.counters.Count a) : e.countStore.counters.Count a := { h with }

theorem count_noteHalt (kind : String) (r : BatchReport) (h : e.counters.Count a) :
    (e.noteHalt kind r).counters.Count a := by
  unfold noteHalt
  split <;> exact h

theorem count_noteRegistration (r : Registration) (h : e.counters.Count a) :
    (e.noteRegistration r).counters.Count { a with registrations := a.registrations ++ [r.verdict] } := by
  unfold noteRegistration Registration.verdict
  cases r.rejection with
  | none => exact h.register rfl
  | some why => exact h.refuse (v := why.verdict) rfl

theorem count_register (x : Experiment) (h : e.counters.Count a) :
    (e.register x).2.counters.Count { a with registrations := a.registrations ++ [(e.register x).1] } := by
  refine count_noteRegistration _ ?_
  rw [counters_noteProfiles]
  exact h

/-- Rounds and processed results are counted apart. -/
theorem count_noteResult (s : Submission) {i : BatchItem} {made : Except Rejection RecommendationCounts}
    (hverdict : i.verdict = .ofResult made) (hcounts : i.counts = made.toOption) (h : e.counters.Count a) :
    (e.noteResult s made).counters.Count { a with results := a.results ++ [i] } := by
  unfold noteResult
  cases made with
  | ok counts => exact { h.accept (by rw [hverdict]; rfl) hcounts with }
  | error why =>
    have hrejected := h.reject (i := i) (by rw [hverdict]; rfl)
    rw [hverdict] at hrejected
    exact { hrejected with }

theorem count_ingestItem (s : Submission) (h : e.counters.Count a) :
    (e.ingestItem s).2.counters.Count { a with results := a.results ++ [(e.ingestItem s).1] } := by
  refine count_noteResult s rfl rfl ?_
  rw [counters_noteProfiles]
  exact h

theorem count_noteReport (scope : String) (r : Report) (h : e.counters.Count a) :
    (e.noteReport scope r).counters.Count { a with reports := a.reports ++ [r] } := by
  have hlogged : ∀ (notes : List Notification) (f : Engine),
      (notes.foldl (fun f n => f.log (.tunableSkipped scope n)) f).counters = f.counters := by
    intro notes
    induction notes with
    | nil => exact fun f => rfl
    | cons n notes ih => exact fun f => ih _
  unfold noteReport
  show (List.foldl _ _ _ : Engine).counters.Count _
  rw [hlogged]
  exact { h.report r with }

/-! ## Batches -/

theorem count_registerAll (experiments : List Experiment) (h : e.counters.Count a) :
    (e.registerAll experiments).2.counters.Count
      { a with registrations := a.registrations ++ (e.registerAll experiments).1.items.map (·.verdict) } := by
  have hitem : ∀ (items : List BatchItem) (f : Engine) x,
      f.counters.Count { a with registrations := a.registrations ++ items.map (·.verdict) } →
      (f.registerItem x).2.counters.Count
        { a with registrations := a.registrations ++ (items ++ [(f.registerItem x).1]).map (·.verdict) } := by
    intro items f x hf
    have hnext := count_register x hf
    rw [List.map_append, ← List.append_assoc]
    exact hnext
  have hbatch := runBatch_items _ hitem e.config.batchPolicy experiments [] e (by simpa using h)
  exact count_countStore (count_noteHalt _ _ hbatch)

theorem count_ingestAll (results : List Submission) (h : e.counters.Count a) :
    (e.ingestAll results).2.counters.Count { a with results := a.results ++ (e.ingestAll results).1.items } := by
  have hitem : ∀ (items : List BatchItem) (f : Engine) s, f.counters.Count { a with results := a.results ++ items } →
      (f.ingestItem s).2.counters.Count { a with results := a.results ++ (items ++ [(f.ingestItem s).1]) } := by
    intro items f s hf
    have hnext := count_ingestItem s hf
    rw [← List.append_assoc]
    exact hnext
  have hbatch := runBatch_items _ hitem e.config.batchPolicy results [] e (by simpa using h)
  exact count_noteHalt _ _ hbatch

/-! ## Calls -/

/-- A call counts what it answers. -/
theorem count_call (call : Call) (h : e.counters.Count a) : (e.call call).counters.Count (a ++ e.answer call) := by
  cases call with
  | serve request =>
    cases request with
    | register x =>
      rw [answer, Answers.append_registrations]
      exact count_register x h
    | registerAll experiments =>
      rw [answer, Answers.append_registrations]
      exact count_registerAll experiments h
    | ingestAll results =>
      rw [answer, Answers.append_results]
      exact count_ingestAll results h
  | load experiments =>
    rw [answer, Answers.append_empty]
    exact count_countStore (e := { e with store := _ }) h
  | recommend layers seed history =>
    rw [answer, Answers.append_reports]
    simp only [Engine.call, recommend]
    split
    · simpa [Except.toOption] using h
    · exact count_noteReport _ _ h
  | summarize trials profile =>
    rw [answer, Answers.append_empty]
    show (e.noteProfiles true).counters.Count a
    rw [counters_noteProfiles]
    exact h
  | addProfile p =>
    rw [answer, Answers.append_empty]
    exact h
  | removeProfile name =>
    rw [answer, Answers.append_empty]
    exact h

theorem count_calls (calls : List Call) (h : e.counters.Count a) :
    (e.after calls).counters.Count (a ++ e.answers calls) := by
  induction calls generalizing e a with
  | nil =>
    rw [answers, Answers.append_empty]
    exact h
  | cons call rest ih =>
    rw [answers, ← Answers.append_assoc]
    exact ih (count_call call h)

theorem count_fresh : ({} : Counters).Count {} := by
  constructor <;> intros <;> rfl

/-- **The counters are the counts of what was answered.** Take an engine that has counted nothing, and any calls. Then the
registered experiments, the accepted results, the rejected ones of both by their status, and the recommendations of
accepted results and of reports are counted. The skipped tunables are those of the notifications of reports, by their
kinds; what is missing in them are the notifications of accepted results. -/
theorem counters_of_calls (e : Engine) (hfresh : e.counters = {}) (calls : List Call) :
    (e.after calls).counters.Count (e.answers calls) := by
  have hcalls := count_calls (e := e) (a := {}) calls (hfresh ▸ count_fresh)
  exact hcalls

/-- The example's window, and recommendations without a history. -/
def checkoutCalls : List Call :=
  (checkoutRequests exampleStart exampleFinish).map .serve ++ [.recommend [] ∅ ∅]

/-- There are two notifications of each, and only those of the report are counted. -/
theorem counters_of_checkoutCalls :
    (ofConfig {} {}).counters = {} ∧
    ((ofConfig {} {}).after checkoutCalls).counters.Count ((ofConfig {} {}).answers checkoutCalls) ∧
    total ((ofConfig {} {}).after checkoutCalls).counters.tunablesSkipped.values = 2 ∧
    ((ofConfig {} {}).answers checkoutCalls).notified = 4 :=
  ⟨rfl, counters_of_calls (ofConfig {} {}) rfl checkoutCalls, by decide +kernel, by decide +kernel⟩

end Engine

end TuningAdvisor
