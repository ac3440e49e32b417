import TuningAdvisor.Proofs.Advice
import TuningAdvisor.Proofs.Batches
import TuningAdvisor.Proofs.Filing
/-!
# The order of arrival: `update_results` on permuted results

Where objects are declared, the verdict on a result is a matter of what was registered (`Experiment.outline`) and of
whether its end is taken, and not of what else has come in (`verdict_congr`). So every result of a batch fares as if it
came first, as long as no two of them have the same end (`Filed.ingestBatch`). The accepted results are filed,
which may be done in any order: **permuted results get the same verdicts and leave the same histories**. The
recommendations are another matter, as each is made from what has come in by then.
-/

namespace TuningAdvisor

namespace Experiment

/-- What accepted results leave alone where objects are declared: the definition, and what is declared. -/
def outline (e : Experiment) : Experiment := { e with objects := e.declared, windows := ∅ }

theorem SameDefinition.outline {old new : Experiment} (h : old.SameDefinition new)
    (hdeclared : new.declared = old.declared) : new.outline = old.outline := by
  unfold Experiment.outline
  rw [hdeclared]
  exact congrArg (fun e : Experiment => { e with objects := old.declared, windows := ∅ }) h

theorem outline_measured (e : Experiment) : e.measured.outline = e.outline :=
  SameDefinition.outline rfl e.declared_measured

theorem outline_fileAll (results : List Submission) (e : Experiment) : (results.foldl file e).outline = e.outline := by
  induction results generalizing e with
  | nil => rfl
  | cons s results ih => rw [List.foldl_cons, ih, (e.sameDefinition_file s).outline (e.declared_file s)]

/-- An experiment in which results have been filed. -/
theorem outline_of_filed {old cur : Experiment} {results : List Submission}
    (h : cur.measured = results.foldl file old.measured) : cur.outline = old.outline := by
  rw [← cur.outline_measured, h, outline_fileAll, old.outline_measured]

theorem get?_windows_fileAll {results : List Submission} {t : Instant} (h : ∀ s ∈ results, s.finish ≠ some t)
    (e : Experiment) : (results.foldl file e).windows.get? t = e.windows.get? t := by
  induction results generalizing e with
  | nil => rfl
  | cons s results ih =>
    rw [List.forall_mem_cons] at h
    rw [List.foldl_cons, ih h.2, get?_windows_file h.1]

/-! ## Verdicts -/

variable {e e' : Experiment} {s : Submission} {key : ResultKey}

/-- What is read off the outline is the same for experiments of the same outline. -/
theorem congr_of_outline {β : Type} (f : Experiment → β) (hf : ∀ e, f e.outline = f e) (h : e'.outline = e.outline) :
    f e' = f e := by
  rw [← hf, h, hf]

theorem precheck_congr (c : Config) (houtline : e'.outline = e.outline)
    (hwindow : e'.windows.get? key.finish = e.windows.get? key.finish) : e'.precheck c s key = e.precheck c s key := by
  have hduration := congr_of_outline (·.checkDuration c key.start key.finish) (fun _ => rfl) houtline
  have hname := congr_of_outline name (fun _ => rfl) houtline
  have hobjects : e'.checkObjects s = e.checkObjects s := checkObjects_congr (congrArg objects houtline) s
  have hprofile := congr_of_outline currentProfile (fun _ => rfl) houtline
  unfold precheck
  simp only [SortedMap.contains_eq, hduration, hwindow, hname, hobjects, hprofile]
  rfl

/-- Whether a merge fails, and how, is a matter of the result. -/
theorem merge_result_congr (e e' : Experiment) (s : Submission) (start finish : Instant) :
    (e'.merge s start finish).2 = (e.merge s start finish).2 := by
  cases hwindow : Interval.of? start finish with
  | ok window => rw [merge_of_window hwindow, merge_of_window hwindow]
  | error why =>
    by_cases hbare : ∀ r ∈ s.objects, r.containers = []
    · rw [merge_of_bare hbare, merge_of_bare hbare]
    · obtain ⟨bare, first, rest, hobjects, hbare, hfirst⟩ := exists_first (by simpa using hbare)
      rw [merge_of_error hwindow hobjects hbare hfirst, merge_of_error hwindow hobjects hbare hfirst]

end Experiment

/-- Works that begin with the same check come to the same verdict if they do so behind it. -/
theorem InPlace.verdict_lift_bind {α β : Type} {x : Except Rejection α}
    {f f' : α → InPlace Rejection Experiment β} {e e' : Experiment}
    (h : ∀ a, Verdict.ofResult ((f' a).on e').1 = Verdict.ofResult ((f a).on e).1) :
    Verdict.ofResult (((liftM x : InPlace Rejection Experiment α) >>= f').on e').1 =
      Verdict.ofResult (((liftM x : InPlace Rejection Experiment α) >>= f).on e).1 := by
  rw [on_bind, on_bind, on_lift, on_lift]
  cases x with
  | error r => rfl
  | ok a => exact h a

namespace Ingestion

variable {i : Ingestion} {c : Config} {e e' : Experiment} {s : Submission} {key : ResultKey}

/-- **The verdict on a result** is the same for experiments of the same outline that have the same window, or none,
under its end. -/
theorem verdict_congr (hi : i.handlers = .builtin c) (houtline : e'.outline = e.outline)
    (hwindow : e'.windows.get? key.finish = e.windows.get? key.finish) :
    Verdict.ofResult ((i.apply s key).on e').1 = Verdict.ofResult ((i.apply s key).on e).1 := by
  unfold apply
  rw [InPlace.on_bind, InPlace.on_bind, InPlace.on_get, InPlace.on_get]
  dsimp only
  rw [Experiment.precheck_congr i.config houtline hwindow]
  refine InPlace.verdict_lift_bind fun choice => InPlace.verdict_lift_bind fun profile => ?_
  rw [hi, HandlerRegistry.find?_builtin]
  dsimp only
  split
  · rfl
  · rw [Experiment.merge_result_congr e e']
    refine InPlace.verdict_lift_bind fun n => ?_
    -- the recommendations fail for the sake of the terms only
    have hterms : (ResourceTuning.builtin c).terms (e'.merge s key.start key.finish).1 =
        (ResourceTuning.builtin c).terms (e.merge s key.start key.finish).1 := by
      rw [(e'.sameDefinition_merge s _ _).terms, (e.sameDefinition_merge s _ _).terms]
      exact Experiment.congr_of_outline (ResourceTuning.builtin c).terms (fun _ => rfl) houtline
    dsimp only [ResourceTuning.handler]
    unfold ResourceTuning.recommend
    rw [hterms]
    dsimp only
    split <;> rfl

end Ingestion

/-! ## Batches of results -/

namespace Engine

/-- What becomes of a result that comes next. -/
def verdictOf (e : Engine) (s : Submission) : Verdict := (e.ingestItem s).1.verdict

/-- Whether a result that comes next is accepted. -/
def accepts (e : Engine) (s : Submission) : Bool := (e.verdictOf s).success

/-- An engine in which results have been filed in an experiment, and nothing else has happened to it. -/
structure Filed (f : Engine) (name : String) (old : Experiment) (results : List Submission) (g : Engine) : Prop where
  settings : f.SameSettings g
  record : ∃ cur, g.store.get? name = some cur ∧ cur.measured = results.foldl Experiment.file old.measured

namespace Filed

variable {c : Config} {f g : Engine} {old : Experiment} {s : Submission} {name : String} {filed : List Submission}

/-- Results that end at other moments do not change the verdict on a result. -/
theorem verdictOf_eq (h : Filed f s.name old filed g) (hi : f.handlers = .builtin c)
    (hold : f.store.get? s.name = some old) (hapart : ∀ t ∈ filed, t.Apart s) : g.verdictOf s = f.verdictOf s := by
  obtain ⟨cur, hcur, hmeasured⟩ := h.record
  show Verdict.ofResult (g.ingestion.process g.store s).1 = Verdict.ofResult (f.ingestion.process f.store s).1
  cases hkey : s.checkMandatory with
  | error r => simp only [Ingestion.process, hkey]
  | ok key =>
    obtain ⟨-, -, hfinish⟩ := Ingestion.key_of_checkMandatory hkey
    rw [Ingestion.process_found hkey hcur, Ingestion.process_found hkey hold, h.settings.alike.apply_eq]
    have hends : ∀ t ∈ filed, t.finish ≠ some key.finish := by
      intro t ht hsame
      have hnone := hapart t ht (hsame.trans hfinish.symm)
      simp [hnone] at hsame
    have hwindow := Experiment.get?_windows_fileAll hends old.measured
    rw [← hmeasured] at hwindow
    exact Ingestion.verdict_congr (i := f.ingestion) hi (Experiment.outline_of_filed hmeasured) hwindow

/-- One more result. -/
theorem ingestItem (h : Filed f s.name old filed g) (hi : f.handlers = .builtin c) (hdeclared : old.declared ≠ []) :
    Filed f s.name old (if g.accepts s then filed ++ [s] else filed) (g.ingestItem s).2 := by
  refine ⟨h.settings.trans (sameSettings_ingestItem g s), ?_⟩
  obtain ⟨cur, hcur, hmeasured⟩ := h.record
  unfold accepts verdictOf
  rcases ingestItem_cases g s with ⟨hrejected, hstore⟩ |
    ⟨key, found, profile, handler, new, counts, hkey, hfound, hacc, haccepted, hstore⟩
  · rw [if_neg (by simp [hrejected]), hstore]
    exact ⟨cur, hcur, hmeasured⟩
  · cases hfound.symm.trans hcur
    have hkept : cur.declared = old.declared := congrArg Experiment.objects (Experiment.outline_of_filed hmeasured)
    have hfiled := hacc.measured (i := g.ingestion) (h.settings.handlers.trans hi) hkey (hkept ▸ hdeclared)
    rw [if_pos haccepted, hstore]
    refine ⟨new, SortedMap.get?_insert_self _ _ _, ?_⟩
    rw [hfiled, hmeasured, List.foldl_append]
    rfl

/-- **Every result of a batch fares as if it came first**, and the accepted ones are filed. -/
theorem ingestBatch (h : Filed f name old filed g) (hi : f.handlers = .builtin c)
    (hold : f.store.get? name = some old) (hdeclared : old.declared ≠ []) {results : List Submission}
    (hname : ∀ s ∈ results, s.name = name) (hapart : (filed ++ results).Pairwise Submission.Apart) :
    (runBatch .continue Engine.ingestItem results g).1.items.map (·.verdict) = results.map f.verdictOf ∧
      Filed f name old (filed ++ results.filter f.accepts) (runBatch .continue Engine.ingestItem results g).2 := by
  induction results generalizing filed g with
  | nil =>
    rw [List.filter_nil, List.append_nil]
    exact ⟨rfl, h⟩
  | cons s rest ih =>
    obtain ⟨rfl, hrest⟩ := List.forall_mem_cons.1 hname
    have hverdict : g.verdictOf s = f.verdictOf s := by
      refine h.verdictOf_eq hi hold fun t ht => ?_
      exact (List.pairwise_append.1 hapart).2.2 t ht s List.mem_cons_self
    have hnext := h.ingestItem hi hdeclared
    have haccepts : g.accepts s = f.accepts s := congrArg Verdict.success hverdict
    rw [haccepts] at hnext
    rw [runBatch_continue_cons]
    by_cases haccepted : f.accepts s = true
    · rw [if_pos haccepted] at hnext
      rw [List.append_cons] at hapart
      obtain ⟨hverdicts, hlast⟩ := ih hnext hrest hapart
      rw [List.filter_cons_of_pos haccepted, List.append_cons]
      exact ⟨congrArg₂ List.cons hverdict hverdicts, hlast⟩
    · rw [if_neg haccepted] at hnext
      have hothers : (filed ++ rest).Pairwise Submission.Apart := hapart.sublist (by simp)
      obtain ⟨hverdicts, hlast⟩ := ih hnext hrest hothers
      rw [List.filter_cons_of_neg haccepted]
      exact ⟨congrArg₂ List.cons hverdict hverdicts, hlast⟩

end Filed

/-- The results of a batch, right after the registration of their experiment. -/
theorem ingestAll_registered {c : Config} {e : Engine} {x : Experiment} (hhandlers : e.handlers = .builtin c)
    (hpolicy : e.config.batchPolicy = .continue) (haccepted : (e.register x).1.success = true)
    (hobjects : x.objects ≠ []) {results : List Submission} (hname : ∀ s ∈ results, s.name = x.name)
    (hapart : results.Pairwise Submission.Apart) :
    ((e.register x).2.ingestAll results).1.items.map (·.verdict) = results.map (e.register x).2.verdictOf ∧
      ∃ old cur, (e.register x).2.store.get? x.name = some old ∧
        ((e.register x).2.ingestAll results).2.store.get? x.name = some cur ∧
        cur.measured = (results.filter (e.register x).2.accepts).foldl Experiment.file old.measured := by
  rcases register_cases e x with ⟨hrejected, -⟩ | ⟨u, choice, p, -, -, hstore⟩
  · rw [haccepted] at hrejected
    cases hrejected
  have hsettings := sameSettings_register e x
  have hold : (e.register x).2.store.get? x.name = some (stored x u p) := by
    rw [hstore, SortedMap.get?_insert_self]
  have hdeclared : (stored x u p).declared ≠ [] := by
    rw [declared_stored]
    simpa [Experiment.declared] using hobjects
  have hcontinues : (e.register x).2.config.batchPolicy = .continue := by rw [hsettings.config, hpolicy]
  have hstart : Filed (e.register x).2 x.name (stored x u p) [] (e.register x).2 := ⟨.refl _, _, hold, rfl⟩
  obtain ⟨hverdicts, hlast⟩ := hstart.ingestBatch (hsettings.handlers.trans hhandlers) hold hdeclared hname hapart
  obtain ⟨cur, hcur, hmeasured⟩ := hlast.record
  refine ⟨?_, stored x u p, cur, hold, ?_, hmeasured⟩
  · rw [batches_ingestAll.report, hcontinues]
    exact hverdicts
  · rw [batches_ingestAll.store, hcontinues]
    exact hcur

/-- **Histories do not depend on the order of arrival.** Take an engine with the built-in handlers, under which batches
continue, and register an experiment that declares objects. Submit results for it of which no two end at the same
moment, and the same results in another order. Each of them gets the verdict that it would get alone, in both
orders, and the windows and the histories of all containers are the same at the end. -/
theorem histories_of_any_arrival {c : Config} {e : Engine} {x : Experiment} {results results' : List Submission}
    (hhandlers : e.handlers = .builtin c) (hpolicy : e.config.batchPolicy = .continue)
    (haccepted : (e.register x).1.success = true) (hobjects : x.objects ≠ [])
    (hname : ∀ s ∈ results, s.name = x.name) (hapart : results.Pairwise Submission.Apart)
    (hperm : results.Perm results') :
    ((e.register x).2.ingestAll results).1.items.map (·.verdict) = results.map (e.register x).2.verdictOf ∧
    ((e.register x).2.ingestAll results').1.items.map (·.verdict) = results'.map (e.register x).2.verdictOf ∧
    ∃ y y', ((e.register x).2.ingestAll results).2.store.get? x.name = some y ∧
      ((e.register x).2.ingestAll results').2.store.get? x.name = some y' ∧ y.windows = y'.windows ∧
      y.objects.map KubernetesObject.measured = y'.objects.map KubernetesObject.measured := by
  have hname' : ∀ s ∈ results', s.name = x.name := fun s hs => hname s (hperm.mem_iff.2 hs)
  have hapart' := hperm.pairwise hapart Submission.Apart.symm
  obtain ⟨hverdicts, old, y, hold, hy, hmeasured⟩ :=
    ingestAll_registered hhandlers hpolicy haccepted hobjects hname hapart
  obtain ⟨hverdicts', old', y', hold', hy', hmeasured'⟩ :=
    ingestAll_registered hhandlers hpolicy haccepted hobjects hname' hapart'
  cases hold.symm.trans hold'
  have hsame : y.measured = y'.measured := by
    rw [hmeasured, hmeasured']
    exact Experiment.fileAll_perm (hapart.filter _) (hperm.filter _) old.measured
  have hwindows : y.measured.windows = y'.measured.windows := by rw [hsame]
  have hobjects : y.measured.objects = y'.measured.objects := by rw [hsame]
  exact ⟨hverdicts, hverdicts', y, y', hy, hy', hwindows, hobjects⟩

/-- A local experiment with a declared container. -/
def declaredExample : Experiment :=
  { checkoutExample with objects := [{ name := "web", containers := [{ name := "server" }] }] }

/-- A result on that container. -/
def serverResult (start finish : Instant) : Submission where
  declaredName := some "checkout"
  start := some start
  finish := some finish
  objects := [{ name := "web", containers := [{ name := "server" }] }]

/-- Two windows, one behind the other. -/
def serverResults : List Submission := [serverResult exampleStart exampleFinish, serverResult exampleFinish exampleLater]

/-- An engine under which batches continue. -/
def continuingEngine : Engine := ofConfig { batchPolicy := .continue } {}

/-- Both windows are accepted, and recorded alike whichever is sent first. -/
theorem serverResults_arrivals :
    continuingEngine.handlers = .builtin { batchPolicy := .continue } ∧
    continuingEngine.config.batchPolicy = .continue ∧
    (continuingEngine.register declaredExample).1.success = true ∧ declaredExample.objects ≠ [] ∧
    (∀ s ∈ serverResults, s.name = "checkout") ∧ serverResults.Pairwise Submission.Apart ∧
    serverResults.Perm serverResults.reverse ∧
    serverResults.map (continuingEngine.register declaredExample).2.accepts = [true, true] ∧
    ∃ y y', ((continuingEngine.register declaredExample).2.ingestAll serverResults).2.store.get? "checkout" = some y ∧
      ((continuingEngine.register declaredExample).2.ingestAll serverResults.reverse).2.store.get? "checkout" = some y' ∧
      y.windows = y'.windows ∧ y.objects.map KubernetesObject.measured = y'.objects.map KubernetesObject.measured := by
  have haccepted : (continuingEngine.register declaredExample).1.success = true := by decide +kernel
  have hobjects : declaredExample.objects ≠ [] := by simp [declaredExample]
  have hname : ∀ s ∈ serverResults, s.name = "checkout" := by
    simp [serverResults, serverResult, Submission.name]
  have hapart : serverResults.Pairwise Submission.Apart := by
    simp [serverResults, serverResult, Submission.Apart, exampleFinish, exampleLater]
  have hperm : serverResults.Perm serverResults.reverse := serverResults.reverse_perm.symm
  have hboth : serverResults.map (continuingEngine.register declaredExample).2.accepts = [true, true] := by
    decide +kernel
  obtain ⟨-, -, hsame⟩ := histories_of_any_arrival (c := { batchPolicy := .continue }) (e := continuingEngine)
    (x := declaredExample) rfl rfl haccepted hobjects hname hapart hperm
  exact ⟨rfl, rfl, haccepted, hobjects, hname, hapart, hperm, hboth, hsame⟩

end Engine

end TuningAdvisor
