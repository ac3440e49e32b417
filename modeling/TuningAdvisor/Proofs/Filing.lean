import TuningAdvisor.Proofs.Declarations
/-!
# Filing: what `merge_result` does where objects are declared

Where objects are declared, an accepted result adds no name to an experiment: its intervals are filed in the containers
that are there. Images and recommendations aside (`Experiment.measured`), **filing is all that an accepted result does**
(`Acceptance.measured`), and **results with different ends may be filed in either order** (`Experiment.file_comm`).
-/

namespace TuningAdvisor

/-! ## Changes in place -/

/-- Changes the first item that a test finds, if it finds one. -/
def changeIn {α : Type} (p : α → Bool) (f : α → α) : List α → List α
  | [] => []
  | a :: rest => if p a then f a :: rest else a :: changeIn p f rest

section ChangeIn

variable {α β : Type} {p q : α → Bool} {f g : α → α}

/-- Where the test finds an item, no fresh one is added. -/
theorem changeFirst_eq_changeIn {fresh a : α} (hfg : f a = g a) :
    ∀ {l : List α}, l.find? p = some a → changeFirst p fresh f l = changeIn p g l
  | [], h => by simp at h
  | b :: l, h => by
    by_cases hb : p b = true
    · have hba : b = a := by simpa [hb] using h
      subst hba
      simp [changeFirst, changeIn, hb, hfg]
    · have hl : l.find? p = some a := by simpa [hb] using h
      simp [changeFirst, changeIn, hb, changeFirst_eq_changeIn hfg hl]

/-- Changes that commute, and do not disturb each other's tests, commute in a list. -/
theorem changeIn_comm (hp : ∀ a, p (g a) = p a) (hq : ∀ a, q (f a) = q a) (hfg : ∀ a, g (f a) = f (g a)) :
    ∀ l : List α, changeIn q g (changeIn p f l) = changeIn p f (changeIn q g l)
  | [] => rfl
  | a :: l => by
    by_cases hpa : p a = true
    · by_cases hqa : q a = true
      · simp [changeIn, hpa, hqa, hp, hq, hfg]
      · simp [changeIn, hpa, hqa, hq]
    · by_cases hqa : q a = true
      · simp [changeIn, hpa, hqa, hp]
      · simp [changeIn, hpa, hqa, changeIn_comm hp hq hfg l]

/-- A change that a map does not see. -/
theorem map_changeIn {h : α → β} (hf : ∀ a, h (f a) = h a) : ∀ l : List α, (changeIn p f l).map h = l.map h
  | [] => rfl
  | a :: l => by
    by_cases ha : p a = true
    · simp [changeIn, ha, hf]
    · simp [changeIn, ha, map_changeIn hf l]

/-- Where single steps commute, whole sequences do. -/
theorem foldl_comm {γ : Type} {step : γ → α → γ} {step' : γ → β → γ}
    (h : ∀ s a b, step' (step s a) b = step (step' s b) a) (as : List α) (bs : List β) (s : γ) :
    bs.foldl step' (as.foldl step s) = as.foldl step (bs.foldl step' s) := by
  have hone (s : γ) (b : β) : step' (as.foldl step s) b = as.foldl step (step' s b) :=
    (List.foldl_hom (fun s => step' s b) fun s a => (h s a b).symm).symm
  exact List.foldl_hom (fun s => as.foldl step s) hone

end ChangeIn

/-! ## Containers -/

namespace Container

/-- Writes an interval into a container, and nothing else. -/
def file (window : Interval) (r : ReportedContainer) (c : Container) : Container :=
  { c with results := c.results.insert window.finish { window with metrics := some r.toMetrics } }

/-- A container reduced to its name and its history. -/
def measured (c : Container) : Container := { name := c.name, results := c.results }

theorem file_comm {v w : Interval} (h : v.finish ≠ w.finish) (r k : ReportedContainer) (c : Container) :
    (c.file v r).file w k = (c.file w k).file v r := by
  simp only [file, SortedMap.insert_comm _ _ _ h]

end Container

/-- An interval is written, and nothing else. -/
def Writing.file (window : Interval) : Writing := ⟨Container.file window, fun _ _ => rfl⟩

theorem Writing.seenAs_measured (window : Interval) : (receive window).SeenAs Container.measured (file window) :=
  ⟨fun _ => rfl, fun _ => rfl, fun _ _ => rfl⟩

variable {v w window : Interval}

/-! ## Objects -/

namespace KubernetesObject

/-- Writes an interval into the container that a report is about, if there is one. -/
def file (window : Interval) (o : KubernetesObject) (r : ReportedContainer) : KubernetesObject :=
  { o with containers := changeIn (·.name == r.name) (Container.file window r) o.containers }

/-- An object with the names and the histories of its containers. -/
abbrev measured : KubernetesObject → KubernetesObject := seen Container.measured

theorem bare_file (o : KubernetesObject) (r : ReportedContainer) : (o.file window r).bare = o.bare := by
  have hcontainers := map_changeIn (p := (·.name == r.name)) (h := Container.bare) (f := Container.file window r)
    (fun _ => rfl) o.containers
  simp only [file, bare, hcontainers]

theorem bare_fileAll (reports : List ReportedContainer) (o : KubernetesObject) :
    (reports.foldl (file window) o).bare = o.bare := by
  induction reports generalizing o with
  | nil => rfl
  | cons r reports ih => rw [List.foldl_cons, ih, bare_file]

theorem file_comm (h : v.finish ≠ w.finish) (o : KubernetesObject) (r k : ReportedContainer) :
    (o.file v r).file w k = (o.file w k).file v r := by
  have hcontainers := changeIn_comm (p := (·.name == r.name)) (q := (·.name == k.name)) (f := Container.file v r)
    (g := Container.file w k) (fun _ => rfl) (fun _ => rfl) (Container.file_comm h r k) o.containers
  simp only [file, hcontainers]

/-- A writing into containers that are there. -/
theorem writeAll_file {o : KubernetesObject} {reports : List ReportedContainer}
    (h : ∀ r ∈ reports, (o.bare.container? r.name).isSome = true) :
    reports.foldl (write (.file window)) o = reports.foldl (file window) o := by
  induction reports generalizing o with
  | nil => rfl
  | cons r reports ih =>
    have hr := h r List.mem_cons_self
    rw [container?_bare, Option.isSome_map] at hr
    obtain ⟨c, hc⟩ := Option.isSome_iff_exists.1 hr
    have hwrite : o.write (.file window) r = o.file window r := by
      rw [write, changeFirst_eq_changeIn rfl hc]
      rfl
    rw [List.foldl_cons, List.foldl_cons, hwrite]
    refine ih fun r' hr' => ?_
    rw [bare_file]
    exact h r' (List.mem_cons_of_mem _ hr')

end KubernetesObject

namespace ReportedObject

open KubernetesObject (first?)

/-- Files a report in the objects of an experiment. -/
def file (window : Interval) (objects : List KubernetesObject) (r : ReportedObject) : List KubernetesObject :=
  changeIn r.isAbout (fun o => r.containers.foldl (KubernetesObject.file window) o) objects

theorem map_bare_file (objects : List KubernetesObject) (r : ReportedObject) :
    (file window objects r).map KubernetesObject.bare = objects.map KubernetesObject.bare :=
  map_changeIn (KubernetesObject.bare_fileAll r.containers) objects

theorem map_bare_fileAll (reports : List ReportedObject) (objects : List KubernetesObject) :
    (reports.foldl (file window) objects).map KubernetesObject.bare = objects.map KubernetesObject.bare := by
  induction reports generalizing objects with
  | nil => rfl
  | cons r reports ih => rw [List.foldl_cons, ih, map_bare_file]

theorem file_comm (h : v.finish ≠ w.finish) (objects : List KubernetesObject) (r k : ReportedObject) :
    file w (file v objects r) k = file v (file w objects k) r := by
  -- whether a report is about an object can be seen of its names
  have habout (window : Interval) (r : ReportedObject) (reports : List ReportedContainer) (o : KubernetesObject) :
      r.isAbout (reports.foldl (KubernetesObject.file window) o) = r.isAbout o := by
    show r.isAbout (reports.foldl (KubernetesObject.file window) o).bare = r.isAbout o.bare
    rw [KubernetesObject.bare_fileAll]
  exact changeIn_comm (habout w r k.containers) (habout v k r.containers)
    (foldl_comm (KubernetesObject.file_comm h) r.containers k.containers) objects

/-- A writing of reports on what is declared. -/
theorem writeAll_file {objects : List KubernetesObject} {reports : List ReportedObject}
    (h : ∀ r ∈ reports, ∃ o, first? r.name r.space (objects.map KubernetesObject.bare) = some o ∧ o.Admits r) :
    reports.foldl (write (.file window)) objects = reports.foldl (file window) objects := by
  induction reports generalizing objects with
  | nil => rfl
  | cons r reports ih =>
    obtain ⟨o, ho, hadmits⟩ := h r List.mem_cons_self
    rw [KubernetesObject.first?_map_bare, Option.map_eq_some_iff] at ho
    obtain ⟨o, ho, rfl⟩ := ho
    have hwrite : write (.file window) objects r = file window objects r :=
      changeFirst_eq_changeIn (KubernetesObject.writeAll_file hadmits.containers) ho
    rw [List.foldl_cons, List.foldl_cons, hwrite]
    refine ih fun r' hr' => ?_
    rw [map_bare_file]
    exact h r' (List.mem_cons_of_mem _ hr')

end ReportedObject

/-! ## Experiments -/

/-- Results that do not end at the same moment. -/
def Submission.Apart (s t : Submission) : Prop := s.finish = t.finish → s.finish = none

theorem Submission.Apart.symm {s t : Submission} (h : s.Apart t) : t.Apart s := fun hsame => hsame.trans (h hsame.symm)

namespace Experiment

/-- An experiment with the names and the histories of its containers. -/
def measured (e : Experiment) : Experiment := e.mapContainers Container.measured

/-- Files a result with a window: the window is recorded, and its interval in every container that is reported on. -/
def file (e : Experiment) (s : Submission) : Experiment :=
  match s.start, s.finish with
  | some start, some finish =>
    { e with
      objects := s.objects.foldl (ReportedObject.file { start, finish, metrics := none }) e.objects
      windows := e.windows.insert finish start }
  | _, _ => e

theorem file_eq {s : Submission} {start finish : Instant} (hstart : s.start = some start)
    (hfinish : s.finish = some finish) (e : Experiment) : e.file s =
      { e with
        objects := s.objects.foldl (ReportedObject.file { start, finish, metrics := none }) e.objects
        windows := e.windows.insert finish start } := by
  simp only [file, hstart, hfinish]

/-- A result without a window is not filed. -/
theorem file_of_none {s : Submission} (h : s.start = none ∨ s.finish = none) (e : Experiment) : e.file s = e := by
  unfold file
  split
  · rename_i hstart hfinish
    simp [hstart, hfinish] at h
  · rfl

/-- A result with a window, or one that is not filed. -/
theorem window_or_none (s : Submission) :
    (s.start = none ∨ s.finish = none) ∨ ∃ start finish, s.start = some start ∧ s.finish = some finish := by
  cases hstart : s.start with
  | none => simp
  | some start =>
    cases hfinish : s.finish with
    | none => simp
    | some finish => simp

/-- **Results with different ends may be filed in either order.** -/
theorem file_comm {s t : Submission} (h : s.Apart t) (e : Experiment) : (e.file s).file t = (e.file t).file s := by
  rcases window_or_none s with hs | ⟨start, finish, hstart, hfinish⟩
  · rw [file_of_none hs, file_of_none hs]
  rcases window_or_none t with ht | ⟨start', finish', hstart', hfinish'⟩
  · rw [file_of_none ht, file_of_none ht]
  have hne : finish ≠ finish' := by
    intro hsame
    simp [Submission.Apart, hfinish, hfinish', hsame] at h
  have hobjects := foldl_comm (ReportedObject.file_comm (v := { start, finish, metrics := none })
    (w := { start := start', finish := finish', metrics := none }) hne) s.objects t.objects e.objects
  simp only [file_eq hstart hfinish, file_eq hstart' hfinish', hobjects, SortedMap.insert_comm _ _ _ hne]

/-- Permuted results are filed alike. -/
theorem fileAll_perm {results results' : List Submission} (hapart : results.Pairwise Submission.Apart)
    (hperm : results.Perm results') (e : Experiment) : results.foldl file e = results'.foldl file e := by
  have hcomm : results.Pairwise fun s t => ∀ e : Experiment, (e.file s).file t = (e.file t).file s :=
    hapart.imp file_comm
  have hsymm : Std.Symm fun s t : Submission => ∀ e : Experiment, (e.file s).file t = (e.file t).file s :=
    ⟨fun _ _ h e => (h e).symm⟩
  refine hperm.foldl_eq' ?_ e
  -- a result commutes with itself, so that being apart matters for different ones only
  intro s hs t ht
  exact hcomm.forall_of_forall (fun _ _ _ => rfl) hs ht

theorem declared_file (e : Experiment) (s : Submission) : (e.file s).declared = e.declared := by
  rcases window_or_none s with hs | ⟨start, finish, hstart, hfinish⟩
  · rw [file_of_none hs]
  · rw [file_eq hstart hfinish]
    exact ReportedObject.map_bare_fileAll s.objects e.objects

theorem get?_windows_file {s : Submission} {t : Instant} (h : s.finish ≠ some t) (e : Experiment) :
    (e.file s).windows.get? t = e.windows.get? t := by
  rcases window_or_none s with hs | ⟨start, finish, hstart, hfinish⟩
  · rw [file_of_none hs]
  · have hne : t ≠ finish := by
      rintro rfl
      exact h hfinish
    rw [file_eq hstart hfinish]
    exact SortedMap.get?_insert_of_ne _ _ hne

theorem sameDefinition_file (e : Experiment) (s : Submission) : e.SameDefinition (e.file s) := by
  rcases window_or_none s with hs | ⟨start, finish, hstart, hfinish⟩
  · rw [file_of_none hs]
    rfl
  · rw [file_eq hstart hfinish]
    rfl

theorem declared_measured (e : Experiment) : e.measured.declared = e.declared :=
  e.declared_mapContainers fun _ => rfl

theorem measured_mapContainers (e : Experiment) {f : Container → Container} (hf : ∀ k, (f k).measured = k.measured) :
    (e.mapContainers f).measured = e.measured := by
  simp [measured, mapContainers, Function.comp_def, hf]

/-- A merge of a result on what is declared files it. -/
theorem measured_merge {e merged : Experiment} {s : Submission} {start finish : Instant} {n : Nat}
    (hstart : s.start = some start) (hfinish : s.finish = some finish) (hdeclared : e.declared ≠ [])
    (hchecked : e.checkObjects s = .ok ()) (h : e.merge s start finish = (merged, .ok n)) :
    merged.measured = e.measured.file s := by
  have hadmitted := admitted_of_checkObjects hdeclared hchecked
  obtain ⟨-, rfl⟩ := merge_ok h
  rw [← declared_measured] at hadmitted
  have hobjects : (s.objects.foldl (ReportedObject.mergeInto { start, finish, metrics := none }) e.objects).map
      KubernetesObject.measured =
        s.objects.foldl (ReportedObject.file { start, finish, metrics := none }) e.measured.objects := by
    rw [← ReportedObject.writeAll_file hadmitted]
    exact ReportedObject.map_seen_writeAll (Writing.seenAs_measured _) s.objects e.objects
  rw [file_eq hstart hfinish, ← hobjects]
  rfl

end Experiment

theorem ResourceTuning.measured_advised (t : ResourceTuning) (terms : SortedMap String Float) (finish : Instant)
    (c : Container) : (t.advised terms finish c).measured = c.measured := by
  rw [Container.measured, Container.measured, name_advised, results_advised]

/-- **An accepted result is filed.** Where objects are declared, this is all that it does to the histories. -/
theorem Ingestion.Acceptance.measured {i : Ingestion} {c : Config} {e new : Experiment} {s : Submission} {key : ResultKey}
    {profile : Profile} {handler : Handler} {counts : RecommendationCounts} (hi : i.handlers = .builtin c)
    (hkey : s.checkMandatory = .ok key) (hdeclared : e.declared ≠ [])
    (h : i.Acceptance e s key profile handler new counts) : new.measured = e.measured.file s := by
  obtain ⟨-, hstart, hfinish⟩ := key_of_checkMandatory hkey
  obtain ⟨choice, hpre, -⟩ := h.checked
  have hchecked := (Experiment.prechecked_of_ok hpre).objects
  obtain ⟨-, merged, n, hmerge, rfl⟩ := h.builtin hi
  rw [merged.measured_mapContainers (ResourceTuning.measured_advised _ _ _)]
  exact Experiment.measured_merge hstart hfinish hdeclared hchecked hmerge

end TuningAdvisor
