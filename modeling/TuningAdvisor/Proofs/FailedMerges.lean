import TuningAdvisor.Proofs.Lookups
import TuningAdvisor.Proofs.Statuses
/-!
# What a failed merge leaves behind: the early exit of `merge_result`

A window that is out of order stops a merge at the first object that reports on a container. The objects up to that one
have been looked up by then, and the ones that the experiment did not have are there now, without containers. **Nothing
else has changed** (`merge_error_only_adds`): no window, no definition, and no object that was there. Ingestion merges
into a copy, which it drops when the merge fails.
-/

namespace TuningAdvisor

open KubernetesObject (first?)

namespace ReportedObject

variable {objects : List KubernetesObject} {r : ReportedObject} {name space : String}

/-- What reports add to objects that they only look up: a bare object for each name and namespace that is not there, as
the first report on it has it. -/
structure Adds (reports : List ReportedObject) (objects added : List KubernetesObject) : Prop where
  distinct : (added.map KubernetesObject.key).Nodup
  mem_iff : ∀ o, o ∈ added ↔
    first? o.name o.space objects = none ∧ (reports.find? (isOn o.name o.space)).map fresh = some o

namespace Adds

variable {reports : List ReportedObject} {added : List KubernetesObject}

theorem bare (h : Adds reports objects added) {o : KubernetesObject} (ho : o ∈ added) : o.containers = [] := by
  obtain ⟨r, -, rfl⟩ := Option.map_eq_some_iff.1 ((h.mem_iff o).1 ho).2
  rfl

/-- Reports on what is there add nothing. -/
theorem eq_nil_of_known (h : Adds reports objects added)
    (hknown : ∀ r ∈ reports, (first? r.name r.space objects).isSome = true) : added = [] := by
  rw [List.eq_nil_iff_forall_not_mem]
  intro o ho
  obtain ⟨hnew, hreported⟩ := (h.mem_iff o).1 ho
  obtain ⟨r, hr, rfl⟩ := Option.map_eq_some_iff.1 hreported
  have hthere : (first? r.name r.space objects).isSome = true := hknown r (List.mem_of_find?_eq_some hr)
  have hnew : first? r.name r.space objects = none := hnew
  simp [hnew] at hthere

end Adds

theorem declareIn_of_known (h : (first? r.name r.space objects).isSome = true) : declareIn objects r = objects := by
  obtain ⟨o, ho⟩ := Option.isSome_iff_exists.1 h
  exact changeFirst_eq_self (a := o) rfl ho

theorem declareIn_of_new (h : first? r.name r.space objects = none) : declareIn objects r = objects ++ [r.fresh] :=
  changeFirst_of_find?_eq_none h

/-- Look-ups behind an object that has been added. -/
theorem first?_append_fresh (objects : List KubernetesObject) (r : ReportedObject) (name space : String) :
    first? name space (objects ++ [r.fresh]) =
      (first? name space objects).or (if r.isOn name space = true then some r.fresh else none) := by
  unfold first?
  rw [List.find?_append, List.find?_singleton]
  rfl

/-- Objects that are looked up one after the other stay as they are, and new ones come behind them. -/
theorem exists_declareAll : ∀ (reports : List ReportedObject) (objects : List KubernetesObject),
    ∃ added, reports.foldl declareIn objects = objects ++ added ∧ Adds reports objects added
  | [], objects => ⟨[], (List.append_nil _).symm, List.nodup_nil, by simp⟩
  | r :: reports, objects => by
    rw [List.foldl_cons]
    cases hthere : first? r.name r.space objects with
    | some o =>
      obtain ⟨added, hadded, hadds⟩ := exists_declareAll reports objects
      refine ⟨added, by rw [declareIn_of_known (by rw [hthere, Option.isSome_some]), hadded], hadds.distinct, ?_⟩
      intro o'
      rw [hadds.mem_iff]
      refine and_congr_right fun hnew => ?_
      have hoff : ¬r.isOn o'.name o'.space = true := by
        intro hon
        obtain ⟨hname, hspace⟩ := isOn_iff.1 hon
        rw [← hname, ← hspace, hthere] at hnew
        cases hnew
      rw [List.find?_cons_of_neg hoff]
    | none =>
      obtain ⟨added, hadded, hadds⟩ := exists_declareAll reports (objects ++ [r.fresh])
      have hfirst : reports.foldl declareIn (declareIn objects r) = objects ++ r.fresh :: added := by
        rw [declareIn_of_new hthere, hadded, List.append_assoc, List.singleton_append]
      refine ⟨r.fresh :: added, hfirst, ?_, ?_⟩
      · rw [List.map_cons, List.nodup_cons]
        refine ⟨fun hmem => ?_, hadds.distinct⟩
        obtain ⟨o, ho, hkey⟩ := List.mem_map.1 hmem
        have hnew := ((hadds.mem_iff o).1 ho).1
        have hon : r.isOn o.name o.space = true := isOn_iff.2 (Prod.mk.inj hkey.symm)
        rw [first?_append_fresh, if_pos hon] at hnew
        simp at hnew
      · intro o
        rw [List.mem_cons, hadds.mem_iff, first?_append_fresh]
        by_cases hon : r.isOn o.name o.space = true
        · obtain ⟨hname, hspace⟩ := isOn_iff.1 hon
          rw [List.find?_cons_of_pos hon, ← hname, ← hspace, hthere]
          simp [isOn, eq_comm]
        · have hne : o ≠ r.fresh := by
            rintro rfl
            exact hon (isOn_iff.2 ⟨rfl, rfl⟩)
          rw [List.find?_cons_of_neg hon, if_neg hon, Option.or_none]
          simp [hne]

end ReportedObject

namespace Experiment

variable {e : Experiment} {s : Submission} {start finish : Instant} {why : IntervalError}

/-- **A failed merge only adds bare objects.** Let the merge of a result into an experiment fail, as it does for a
window that is out of order when there is a container to write to. The reports on objects up to the first one with a
container have then been looked up. The experiment is as before, its definition, windows and objects with all that they
hold, and behind its objects stand those that were new among the reported ones, one for each name and namespace and
without containers. Where it has all the objects that are reported, nothing has changed. -/
theorem merge_error_only_adds (h : (e.merge s start finish).2 = .error why) :
    ∃ bare first rest added, s.objects = bare ++ first :: rest ∧ (∀ r ∈ bare, r.containers = []) ∧
      first.containers ≠ [] ∧ start.before finish = false ∧ why = .notAfterStart start finish ∧
      (e.merge s start finish).1 = { e with objects := e.objects ++ added } ∧
      ReportedObject.Adds (bare ++ [first]) e.objects added ∧ (∀ o ∈ added, o.containers = []) ∧
      ((∀ r ∈ s.objects, (e.object? r.name r.space).isSome = true) → (e.merge s start finish).1 = e) := by
  obtain ⟨-, bare, first, rest, hobjects, hbare, hfirst, hmerged⟩ := merge_failed h
  obtain ⟨added, hadded, hadds⟩ := ReportedObject.exists_declareAll (bare ++ [first]) e.objects
  rw [hadded] at hmerged
  obtain ⟨hordered, hwhy⟩ := merge_error h
  refine ⟨bare, first, rest, added, hobjects, hbare, hfirst, hordered, hwhy, hmerged, hadds, fun _ => hadds.bare, ?_⟩
  intro hknown
  have hnone : added = [] := hadds.eq_nil_of_known fun r hr => hknown r (by rw [hobjects]; simp at hr ⊢; tauto)
  rw [hmerged, hnone, List.append_nil]

/-- An object with a container. -/
def webExample : Experiment := { objects := [{ name := "web", containers := [{ name := "server" }] }] }

/-- Reports on a database without containers, on that container, and on a cache. -/
def threeReports : Submission where
  objects :=
    [{ name := "db" }, { name := "web", containers := [{ name := "server" }] },
      { name := "cache", containers := [{ name := "server" }] }]

/-- With its window turned round, the merge adds the database and stops before the cache. -/
theorem threeReports_add_db :
    (webExample.merge threeReports Engine.exampleFinish Engine.exampleStart).2 =
      .error (.notAfterStart Engine.exampleFinish Engine.exampleStart) ∧
    ∃ added, (webExample.merge threeReports Engine.exampleFinish Engine.exampleStart).1 =
        { webExample with objects := webExample.objects ++ added } ∧
      (∀ o ∈ added, o.containers = []) ∧ added.map (·.name) = ["db"] := by
  have hfailed : (webExample.merge threeReports Engine.exampleFinish Engine.exampleStart).2 =
      .error (.notAfterStart Engine.exampleFinish Engine.exampleStart) := rfl
  obtain ⟨_, _, _, added, -, -, -, -, -, hmerged, -, hbare, -⟩ := merge_error_only_adds hfailed
  have hnames : (webExample.merge threeReports Engine.exampleFinish Engine.exampleStart).1.objects.map (·.name) =
      ["web", "db"] := by decide +kernel
  rw [hmerged] at hnames
  exact ⟨hfailed, added, hmerged, hbare, by simpa [webExample] using hnames⟩

/-- So a merge that fails may leave something behind: here the first object of the experiment. -/
theorem failed_merge_leaves_object :
    ∃ s why, ((({} : Experiment).merge s Engine.exampleFinish Engine.exampleStart).2 = .error why) ∧
      (({} : Experiment).merge s Engine.exampleFinish Engine.exampleStart).1.objects.map (·.name) = ["web"] ∧
      ({} : Experiment).objects = [] := by
  refine ⟨{ objects := [{ name := "web", containers := [{ name := "server" }] }] }, _, rfl, ?_, rfl⟩
  decide +kernel

end Experiment

end TuningAdvisor
