import TuningAdvisor.Proofs.FailedMerges
import TuningAdvisor.Proofs.Frozen
import TuningAdvisor.Proofs.StoredMetrics
/-!
# Merging, record by record: `merge_result`

Where objects and containers are told apart by their names, a list of records is given by the order of the names and
the look-ups (`eq_of_find?_eq`). A merge keeps the names that are there in their places, and look-ups go through it as
one writing of the last report. **Merging loses nothing, makes no duplicates, and merging again changes nothing**
(`merge_distinct`).
-/

namespace TuningAdvisor

open KubernetesObject (first?)

section Keys

variable {α κ : Type} [BEq κ] [LawfulBEq κ]

/-- A key is there where it is found. -/
theorem mem_map_iff_find? {key : α → κ} {l : List α} {k : κ} :
    k ∈ l.map key ↔ (l.find? (key · == k)).isSome = true := by
  rw [List.find?_isSome, List.mem_map]
  simp only [beq_iff_eq]

/-- Lists in the order of the same keys are equal when the keys differ pairwise and look-ups agree. -/
theorem eq_of_find?_eq (key : α → κ) : ∀ {l m : List α}, l.map key = m.map key → (l.map key).Nodup →
    (∀ k, l.find? (key · == k) = m.find? (key · == k)) → l = m
  | [], [], _, _, _ => rfl
  | [], _ :: _, hkeys, _, _ => by simp at hkeys
  | _ :: _, [], hkeys, _, _ => by simp at hkeys
  | a :: l, b :: m, hkeys, hnodup, hfind => by
    rw [List.map_cons, List.map_cons, List.cons.injEq] at hkeys
    rw [List.map_cons, List.nodup_cons] at hnodup
    have hab : a = b := by simpa [hkeys.1] using hfind (key a)
    subst hab
    congr 1
    refine eq_of_find?_eq key hkeys.2 hnodup.2 fun k => ?_
    by_cases hk : key a = k
    · -- the key of the head is in neither tail
      subst hk
      have hl : ¬(l.find? (key · == key a)).isSome = true := fun h => hnodup.1 (mem_map_iff_find?.2 h)
      have hm : ¬(m.find? (key · == key a)).isSome = true := fun h => hnodup.1 (hkeys.2 ▸ mem_map_iff_find?.2 h)
      rw [Option.not_isSome_iff_eq_none.1 hl, Option.not_isSome_iff_eq_none.1 hm]
    · have hrest := hfind k
      rwa [List.find?_cons_of_neg (by simpa using hk), List.find?_cons_of_neg (by simpa using hk)] at hrest

end Keys

/-- Steps about keys that are there keep the keys. -/
theorem keys_foldl_of_known {σ β κ : Type} (keys : σ → List κ) (key : β → κ) {step : σ → β → σ}
    (hstep : ∀ s b, key b ∈ keys s → keys (step s b) = keys s) :
    ∀ (bs : List β) (s : σ), (∀ b ∈ bs, key b ∈ keys s) → keys (bs.foldl step s) = keys s
  | [], _, _ => rfl
  | b :: bs, s, h => by
    rw [List.forall_mem_cons] at h
    have hkept := hstep s b h.1
    exact (keys_foldl_of_known keys key hstep bs (step s b) fun b' hb' => hkept ▸ h.2 b' hb').trans hkept

/-! ## Containers of an object -/

theorem Container.receive_receive (window : Interval) (r : ReportedContainer) (c : Container) :
    (c.receive window r).receive window r = c.receive window r := by
  simp only [receive, SortedMap.insert_insert, Option.or_assoc, Option.or_self]

namespace KubernetesObject

/-- No two containers of an object have the same name. -/
def Distinct (o : KubernetesObject) : Prop := (o.containers.map (·.name)).Nodup

theorem ext_of_containers {a b : KubernetesObject} (hkind : a.kind = b.kind) (hname : a.name = b.name)
    (hspace : a.space = b.space) (h : a.containers = b.containers) : a = b := by
  cases a
  cases b
  simp_all

variable (w : Writing) {o : KubernetesObject} {reports : List ReportedContainer}

theorem mem_names_iff {name : String} : name ∈ o.containers.map (·.name) ↔ (o.container? name).isSome = true :=
  mem_map_iff_find?

theorem Distinct.writeAll (h : o.Distinct) : (reports.foldl (write w) o).Distinct := by
  refine List.foldlRecOn reports (write w) h fun o ho r _ => ?_
  refine nodup_changeFirst ?_ (w.name r) ho
  exact fun _ => beq_iff_eq

/-- Reports on containers that are there bring no names. -/
theorem names_writeAll_of_known (h : ∀ r ∈ reports, (o.container? r.name).isSome = true) :
    (reports.foldl (write w) o).containers.map (·.name) = o.containers.map (·.name) := by
  refine keys_foldl_of_known (fun o : KubernetesObject => o.containers.map (·.name)) (·.name) (fun o r hr => ?_)
    reports o fun r hr => mem_names_iff.2 (h r hr)
  exact map_changeFirst_of_isSome (w.name r) (mem_names_iff.1 hr)

/-- An object that has taken in reports is not changed by taking them in again. -/
theorem receiveAll_receiveAll (window : Interval) (h : o.Distinct) :
    reports.foldl (write (.receive window)) (reports.foldl (write (.receive window)) o) =
      reports.foldl (write (.receive window)) o := by
  have hkept := writeAll_keeps (.receive window) reports (reports.foldl (write (.receive window)) o)
  refine ext_of_containers hkept.2.2 hkept.1 hkept.2.1 ?_
  have hlast (name : String) (hreported : ∃ r ∈ reports, r.name = name) :
      ∃ last, reports.reverse.find? (·.name == name) = some last := by
    obtain ⟨r, hr, hname⟩ := hreported
    rw [← Option.isSome_iff_exists, List.find?_isSome]
    exact ⟨r, List.mem_reverse.2 hr, by simpa using hname⟩
  refine eq_of_find?_eq Container.name ?_ ((h.writeAll _).writeAll _) fun name => ?_
  · refine names_writeAll_of_known _ fun r hr => ?_
    obtain ⟨last, hlast⟩ := hlast r.name ⟨r, hr, rfl⟩
    rw [container?_receiveAll window o hlast, Option.isSome_some]
  · show container? _ name = container? _ name
    by_cases hreported : ∃ r ∈ reports, r.name = name
    · obtain ⟨last, hlast⟩ := hlast name hreported
      rw [container?_receiveAll window _ hlast, container?_receiveAll window o hlast, Option.getD_some,
        Container.receive_receive]
    · exact container?_writeAll_of_unreported _ fun r hr hname => hreported ⟨r, hr, hname⟩

end KubernetesObject

/-! ## Objects of an experiment -/

namespace ReportedObject

variable (w : Writing) {objects : List KubernetesObject} {reports : List ReportedObject}

theorem isAbout_iff {r : ReportedObject} {o : KubernetesObject} : r.isAbout o = true ↔ o.key = r.fresh.key := by
  simp [isAbout, KubernetesObject.key, fresh]

theorem key_writeAll (r : ReportedObject) (o : KubernetesObject) :
    (r.containers.foldl (KubernetesObject.write w) o).key = o.key :=
  have hkept := KubernetesObject.writeAll_keeps w r.containers o
  Prod.ext hkept.1 hkept.2.1

theorem mem_keys_iff {name space : String} :
    (name, space) ∈ objects.map KubernetesObject.key ↔ (first? name space objects).isSome = true :=
  mem_map_iff_find?

theorem nodup_keys_writeAll (h : (objects.map KubernetesObject.key).Nodup) :
    ((reports.foldl (write w) objects).map KubernetesObject.key).Nodup := by
  refine List.foldlRecOn (motive := fun objects => (objects.map KubernetesObject.key).Nodup) reports (write w) h
    fun objects hkeys r _ => ?_
  exact nodup_changeFirst (fun o => isAbout_iff (o := o)) (key_writeAll w r) hkeys

/-- Reports on objects that are there bring no names. -/
theorem keys_writeAll_of_known (h : ∀ r ∈ reports, (first? r.name r.space objects).isSome = true) :
    (reports.foldl (write w) objects).map KubernetesObject.key = objects.map KubernetesObject.key := by
  refine keys_foldl_of_known (List.map KubernetesObject.key) (fun r => r.fresh.key) (fun objects r hr => ?_)
    reports objects fun r hr => mem_keys_iff.2 (h r hr)
  exact map_changeFirst_of_isSome (key_writeAll w r) (mem_keys_iff.1 hr)

theorem distinct_writeAll (h : ∀ o ∈ objects, o.Distinct) : ∀ o ∈ reports.foldl (write w) objects, o.Distinct := by
  refine List.foldlRecOn (motive := fun objects => ∀ o ∈ objects, o.Distinct) reports (write w) h
    fun objects hobjects r _ => ?_
  refine forall_mem_changeFirst ?_ (fun _ ho => ho.writeAll w) hobjects
  exact List.nodup_nil

/-- Objects that have taken in reports are not changed by taking them in again. -/
theorem mergeAll_mergeAll (window : Interval) (hkeys : (objects.map KubernetesObject.key).Nodup)
    (h : ∀ o ∈ objects, o.Distinct) :
    reports.foldl (mergeInto window) (reports.foldl (mergeInto window) objects) =
      reports.foldl (mergeInto window) objects := by
  rw [← write_receive]
  refine eq_of_find?_eq KubernetesObject.key ?_ (nodup_keys_writeAll _ (nodup_keys_writeAll _ hkeys))
    fun (name, space) => ?_
  · refine keys_writeAll_of_known _ fun r hr => ?_
    rw [first?_writeAll]
    have hon : (reports.find? (isOn r.name r.space)).isSome = true :=
      List.find?_isSome.2 ⟨r, hr, isOn_iff.2 ⟨rfl, rfl⟩⟩
    obtain ⟨first, hfirst⟩ := Option.isSome_iff_exists.1 hon
    rw [hfirst, Option.isSome_some]
  · show first? name space _ = first? name space _
    rw [first?_writeAll]
    cases hfirst : reports.find? (isOn name space) with
    | none => rfl
    | some first =>
      dsimp only
      rw [first?_writeAll, hfirst]
      congr 1
      refine KubernetesObject.receiveAll_receiveAll window ?_
      cases hthere : first? name space objects with
      | none => exact List.nodup_nil
      | some o => exact h o (List.mem_of_find?_eq_some hthere)

end ReportedObject

/-! ## Experiments -/

/-- The first image that is reported on a container of an object. -/
def Submission.firstImage? (s : Submission) (name space container : String) : Option String :=
  ((ReportedObject.containersOn name space s.objects).filter (·.name == container)).findSome? (·.image)

namespace Experiment

/-- The container of a name in the object of a name and a namespace. -/
def container? (e : Experiment) (name space container : String) : Option Container :=
  (e.object? name space).bind (·.container? container)

/-- Objects differ in their names or namespaces, and the containers of an object in their names. -/
structure Distinct (e : Experiment) : Prop where
  objects : (e.objects.map KubernetesObject.key).Nodup
  containers : ∀ o ∈ e.objects, o.Distinct

/-- What the merge of a result comes to. A container without reports is as before. One with reports has the interval of
the window in its history, with the metrics of its last report, and the first reported image if it had none. -/
structure Merged (s : Submission) (start finish : Instant) (old new : Experiment) : Prop where
  definition : old.SameDefinition new
  windows : new.windows = old.windows.insert finish start
  distinct : new.Distinct
  /-- Objects and containers stay in their places. -/
  kept : Grows KubernetesObject.Extended (fun _ => True) old.objects new.objects
  kinds : ∀ name space, (new.object? name space).map (·.kind) =
    ((old.object? name space).map (·.kind)).or ((s.objects.find? (ReportedObject.isOn name space)).map (·.kind))
  unreported : ∀ name space container, s.lastReport? name space container = none →
    new.container? name space container = old.container? name space container
  reported : ∀ name space container last before, s.lastReport? name space container = some last →
    (old.container? name space container).getD { name := container } = before →
    new.container? name space container = some { before with
      image := before.image.or (s.firstImage? name space container)
      results := before.results.insert finish { start, finish, metrics := some last.toMetrics } }

variable {e : Experiment} {s : Submission} {start finish : Instant}

theorem merge_of_before (s : Submission) (e : Experiment) (h : start.before finish = true) :
    e.merge s start finish =
      ({ e with
        objects := s.objects.foldl (ReportedObject.mergeInto { start, finish, metrics := none }) e.objects
        windows := e.windows.insert finish start }, .ok s.containers.length) :=
  merge_of_window (if_pos h) e s

section Merge

variable {new : Experiment} {n : Nat} {name space container : String}

/-- A merge keeps the kinds of objects, and a new object has the kind of the first report on it. -/
theorem kind_merge (h : e.merge s start finish = (new, .ok n)) (name space : String) :
    (new.object? name space).map (·.kind) =
      ((e.object? name space).map (·.kind)).or ((s.objects.find? (ReportedObject.isOn name space)).map (·.kind)) := by
  rw [object?_merge h]
  cases s.objects.find? (ReportedObject.isOn name space) with
  | none => simp
  | some first =>
    simp only [Option.map_some, (KubernetesObject.writeAll_keeps _ _ _).2.2]
    cases e.object? name space <;> rfl

theorem container?_merge_of_unreported (h : e.merge s start finish = (new, .ok n))
    (hunreported : s.lastReport? name space container = none) :
    new.container? name space container = e.container? name space container := by
  rw [Submission.lastReport?, List.find?_eq_none] at hunreported
  have hnone : ∀ r ∈ ReportedObject.containersOn name space s.objects, r.name ≠ container := by
    simpa using hunreported
  rw [container?, container?, object?_merge h]
  cases s.objects.find? (ReportedObject.isOn name space) with
  | none => rfl
  | some first =>
    simp only [Option.bind_some, KubernetesObject.container?_writeAll_of_unreported _ hnone]
    cases e.object? name space <;> rfl

theorem container?_merge (h : e.merge s start finish = (new, .ok n)) {last : ReportedContainer}
    (hlast : s.lastReport? name space container = some last) {before : Container}
    (hbefore : (e.container? name space container).getD { name := container } = before) :
    new.container? name space container = some { before with
      image := before.image.or (s.firstImage? name space container)
      results := before.results.insert finish { start, finish, metrics := some last.toMetrics } } := by
  subst hbefore
  rw [container?, container?, object?_merge h]
  cases hfirst : s.objects.find? (ReportedObject.isOn name space) with
  | none =>
    rw [Submission.lastReport?, ReportedObject.containersOn_eq_nil hfirst] at hlast
    cases hlast
  | some first =>
    simp only [Option.bind_some, KubernetesObject.container?_receiveAll _ _ hlast]
    cases e.object? name space <;> rfl

theorem merged_of_merge (hd : e.Distinct) (h : e.merge s start finish = (new, .ok n)) :
    Merged s start finish e new := by
  obtain ⟨-, rfl⟩ := merge_ok h
  refine ⟨rfl, rfl, ?_, ReportedObject.extended_mergeAll _ _ _, kind_merge h,
    fun _ _ _ => container?_merge_of_unreported h, fun _ _ _ _ _ hlast => container?_merge h hlast⟩
  exact ⟨ReportedObject.nodup_keys_writeAll (.receive _) hd.objects,
    ReportedObject.distinct_writeAll (.receive _) hd.containers⟩

end Merge

/-- Every reported container has the interval of the window. -/
theorem interval?_of_reported {merged : Experiment} {n : Nat} (h : e.merge s start finish = (merged, .ok n))
    {o : ReportedObject} (ho : o ∈ s.objects) {r : ReportedContainer} (hr : r ∈ o.containers) :
    ∃ last stored, s.lastReport? o.name o.space r.name = some last ∧
      merged.interval? o.name o.space r.name finish = some stored ∧ stored.start = start ∧ stored.finish = finish ∧
      ∀ metric, stored.metric? metric = last.lastMetric? metric := by
  obtain ⟨last, hlast⟩ := Submission.exists_lastReport? ho hr
  exact ⟨last, _, hlast, interval?_merge h hlast, rfl, rfl, last.get?_toMetrics⟩

/-- **Merging loses nothing, makes no duplicates, and is done once.** Take an experiment whose objects differ in their
names or namespaces, and whose containers differ in their names within an object, and a window that ends after it
starts. The merge of any result succeeds and counts its reports on containers. Afterwards the names differ as before;
the window is recorded; objects and containers are in their places, and what no report is about is as it was; of the
reports on a container the last one is stored under the end of the window, in it the last entry of every metric, and
nothing else of the container has changed, but that it has got the first reported image if it had none. Merging the same
result for the same window again changes nothing. -/
theorem merge_distinct (hd : e.Distinct) (hordered : start.before finish = true) (s : Submission) :
    ∃ new, e.merge s start finish = (new, .ok s.containers.length) ∧ Merged s start finish e new ∧
      (∀ o ∈ s.objects, ∀ r ∈ o.containers, ∃ last stored, s.lastReport? o.name o.space r.name = some last ∧
        new.interval? o.name o.space r.name finish = some stored ∧ stored.start = start ∧ stored.finish = finish ∧
        ∀ metric, stored.metric? metric = last.lastMetric? metric) ∧
      new.merge s start finish = (new, .ok s.containers.length) := by
  have hmerge := merge_of_before s e hordered
  refine ⟨_, hmerge, merged_of_merge hd hmerge, fun o ho r hr => interval?_of_reported hmerge ho hr, ?_⟩
  rw [merge_of_before s _ hordered]
  dsimp only
  rw [ReportedObject.mergeAll_mergeAll _ hd.objects hd.containers, SortedMap.insert_insert]

/-- Two reports on the container of the example, with different images. -/
def imageReports : Submission where
  objects := [{
    name := "web"
    containers := [{ name := "server", image := some "server:1" }, { name := "server", image := some "server:2" }] }]

theorem distinct_webExample : webExample.Distinct := ⟨by decide, by simp [webExample, KubernetesObject.Distinct]⟩

/-- Both reports are counted, and a second merge changes nothing. -/
theorem imageReports_merged_twice :
    webExample.Distinct ∧ Engine.exampleStart.before Engine.exampleFinish = true ∧
    ∃ new, webExample.merge imageReports Engine.exampleStart Engine.exampleFinish = (new, .ok 2) ∧
      Merged imageReports Engine.exampleStart Engine.exampleFinish webExample new ∧
      new.merge imageReports Engine.exampleStart Engine.exampleFinish = (new, .ok 2) := by
  have hordered : Engine.exampleStart.before Engine.exampleFinish = true := by decide
  obtain ⟨new, hmerge, hmerged, -, hagain⟩ := merge_distinct distinct_webExample hordered imageReports
  exact ⟨distinct_webExample, hordered, new, hmerge, hmerged, hagain⟩

/-- The container was there before, without an image, and has the first reported one afterwards. -/
theorem imageReports_fill_in_image :
    webExample.Distinct ∧ Engine.exampleStart.before Engine.exampleFinish = true ∧
    (webExample.container? "web" "" "server").map (·.image) = some none ∧
    ((webExample.merge imageReports Engine.exampleStart Engine.exampleFinish).1.container? "web" "" "server").map
      (·.image) = some (some "server:1") :=
  ⟨distinct_webExample, by decide, by decide +kernel, by decide +kernel⟩

end Experiment

end TuningAdvisor
