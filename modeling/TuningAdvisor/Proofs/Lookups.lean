import Mathlib.Data.List.Induction
import Mathlib.Data.List.Nodup
import TuningAdvisor.Proofs.Merge
/-!
# Look-ups behind a merge: `Experiment::object`, `K8sObject::container` after `merge_result`

A result is written into the first object of a name and there into the first container of a name, and these are the
ones that a look-up of the names finds: **a look-up goes through the writing as a change of what it finds, and past
all that is reported on other names**. This holds whatever is written.
-/

namespace TuningAdvisor

section ChangeFirst

variable {α : Type} {p q : α → Bool} {fresh : α} {f : α → α}

/-- The look-up that a change goes by finds what is changed. -/
theorem find?_changeFirst_self (hfresh : p (f fresh) = true) (hf : ∀ a, p a = true → p (f a) = true) :
    ∀ l : List α, (changeFirst p fresh f l).find? p = some (f ((l.find? p).getD fresh))
  | [] => by simp [changeFirst, hfresh]
  | a :: l => by
    unfold changeFirst
    split
    · rename_i ha
      simp [ha, hf a ha]
    · rename_i ha
      simp [ha, find?_changeFirst_self hfresh hf l]

/-- Other look-ups go past a change. -/
theorem find?_changeFirst_of_disjoint (hfresh : q (f fresh) = false) (hp : ∀ a, p a = true → q a = false)
    (hf : ∀ a, p a = true → q (f a) = false) : ∀ l : List α, (changeFirst p fresh f l).find? q = l.find? q
  | [] => by simp [changeFirst, hfresh]
  | a :: l => by
    unfold changeFirst
    split
    · rename_i ha
      simp [hp a ha, hf a ha]
    · simp only [List.find?_cons, find?_changeFirst_of_disjoint hfresh hp hf l]

/-- A change that leaves the item alone leaves the list alone. -/
theorem changeFirst_eq_self {a : α} (hf : f a = a) : ∀ {l : List α}, l.find? p = some a → changeFirst p fresh f l = l
  | [], h => by cases h
  | b :: l, h => by
    rw [List.find?_cons] at h
    unfold changeFirst
    split
    · rename_i hb
      simp only [hb, Option.some.injEq] at h
      rw [h, hf]
    · rename_i hb
      simp only [hb] at h
      rw [changeFirst_eq_self hf h]

/-- Where the test finds nothing, the fresh item comes behind the others. -/
theorem changeFirst_of_find?_eq_none : ∀ {l : List α}, l.find? p = none → changeFirst p fresh f l = l ++ [f fresh]
  | [], _ => rfl
  | a :: l, h => by
    have ha : ¬p a = true := List.find?_eq_none.1 h a List.mem_cons_self
    rw [List.find?_cons_of_neg ha] at h
    rw [changeFirst, if_neg ha, changeFirst_of_find?_eq_none h, List.cons_append]

/-- Where the test finds an item, a view that does not see the change stays as it is. -/
theorem map_changeFirst_of_isSome {β : Type} {view : α → β} (hf : ∀ a, view (f a) = view a) :
    ∀ {l : List α}, (l.find? p).isSome = true → (changeFirst p fresh f l).map view = l.map view
  | [], h => by cases h
  | a :: l, h => by
    unfold changeFirst
    split
    · rw [List.map_cons, List.map_cons, hf]
    · rename_i ha
      rw [List.find?_cons_of_neg ha] at h
      rw [List.map_cons, List.map_cons, map_changeFirst_of_isSome hf h]

/-- Where the test is for the key of the fresh item, keys that differ pairwise still do. -/
theorem nodup_changeFirst {κ : Type} {key : α → κ} (hp : ∀ a, p a = true ↔ key a = key fresh)
    (hf : ∀ a, key (f a) = key a) {l : List α} (h : (l.map key).Nodup) : ((changeFirst p fresh f l).map key).Nodup := by
  cases hfound : l.find? p with
  | some a => rwa [map_changeFirst_of_isSome hf (by rw [hfound, Option.isSome_some])]
  | none =>
    have hfresh : key fresh ∉ l.map key := by
      intro hmem
      obtain ⟨a, ha, hkey⟩ := List.mem_map.1 hmem
      exact List.find?_eq_none.1 hfound a ha ((hp a).2 hkey)
    rw [changeFirst_of_find?_eq_none hfound, List.map_append, List.map_singleton, hf, ← List.concat_eq_append,
      List.nodup_concat]
    exact ⟨hfresh, h⟩

/-- A change goes through a map that keeps the test. -/
theorem map_changeFirst {β : Type} {g : α → β} {p' : β → Bool} {f' : β → β} (hp : ∀ a, p' (g a) = p a)
    (hf : ∀ a, g (f a) = f' (g a)) :
    ∀ l : List α, (changeFirst p fresh f l).map g = changeFirst p' (g fresh) f' (l.map g)
  | [] => by simp [changeFirst, hf]
  | a :: l => by
    unfold changeFirst
    simp only [List.map_cons, hp]
    split
    · rw [List.map_cons, hf]
    · rw [List.map_cons, map_changeFirst hp hf l]

/-- What holds of all items and of a fresh one, and is kept by a change, holds behind it. -/
theorem forall_mem_changeFirst {P : α → Prop} (hfresh : P fresh) (hf : ∀ a, P a → P (f a)) :
    ∀ {l : List α}, (∀ a ∈ l, P a) → ∀ a ∈ changeFirst p fresh f l, P a
  | [], _ => by simpa [changeFirst] using hf fresh hfresh
  | b :: l, h => by
    rw [List.forall_mem_cons] at h
    unfold changeFirst
    split
    · exact List.forall_mem_cons.2 ⟨hf b h.1, h.2⟩
    · exact List.forall_mem_cons.2 ⟨h.1, forall_mem_changeFirst hfresh hf h.2⟩

end ChangeFirst

/-- What a report on a container does to it. The name stays. -/
structure Writing where
  run : ReportedContainer → Container → Container
  name : ∀ r c, (run r c).name = c.name

/-- The interval of a window is written. -/
def Writing.receive (window : Interval) : Writing := ⟨Container.receive window, fun _ _ => rfl⟩

/-- Under a view of the containers, one writing looks like another. -/
structure Writing.SeenAs (view : Container → Container) (w w' : Writing) : Prop where
  name : ∀ c, (view c).name = c.name
  fresh : ∀ name, view { name } = { name }
  run : ∀ r c, view (w.run r c) = w'.run r (view c)

/-! ## Containers of an object -/

namespace KubernetesObject

/-- Writes into the container that a report is about. -/
def write (w : Writing) (o : KubernetesObject) (r : ReportedContainer) : KubernetesObject :=
  { o with containers := changeFirst (·.name == r.name) { name := r.name } (w.run r) o.containers }

variable (w : Writing)

theorem container?_write_self (o : KubernetesObject) (r : ReportedContainer) :
    (o.write w r).container? r.name = some (w.run r ((o.container? r.name).getD { name := r.name })) := by
  refine find?_changeFirst_self ?_ ?_ o.containers
  · simp [w.name]
  · intro c hc
    rwa [w.name]

theorem container?_write_of_ne (o : KubernetesObject) {r : ReportedContainer} {name : String} (h : r.name ≠ name) :
    (o.write w r).container? name = o.container? name := by
  have hne : ∀ c : Container, (c.name == r.name) = true → (c.name == name) = false := by
    intro c hc
    rw [beq_iff_eq] at hc
    simpa [hc] using h
  refine find?_changeFirst_of_disjoint ?_ hne ?_ o.containers
  · simpa [w.name] using h
  · intro c hc
    rw [w.name]
    exact hne c hc

theorem container?_writeAll_of_unreported {o : KubernetesObject} {reports : List ReportedContainer} {name : String}
    (h : ∀ r ∈ reports, r.name ≠ name) :
    (reports.foldl (write w) o).container? name = o.container? name := by
  induction reports generalizing o with
  | nil => rfl
  | cons r reports ih =>
    rw [List.forall_mem_cons] at h
    rw [List.foldl_cons, ih h.2, container?_write_of_ne w o h.1]

/-- A container takes in all reports on it, in their order. -/
theorem container?_writeAll {o : KubernetesObject} {reports : List ReportedContainer} {name : String}
    (h : ∃ r ∈ reports, r.name = name) :
    (reports.foldl (write w) o).container? name =
      some ((reports.filter (·.name == name)).foldl (fun c r => w.run r c) ((o.container? name).getD { name })) := by
  induction reports using List.reverseRecOn with
  | nil => simp at h
  | append_singleton earlier r ih =>
    rw [List.foldl_append, List.foldl_cons, List.foldl_nil, List.filter_append, List.foldl_append]
    by_cases hr : r.name = name
    · subst hr
      rw [container?_write_self, List.filter_singleton]
      by_cases hearlier : ∃ r' ∈ earlier, r'.name = r.name
      · rw [ih hearlier]
        simp
      · have hne : ∀ r' ∈ earlier, r'.name ≠ r.name := fun r' hr' hname => hearlier ⟨r', hr', hname⟩
        have hnone : earlier.filter (·.name == r.name) = [] := by simpa using hne
        rw [container?_writeAll_of_unreported w hne, hnone]
        simp
    · have hnone : [r].filter (·.name == name) = [] := by simp [hr]
      obtain ⟨r', hr', hname⟩ := h
      have hearlier : ∃ r' ∈ earlier, r'.name = name := by
        rcases List.mem_append.1 hr' with hr' | hr'
        · exact ⟨r', hr', hname⟩
        · exact absurd (List.mem_singleton.1 hr' ▸ hname) hr
      rw [container?_write_of_ne w _ hr, ih hearlier, hnone, List.foldl_nil]

theorem writeAll_keeps (reports : List ReportedContainer) (o : KubernetesObject) :
    (reports.foldl (write w) o).name = o.name ∧ (reports.foldl (write w) o).space = o.space ∧
      (reports.foldl (write w) o).kind = o.kind := by
  induction reports generalizing o with
  | nil => exact ⟨rfl, rfl, rfl⟩
  | cons r reports ih => exact ih (o.write w r)

/-- An object under a view of its containers. -/
def seen (view : Container → Container) (o : KubernetesObject) : KubernetesObject :=
  { o with containers := o.containers.map view }

theorem seen_writeAll {view : Container → Container} {w w' : Writing} (h : w.SeenAs view w')
    (reports : List ReportedContainer) (o : KubernetesObject) :
    (reports.foldl (write w) o).seen view = reports.foldl (write w') (o.seen view) := by
  have hstep (o : KubernetesObject) (r : ReportedContainer) : (o.seen view).write w' r = (o.write w r).seen view := by
    have hcontainers : (changeFirst (·.name == r.name) { name := r.name } (w.run r) o.containers).map view =
        changeFirst (·.name == r.name) (view { name := r.name }) (w'.run r) (o.containers.map view) := by
      refine map_changeFirst ?_ (h.run r) o.containers
      intro c
      rw [h.name]
    rw [h.fresh] at hcontainers
    simp only [write, seen, hcontainers]
  exact (List.foldl_hom (seen view) hstep).symm

/-- What holds of all containers and of fresh ones, and is kept by the writing, holds behind it. -/
theorem forall_writeAll {P : Container → Prop} (hfresh : ∀ name, P { name }) (hw : ∀ r c, P c → P (w.run r c))
    (reports : List ReportedContainer) {o : KubernetesObject} (h : ∀ c ∈ o.containers, P c) :
    ∀ c ∈ (reports.foldl (write w) o).containers, P c := by
  induction reports generalizing o with
  | nil => exact h
  | cons r reports ih => exact ih (forall_mem_changeFirst (hfresh r.name) (hw r) h)

/-- The name and the namespace of an object tell it from others. -/
def key (o : KubernetesObject) : String × String := (o.name, o.space)

/-- The first object of a name and a namespace. -/
def first? (name space : String) (objects : List KubernetesObject) : Option KubernetesObject :=
  objects.find? fun o => o.name == name && o.space == space

end KubernetesObject

theorem Experiment.object?_eq (e : Experiment) (name space : String) :
    e.object? name space = KubernetesObject.first? name space e.objects := rfl

/-! ## Objects of an experiment -/

namespace ReportedObject

open KubernetesObject (first?)

/-- Writes a report into the objects of an experiment. -/
def write (w : Writing) (objects : List KubernetesObject) (r : ReportedObject) : List KubernetesObject :=
  r.change (fun o => r.containers.foldl (KubernetesObject.write w) o) objects

theorem write_receive (window : Interval) : write (.receive window) = mergeInto window := rfl

/-- Whether a report is on the object of a name and a namespace. -/
def isOn (name space : String) (r : ReportedObject) : Bool := r.name == name && r.space == space

theorem isOn_iff {name space : String} {r : ReportedObject} :
    r.isOn name space = true ↔ r.name = name ∧ r.space = space := by
  simp [isOn]

/-- The object that a report brings where there is none. -/
def fresh (r : ReportedObject) : KubernetesObject := { kind := r.kind, name := r.name, space := r.space }

/-- What is reported on the containers of an object. -/
def containersOn (name space : String) (reports : List ReportedObject) : List ReportedContainer :=
  (reports.filter (isOn name space)).flatMap (·.containers)

theorem containersOn_append (name space : String) (a b : List ReportedObject) :
    containersOn name space (a ++ b) = containersOn name space a ++ containersOn name space b := by
  simp [containersOn]

theorem containersOn_self (r : ReportedObject) : containersOn r.name r.space [r] = r.containers := by
  simp [containersOn, isOn]

theorem containersOn_eq_nil {name space : String} {reports : List ReportedObject}
    (h : reports.find? (isOn name space) = none) : containersOn name space reports = [] := by
  rw [containersOn, List.filter_eq_nil_iff.2 (List.find?_eq_none.1 h), List.flatMap_nil]

theorem map_seen_writeAll {view : Container → Container} {w w' : Writing} (h : w.SeenAs view w')
    (reports : List ReportedObject) (objects : List KubernetesObject) :
    (reports.foldl (write w) objects).map (KubernetesObject.seen view) =
      reports.foldl (write w') (objects.map (KubernetesObject.seen view)) := by
  have hstep (objects : List KubernetesObject) (r : ReportedObject) :
      (write w objects r).map (KubernetesObject.seen view) = write w' (objects.map (KubernetesObject.seen view)) r := by
    refine map_changeFirst ?_ ?_ objects
    · intro o
      rfl
    · intro o
      exact KubernetesObject.seen_writeAll h r.containers o
  exact (List.foldl_hom (List.map (KubernetesObject.seen view)) fun objects r => (hstep objects r).symm).symm

variable (w : Writing) {name space : String}

theorem forall_writeAll {P : Container → Prop} (hfresh : ∀ name, P { name }) (hw : ∀ r c, P c → P (w.run r c))
    (reports : List ReportedObject) {objects : List KubernetesObject} (h : ∀ o ∈ objects, ∀ c ∈ o.containers, P c) :
    ∀ o ∈ reports.foldl (write w) objects, ∀ c ∈ o.containers, P c := by
  induction reports generalizing objects with
  | nil => exact h
  | cons r reports ih =>
    refine ih (forall_mem_changeFirst (P := fun o : KubernetesObject => ∀ c ∈ o.containers, P c) ?_ ?_ h)
    · exact List.forall_mem_nil _
    · intro o ho
      exact KubernetesObject.forall_writeAll w hfresh hw r.containers ho

theorem first?_write_self (objects : List KubernetesObject) (r : ReportedObject) :
    first? r.name r.space (write w objects r) =
      some (r.containers.foldl (KubernetesObject.write w) ((first? r.name r.space objects).getD r.fresh)) := by
  have hkept (o : KubernetesObject) := KubernetesObject.writeAll_keeps w r.containers o
  refine find?_changeFirst_self ?_ ?_ objects
  · simp only [(hkept _).1, (hkept _).2.1, BEq.rfl, Bool.and_self]
  · intro o ho
    simpa only [(hkept o).1, (hkept o).2.1] using ho

theorem first?_write_of_not_isOn (objects : List KubernetesObject) {r : ReportedObject}
    (h : r.isOn name space = false) : first? name space (write w objects r) = first? name space objects := by
  have hkept (o : KubernetesObject) := KubernetesObject.writeAll_keeps w r.containers o
  have hne : ∀ o : KubernetesObject, r.isAbout o = true → (o.name == name && o.space == space) = false := by
    intro o ho
    rw [isAbout, Bool.and_eq_true, beq_iff_eq, beq_iff_eq] at ho
    rw [ho.1, ho.2]
    exact h
  refine find?_changeFirst_of_disjoint ?_ hne ?_ objects
  · rw [(hkept _).1, (hkept _).2.1]
    exact h
  · intro o ho
    rw [(hkept o).1, (hkept o).2.1]
    exact hne o ho

/-- An object takes in all that is reported on its containers; the first report on it brings it, if it is new. -/
theorem first?_writeAll (objects : List KubernetesObject) (reports : List ReportedObject) :
    first? name space (reports.foldl (write w) objects) = match reports.find? (isOn name space) with
      | none => first? name space objects
      | some first => some ((containersOn name space reports).foldl (KubernetesObject.write w)
          ((first? name space objects).getD first.fresh)) := by
  induction reports using List.reverseRecOn with
  | nil => rfl
  | append_singleton earlier r ih =>
    rw [List.foldl_append, List.foldl_cons, List.foldl_nil, containersOn_append, List.find?_append]
    cases hr : r.isOn name space with
    | false =>
      have hnone : [r].find? (isOn name space) = none := by simp [hr]
      rw [first?_write_of_not_isOn w _ hr, ih, hnone, containersOn_eq_nil hnone, List.append_nil, Option.or_none]
    | true =>
      obtain ⟨rfl, rfl⟩ := isOn_iff.1 hr
      rw [first?_write_self, containersOn_self, ih]
      cases hearlier : earlier.find? (isOn r.name r.space) with
      | none => simp [containersOn_eq_nil hearlier, hr]
      | some first => simp [List.foldl_append]

end ReportedObject

end TuningAdvisor
