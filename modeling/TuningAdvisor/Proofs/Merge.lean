import Mathlib.Data.List.Basic
import Mathlib.Data.List.TakeDrop
import Mathlib.Data.List.TakeWhile
import TuningAdvisor.Experiment.Merge
import TuningAdvisor.Proofs.Ingestion
import TuningAdvisor.Proofs.Lists
/-!
# What an accepted result leaves in an experiment: `merge_result` and `recommend`

Objects and containers keep their places, and new ones stand behind them (`Grows`); **a container changes
at the end of the result's window only** (`Follows`). The merge and the recommendations both go
by these rules, and `Records` says what they come to together.
-/

namespace TuningAdvisor

/-! ## Lists that grow -/

/-- Items change in their places by `R`, and behind them stand fresh ones that have changed by `R`. -/
inductive Grows {α : Type} (R : α → α → Prop) (Fresh : α → Prop) : List α → List α → Prop where
  | nil : Grows R Fresh [] []
  | new {a b : α} {m : List α} : Fresh a → R a b → Grows R Fresh [] m → Grows R Fresh [] (b :: m)
  | cons {a b : α} {l m : List α} : R a b → Grows R Fresh l m → Grows R Fresh (a :: l) (b :: m)

namespace Grows

variable {α : Type} {R : α → α → Prop} {Fresh : α → Prop}

theorem refl (hr : ∀ a, R a a) : ∀ l : List α, Grows R Fresh l l
  | [] => .nil
  | a :: l => .cons (hr a) (refl hr l)

theorem trans (ht : ∀ a b c, R a b → R b c → R a c) {l m n : List α} (h : Grows R Fresh l m)
    (h' : Grows R Fresh m n) : Grows R Fresh l n := by
  induction h generalizing n with
  | nil => exact h'
  | new hf hab _ ih => cases h' with | cons hbc h' => exact .new hf (ht _ _ _ hab hbc) (ih h')
  | cons hab _ ih => cases h' with | cons hbc h' => exact .cons (ht _ _ _ hab hbc) (ih h')

theorem map (f : α → α) (hf : ∀ a, R a (f a)) : ∀ l : List α, Grows R Fresh l (l.map f)
  | [] => .nil
  | a :: l => .cons (hf a) (map f hf l)

/-- A weaker rule for the items that are there, and for fresh ones. -/
theorem imp {R' : α → α → Prop} {l m : List α} (h : Grows R Fresh l m)
    (himp : ∀ a b, a ∈ l ∨ Fresh a → R a b → R' a b) : Grows R' Fresh l m := by
  induction h with
  | nil => exact .nil
  | new hf hab _ ih => exact .new hf (himp _ _ (.inr hf) hab) (ih himp)
  | cons hab _ ih =>
    refine .cons (himp _ _ (.inl List.mem_cons_self) hab) (ih fun a b ha => himp a b ?_)
    exact ha.imp_left (List.mem_cons_of_mem _)

theorem exists_of_mem {l m : List α} (h : Grows R Fresh l m) {b : α} (hb : b ∈ m) :
    ∃ a, (a ∈ l ∨ Fresh a) ∧ R a b := by
  induction h with
  | nil => cases hb
  | new hf hab _ ih =>
    rcases List.mem_cons.1 hb with rfl | hb
    · exact ⟨_, .inr hf, hab⟩
    · exact ih hb
  | cons hab _ ih =>
    rcases List.mem_cons.1 hb with rfl | hb
    · exact ⟨_, .inl List.mem_cons_self, hab⟩
    · obtain ⟨a, ha, hab⟩ := ih hb
      exact ⟨a, ha.imp_left (List.mem_cons_of_mem _), hab⟩

theorem getElem? {l m : List α} (h : Grows R Fresh l m) {i : Nat} {a : α} (ha : l[i]? = some a) :
    ∃ b, m[i]? = some b ∧ R a b := by
  induction h generalizing i with
  | nil => cases ha
  | new => cases ha
  | cons hab _ ih =>
    cases i with
    | zero => cases ha; exact ⟨_, rfl, hab⟩
    | succ i => exact ih (by simpa using ha)

theorem exists_mem {l m : List α} (h : Grows R Fresh l m) {a : α} (ha : a ∈ l) : ∃ b ∈ m, R a b := by
  obtain ⟨i, hi⟩ := List.mem_iff_getElem?.1 ha
  obtain ⟨b, hb, hab⟩ := h.getElem? hi
  exact ⟨b, List.mem_of_getElem? hb, hab⟩

/-- A change of the first fitting item; its effect may be known of the fitting ones only. -/
theorem changeFirst {p : α → Bool} {fresh : α} {f : α → α} (hfresh : Fresh fresh) (hr : ∀ a, R a a)
    (hf : ∀ a, R a (f a)) : ∀ l : List α, Grows R Fresh l (changeFirst p fresh f l)
  | [] => .new hfresh (hf fresh) .nil
  | a :: l => by
    unfold TuningAdvisor.changeFirst
    split
    · exact .cons (hf a) (refl hr l)
    · exact .cons (hr a) (changeFirst hfresh hr hf l)

theorem foldl {β : Type} {step : List α → β → List α} (hr : ∀ a, R a a) (ht : ∀ a b c, R a b → R b c → R a c)
    (hstep : ∀ l b, Grows R Fresh l (step l b)) : ∀ (bs : List β) (l : List α), Grows R Fresh l (bs.foldl step l)
  | [], l => refl hr l
  | b :: bs, l => trans ht (hstep l b) (foldl hr ht hstep bs (step l b))

end Grows

/-- Some item is changed. -/
theorem exists_mem_changeFirst {α : Type} (p : α → Bool) (fresh : α) (f : α → α) :
    ∀ l : List α, ∃ a, f a ∈ changeFirst p fresh f l
  | [] => ⟨fresh, List.mem_singleton.2 rfl⟩
  | a :: l => by
    unfold changeFirst
    split
    · exact ⟨a, List.mem_cons_self⟩
    · obtain ⟨b, hb⟩ := exists_mem_changeFirst p fresh f l
      exact ⟨b, List.mem_cons_of_mem _ hb⟩

/-- An item that is still the first one behind a change is changed once more. -/
theorem changeFirst_changeFirst {α : Type} {p : α → Bool} {fresh : α} {f : α → α} (g : α → α)
    (hfresh : p (f fresh) = true) (hf : ∀ a, p a = true → p (f a) = true) :
    ∀ l : List α, changeFirst p fresh g (changeFirst p fresh f l) = changeFirst p fresh (fun a => g (f a)) l
  | [] => by simp [changeFirst, hfresh]
  | a :: l => by
    by_cases ha : p a = true
    · simp [changeFirst, ha, hf a ha]
    · simp [changeFirst, ha, changeFirst_changeFirst g hfresh hf l]

/-! ## Containers and objects -/

/-- A container into which nothing has come yet. -/
structure Container.Fresh (c : Container) : Prop where
  results : c.results = ∅
  recommendations : c.recommendations = ∅

/-- A container changes at the end of a window only; an interval that is put there is of the window. -/
structure Container.Follows (start finish : Instant) (old new : Container) : Prop where
  name : new.name = old.name
  results : ∀ t, t ≠ finish → new.results.get? t = old.results.get? t
  recommendations : ∀ t, t ≠ finish → new.recommendations.get? t = old.recommendations.get? t
  kept : old.results.contains finish = true → new.results.contains finish = true
  window : ∀ i, new.results.get? finish = some i →
    old.results.get? finish = some i ∨ (i.start = start ∧ i.finish = finish)

namespace Container.Follows

variable {start finish : Instant} {a b c : Container}

theorem refl (c : Container) : Follows start finish c c :=
  ⟨rfl, fun _ _ => rfl, fun _ _ => rfl, id, fun _ h => .inl h⟩

theorem trans (h : Follows start finish a b) (h' : Follows start finish b c) : Follows start finish a c where
  name := h'.name.trans h.name
  results t ht := (h'.results t ht).trans (h.results t ht)
  recommendations t ht := (h'.recommendations t ht).trans (h.recommendations t ht)
  kept hk := h'.kept (h.kept hk)
  window i hi := (h'.window i hi).elim (h.window i) .inr

/-- Where nothing is stored under the end of the window, only the interval of the window comes in. -/
theorem interval_cases (h : Follows start finish a b) (hnew : a.results.get? finish = none) {t : Instant} {i : Interval}
    (hi : b.results.get? t = some i) :
    (t = finish ∧ i.start = start ∧ i.finish = finish) ∨ a.results.get? t = some i := by
  by_cases ht : t = finish
  · subst ht
    rcases h.window i hi with hi | hi
    · exact .inr hi
    · exact .inl ⟨rfl, hi⟩
  · exact .inr ((h.results t ht).symm.trans hi)

/-- The interval of the window comes in. -/
theorem receive {window : Interval} (r : ReportedContainer) (c : Container) :
    Follows window.start window.finish c (c.receive window r) := by
  refine ⟨rfl, fun t ht => SortedMap.get?_insert_of_ne _ _ ht, fun _ _ => rfl, fun _ => ?_, fun i hi => ?_⟩
  · simp [Container.receive, SortedMap.contains_eq]
  · simp only [Container.receive, SortedMap.get?_insert_self, Option.some.injEq] at hi
    subst hi
    exact .inr ⟨rfl, rfl⟩

/-- Recommendations come in. -/
theorem recommend (made : TermRecommendations) (c : Container) :
    Follows start finish c { c with recommendations := c.recommendations.insert finish made } :=
  ⟨rfl, fun _ _ => rfl, fun _ ht => SortedMap.get?_insert_of_ne _ _ ht, id, fun _ h => .inl h⟩

end Container.Follows

namespace KubernetesObject

/-- An object keeps its name, and its containers grow. -/
structure Follows (start finish : Instant) (old new : KubernetesObject) : Prop where
  name : new.name = old.name
  space : new.space = old.space
  containers : Grows (Container.Follows start finish) Container.Fresh old.containers new.containers

/-- An object that has no container yet. -/
def Fresh (o : KubernetesObject) : Prop := o.containers = []

/-- The objects of an experiment grow. -/
abbrev Grow (start finish : Instant) : List KubernetesObject → List KubernetesObject → Prop :=
  Grows (Follows start finish) Fresh

variable {start finish : Instant} {a b c : KubernetesObject} {l m : List KubernetesObject}

theorem Follows.refl (o : KubernetesObject) : Follows start finish o o := ⟨rfl, rfl, .refl .refl _⟩

theorem Follows.trans (h : Follows start finish a b) (h' : Follows start finish b c) : Follows start finish a c :=
  ⟨h'.name.trans h.name, h'.space.trans h.space, h.containers.trans (fun _ _ _ => .trans) h'.containers⟩

theorem Follows.receive (window : Interval) (r : ReportedContainer) (o : KubernetesObject) :
    Follows window.start window.finish o (o.receive window r) :=
  ⟨rfl, rfl, .changeFirst ⟨rfl, rfl⟩ .refl (.receive r) _⟩

theorem Follows.receiveAll (window : Interval) : ∀ (reports : List ReportedContainer) (o : KubernetesObject),
    Follows window.start window.finish o (reports.foldl (KubernetesObject.receive window) o)
  | [], o => .refl o
  | r :: reports, o => (Follows.receive window r o).trans (receiveAll window reports (o.receive window r))

theorem Follows.map {f : Container → Container} (hf : ∀ c, Container.Follows start finish c (f c))
    (o : KubernetesObject) : Follows start finish o { o with containers := o.containers.map f } :=
  ⟨rfl, rfl, .map f hf _⟩

/-- Where the containers behind a growth come from. -/
theorem Grow.exists_of_mem (h : Grow start finish l m) {c : Container} (hc : c ∈ m.flatMap (·.containers)) :
    ∃ c₀, (c₀ ∈ l.flatMap (·.containers) ∨ c₀.Fresh) ∧ Container.Follows start finish c₀ c := by
  obtain ⟨o, ho, hc⟩ := List.mem_flatMap.1 hc
  obtain ⟨o₀, ho₀, ho⟩ := Grows.exists_of_mem h ho
  obtain ⟨c₀, hc₀, hc⟩ := ho.containers.exists_of_mem hc
  refine ⟨c₀, ?_, hc⟩
  rcases ho₀ with ho₀ | hfresh
  · exact hc₀.imp_left fun hc₀ => List.mem_flatMap.2 ⟨o₀, ho₀, hc₀⟩
  · rw [Fresh] at hfresh
    exact .inr (by simpa [hfresh] using hc₀)

/-- Where the containers before a growth go. -/
theorem Grow.exists_mem (h : Grow start finish l m) {c : Container} (hc : c ∈ l.flatMap (·.containers)) :
    ∃ c' ∈ m.flatMap (·.containers), Container.Follows start finish c c' := by
  obtain ⟨o, ho, hc⟩ := List.mem_flatMap.1 hc
  obtain ⟨o', ho', ho⟩ := Grows.exists_mem h ho
  obtain ⟨c', hc', hc⟩ := ho.containers.exists_mem hc
  exact ⟨c', List.mem_flatMap.2 ⟨o', ho', hc'⟩, hc⟩

/-- A reported container holds the interval of the window. -/
theorem exists_receiveAll (window : Interval) : ∀ (reports : List ReportedContainer) (o : KubernetesObject),
    reports ≠ [] →
      ∃ c ∈ (reports.foldl (KubernetesObject.receive window) o).containers, c.results.contains window.finish = true
  | [], _, h => absurd rfl h
  | r :: reports, o, _ => by
    obtain ⟨c, hc⟩ :=
      exists_mem_changeFirst (·.name == r.name) { name := r.name } (Container.receive window r) o.containers
    have hheld : (c.receive window r).results.contains window.finish = true := by
      simp [Container.receive, SortedMap.contains_eq]
    obtain ⟨c', hc', hfollows⟩ := (Follows.receiveAll window reports (o.receive window r)).containers.exists_mem hc
    exact ⟨c', hc', hfollows.kept hheld⟩

end KubernetesObject

namespace ReportedObject

/-! ## Objects, one report after the other -/

/-- Writes the report into the objects of an experiment. -/
def mergeInto (window : Interval) (objects : List KubernetesObject) (r : ReportedObject) : List KubernetesObject :=
  r.change (fun o => r.containers.foldl (KubernetesObject.receive window) o) objects

section
variable {start finish : Instant}

/-- Containers come one after the other into the object that has been looked up. -/
theorem on_mergeContainers {window : Interval} (h : Interval.of? start finish = .ok window) (r : ReportedObject) :
    ∀ (reports : List ReportedContainer) (written : Nat) (f : KubernetesObject → KubernetesObject)
      (objects : List KubernetesObject), (∀ o, (f o).name = o.name ∧ (f o).space = o.space) →
      (reports.foldlM (mergeContainer start finish r) written).on (r.change f objects) =
        (.ok (written + reports.length),
          r.change (fun o => reports.foldl (KubernetesObject.receive window) (f o)) objects)
  | [], _, _, _, _ => rfl
  | x :: reports, written, f, objects, hf => by
    have habout (o : KubernetesObject) (ho : r.isAbout o = true) : r.isAbout (f o) = true := by
      rwa [isAbout, (hf o).1, (hf o).2]
    have hstep : (mergeContainer start finish r written x).on (r.change f objects) =
        (.ok (written + 1), r.change (fun o => (f o).receive window x) objects) := by
      have hchange : r.change (fun o => o.receive window x) (r.change f objects) =
          r.change (fun o => (f o).receive window x) objects :=
        changeFirst_changeFirst _ (habout _ (by simp [isAbout])) habout objects
      simp only [mergeContainer, InPlace.on_bind, InPlace.on_lift, h, InPlace.on_modify, InPlace.on_pure, hchange]
    rw [List.foldlM_cons, InPlace.on_bind_of_ok hstep, List.length_cons, Nat.add_comm reports.length, ← Nat.add_assoc]
    exact on_mergeContainers h r reports (written + 1) (fun o => (f o).receive window x) objects hf

theorem on_merge {window : Interval} (h : Interval.of? start finish = .ok window) (r : ReportedObject) (written : Nat)
    (objects : List KubernetesObject) : (merge start finish written r).on objects =
      (.ok (written + r.containers.length), mergeInto window objects r) := by
  rw [merge, InPlace.on_bind_of_ok (InPlace.on_modify _ _)]
  exact on_mergeContainers h r r.containers written id objects fun _ => ⟨rfl, rfl⟩

/-- With a window, all reports are written. -/
theorem on_mergeAll {window : Interval} (h : Interval.of? start finish = .ok window) (reports : List ReportedObject)
    (written : Nat) (objects : List KubernetesObject) :
    (reports.foldlM (merge start finish) written).on objects =
      (.ok (written + (reports.flatMap (·.containers)).length), reports.foldl (mergeInto window) objects) := by
  induction reports generalizing written objects with
  | nil => rfl
  | cons r reports ih =>
    rw [List.foldlM_cons, InPlace.on_bind_of_ok (on_merge h r written objects), ih, List.foldl_cons, List.flatMap_cons,
      List.length_append, Nat.add_assoc]

theorem on_merge_of_bare {r : ReportedObject} (hr : r.containers = []) (written : Nat)
    (objects : List KubernetesObject) :
    (merge start finish written r).on objects = (.ok written, declareIn objects r) := by
  rw [merge, InPlace.on_bind_of_ok (InPlace.on_modify _ _), hr, List.foldlM_nil, InPlace.on_pure]

/-- Objects without containers are looked up, whatever the window is. -/
theorem on_mergeAll_of_bare {reports : List ReportedObject} (hbare : ∀ r ∈ reports, r.containers = []) (written : Nat)
    (objects : List KubernetesObject) : (reports.foldlM (merge start finish) written).on objects =
      (.ok written, reports.foldl declareIn objects) := by
  induction reports generalizing objects with
  | nil => rfl
  | cons r reports ih =>
    obtain ⟨hr, hbare⟩ := List.forall_mem_cons.1 hbare
    rw [List.foldlM_cons, InPlace.on_bind_of_ok (on_merge_of_bare hr written objects)]
    exact ih hbare _

/-- Without a window, the first container stops the merge, and its object has been looked up by then. -/
theorem on_merge_error {why : IntervalError} (h : Interval.of? start finish = .error why) {r : ReportedObject}
    (hr : r.containers ≠ []) (written : Nat) (objects : List KubernetesObject) :
    (merge start finish written r).on objects = (.error why, declareIn objects r) := by
  obtain ⟨x, reports, hcontainers⟩ := List.exists_cons_of_ne_nil hr
  have hstep (objects : List KubernetesObject) :
      (mergeContainer start finish r written x).on objects = (.error why, objects) := by
    rw [mergeContainer, h, InPlace.on_bind_of_error (InPlace.on_lift _ _)]
  rw [merge, InPlace.on_bind_of_ok (InPlace.on_modify _ _), hcontainers, List.foldlM_cons,
    InPlace.on_bind_of_error (hstep _)]

theorem on_mergeAll_error {why : IntervalError} (h : Interval.of? start finish = .error why)
    {bare : List ReportedObject} (hbare : ∀ r ∈ bare, r.containers = []) {first : ReportedObject}
    (hfirst : first.containers ≠ []) (rest : List ReportedObject) (written : Nat) (objects : List KubernetesObject) :
    ((bare ++ first :: rest).foldlM (merge start finish) written).on objects =
      (.error why, (bare ++ [first]).foldl declareIn objects) := by
  rw [List.foldlM_append, InPlace.on_bind_of_ok (on_mergeAll_of_bare hbare written objects), List.foldlM_cons,
    InPlace.on_bind_of_error (on_merge_error h hfirst _ _), List.foldl_append, List.foldl_cons, List.foldl_nil]

theorem mergeInto_of_bare {r : ReportedObject} (hr : r.containers = []) (window : Interval)
    (objects : List KubernetesObject) : mergeInto window objects r = declareIn objects r := by
  simp only [mergeInto, declareIn, hr, List.foldl_nil]
  rfl

end

theorem grow_mergeInto (window : Interval) (objects : List KubernetesObject) (r : ReportedObject) :
    KubernetesObject.Grow window.start window.finish objects (mergeInto window objects r) := by
  refine .changeFirst ?_ .refl (.receiveAll window r.containers) objects
  rfl

theorem grow_mergeAll (window : Interval) (reports : List ReportedObject) (objects : List KubernetesObject) :
    KubernetesObject.Grow window.start window.finish objects (reports.foldl (mergeInto window) objects) :=
  .foldl .refl (fun _ _ _ => .trans) (grow_mergeInto window) reports objects

/-- A result that reports on a container leaves its interval in some container. -/
theorem exists_mergeAll (window : Interval) : ∀ (reports : List ReportedObject) (objects : List KubernetesObject),
    reports.flatMap (·.containers) ≠ [] →
      ∃ c ∈ (reports.foldl (mergeInto window) objects).flatMap (·.containers),
        c.results.contains window.finish = true
  | [], _, h => absurd rfl h
  | r :: reports, objects, h => by
    by_cases hr : r.containers = []
    · exact exists_mergeAll window reports _ (by simpa [hr] using h)
    · obtain ⟨o, ho⟩ := exists_mem_changeFirst r.isAbout { kind := r.kind, name := r.name, space := r.space }
        (fun o => r.containers.foldl (KubernetesObject.receive window) o) objects
      obtain ⟨c, hc, hheld⟩ := KubernetesObject.exists_receiveAll window r.containers o hr
      have hc : c ∈ (mergeInto window objects r).flatMap (·.containers) := List.mem_flatMap.2 ⟨_, ho, hc⟩
      obtain ⟨c', hc', hfollows⟩ := KubernetesObject.Grow.exists_mem (grow_mergeAll window reports _) hc
      exact ⟨c', hc', hfollows.kept hheld⟩

end ReportedObject

/-! ## Experiments -/

namespace Experiment

/-- The same apart from the objects and the windows. -/
def SameDefinition (old new : Experiment) : Prop := new = { old with objects := new.objects, windows := new.windows }

theorem SameDefinition.trans {a b c : Experiment} (h : a.SameDefinition b) (h' : b.SameDefinition c) :
    a.SameDefinition c := by
  unfold SameDefinition at *
  rw [h', h]

theorem SameDefinition.terms {old new : Experiment} (h : old.SameDefinition new) (t : ResourceTuning) :
    t.terms new = t.terms old := by
  rw [h]
  rfl

/-- Whatever becomes of a merge, the definition is kept. -/
theorem sameDefinition_merge (e : Experiment) (s : Submission) (start finish : Instant) :
    e.SameDefinition (e.merge s start finish).1 := by
  unfold merge
  split <;> rfl

/-- What an accepted result leaves behind: one more window, and containers that differ at its end only. -/
structure Records (start finish : Instant) (old new : Experiment) : Prop where
  definition : old.SameDefinition new
  ordered : start.before finish = true
  windows : new.windows = old.windows.insert finish start
  objects : KubernetesObject.Grow start finish old.objects new.objects
  held : ∃ c ∈ new.containers, c.results.contains finish = true

namespace Records

variable {start finish : Instant} {old new : Experiment}

theorem get?_finish (h : Records start finish old new) : new.windows.get? finish = some start := by
  rw [h.windows, SortedMap.get?_insert_self]

theorem get?_of_ne (h : Records start finish old new) {t : Instant} (ht : t ≠ finish) :
    new.windows.get? t = old.windows.get? t := by
  rw [h.windows, SortedMap.get?_insert_of_ne _ _ ht]

theorem window_cases (h : Records start finish old new) {t s : Instant} (hw : new.windows.get? t = some s) :
    (t = finish ∧ s = start) ∨ old.windows.get? t = some s := by
  rw [h.windows] at hw
  exact (SortedMap.get?_insert_cases hw).imp_right (·.2)

theorem window_kept (h : Records start finish old new) (hnew : old.windows.get? finish = none) {t s : Instant}
    (hw : old.windows.get? t = some s) : new.windows.get? t = some s := by
  have ht : t ≠ finish := by rintro rfl; cases hnew.symm.trans hw
  exact (h.get?_of_ne ht).trans hw

end Records

section
variable {e merged : Experiment} {s : Submission} {start finish : Instant} {why : IntervalError}

/-- A merge is what its loop comes to. -/
theorem merge_eq (e : Experiment) (s : Submission) (start finish : Instant) :
    e.merge s start finish =
      match (s.objects.foldlM (ReportedObject.merge start finish) 0).on e.objects with
      | (.ok written, objects) => ({ e with objects, windows := e.windows.insert finish start }, .ok written)
      | (.error why, objects) => ({ e with objects }, .error why) := rfl

theorem merge_of_window {window : Interval} (h : Interval.of? start finish = .ok window) (e : Experiment)
    (s : Submission) : e.merge s start finish =
      ({ e with
        objects := s.objects.foldl (ReportedObject.mergeInto window) e.objects
        windows := e.windows.insert finish start }, .ok s.containers.length) := by
  rw [merge_eq, ReportedObject.on_mergeAll h, Nat.zero_add]
  rfl

/-- A result without containers has no interval, and its window may be none. -/
theorem merge_of_bare (h : ∀ r ∈ s.objects, r.containers = []) (e : Experiment) (start finish : Instant) :
    e.merge s start finish =
      ({ e with
        objects := s.objects.foldl ReportedObject.declareIn e.objects
        windows := e.windows.insert finish start }, .ok 0) := by
  rw [merge_eq, ReportedObject.on_mergeAll_of_bare h]

theorem merge_of_error (h : Interval.of? start finish = .error why) {bare rest : List ReportedObject}
    {first : ReportedObject} (hobjects : s.objects = bare ++ first :: rest) (hbare : ∀ r ∈ bare, r.containers = [])
    (hfirst : first.containers ≠ []) (e : Experiment) :
    e.merge s start finish =
      ({ e with objects := (bare ++ [first]).foldl ReportedObject.declareIn e.objects }, .error why) := by
  rw [merge_eq, hobjects, ReportedObject.on_mergeAll_error h hbare hfirst]

/-- What a merge comes to. Without a container there is no interval, and the window may be none. -/
theorem merge_ok {n : Nat} (h : e.merge s start finish = (merged, .ok n)) :
    (s.containers ≠ [] → start.before finish = true) ∧
      merged = { e with
        objects := s.objects.foldl (ReportedObject.mergeInto { start, finish, metrics := none }) e.objects
        windows := e.windows.insert finish start } := by
  by_cases hordered : start.before finish = true
  · rw [merge_of_window (if_pos hordered)] at h
    cases h
    exact ⟨fun _ => hordered, rfl⟩
  · have hwindow : Interval.of? start finish = .error (.notAfterStart start finish) := if_neg hordered
    by_cases hbare : ∀ r ∈ s.objects, r.containers = []
    · rw [merge_of_bare hbare] at h
      cases h
      refine ⟨fun hs => absurd (List.flatMap_eq_nil_iff.2 hbare) hs, ?_⟩
      congr 1
      exact List.foldl_ext _ _ _ fun objects r hr => (ReportedObject.mergeInto_of_bare (hbare r hr) _ objects).symm
    · obtain ⟨bare, first, rest, hobjects, hbare, hfirst⟩ := exists_first (by simpa using hbare)
      rw [merge_of_error hwindow hobjects hbare hfirst] at h
      cases h

/-- A merge that fails stops at the first object with a container. -/
theorem merge_failed (h : (e.merge s start finish).2 = .error why) :
    Interval.of? start finish = .error why ∧
    ∃ bare first rest, s.objects = bare ++ first :: rest ∧ (∀ r ∈ bare, r.containers = []) ∧ first.containers ≠ [] ∧
      (e.merge s start finish).1 =
        { e with objects := (bare ++ [first]).foldl ReportedObject.declareIn e.objects } := by
  cases hwindow : Interval.of? start finish with
  | ok window =>
    rw [merge_of_window hwindow] at h
    cases h
  | error reason =>
    by_cases hbare : ∀ r ∈ s.objects, r.containers = []
    · rw [merge_of_bare hbare] at h
      cases h
    · obtain ⟨bare, first, rest, hobjects, hbare, hfirst⟩ := exists_first (by simpa using hbare)
      have hmerged := merge_of_error hwindow hobjects hbare hfirst e
      rw [hmerged] at h
      cases h
      exact ⟨rfl, bare, first, rest, hobjects, hbare, hfirst, congrArg Prod.fst hmerged⟩

end

/-- A merge of a result that reports on a container. -/
theorem records_of_merge {e merged : Experiment} {s : Submission} {start finish : Instant} {n : Nat}
    (hs : s.containers ≠ []) (h : e.merge s start finish = (merged, .ok n)) : Records start finish e merged := by
  obtain ⟨hordered, rfl⟩ := merge_ok h
  exact ⟨rfl, hordered hs, rfl, ReportedObject.grow_mergeAll { start, finish, metrics := none } _ _,
    ReportedObject.exists_mergeAll { start, finish, metrics := none } _ _ hs⟩

/-- Changes of the containers at the end of the window go with it. -/
theorem Records.mapContainers {start finish : Instant} {old new : Experiment} (h : Records start finish old new)
    {f : Container → Container} (hf : ∀ c, Container.Follows start finish c (f c)) :
    Records start finish old (new.mapContainers f) := by
  have hgrow : KubernetesObject.Grow start finish new.objects (new.mapContainers f).objects :=
    .map _ (.map hf) _
  refine ⟨?_, h.ordered, h.windows, h.objects.trans (fun _ _ _ => .trans) hgrow, ?_⟩
  · exact h.definition.trans rfl
  · obtain ⟨c, hc, hheld⟩ := h.held
    obtain ⟨c', hc', hfollows⟩ := KubernetesObject.Grow.exists_mem hgrow hc
    exact ⟨c', hc', hfollows.kept hheld⟩

end Experiment

/-! ## The built-in handlers -/

namespace HandlerRegistry

theorem find?_register (r : HandlerRegistry) (name : String) (h : Handler) (profile : String) :
    (r.register name h).find? profile = if profile = name then some h else r.find? profile := by
  unfold register find?
  split
  · rename_i e
    simp [e]
  · rename_i hne
    dsimp only
    rw [SortedMap.get?_insert_of_ne _ _ hne]

/-- Every profile has the same handler. -/
theorem find?_builtin (c : Config) (profile : String) :
    (HandlerRegistry.builtin c).find? profile = some (ResourceTuning.builtin c).handler := by
  have hfold : ∀ (names : List String) (r : HandlerRegistry) (h : Handler), r.find? profile = some h →
      (names.foldl (fun r name => r.register name h) r).find? profile = some h := by
    intro names
    induction names with
    | nil => exact fun _ _ hr => hr
    | cons name names ih =>
      intro r h hr
      refine ih _ h ?_
      rw [find?_register]
      split
      · rfl
      · exact hr
  exact hfold _ _ _ rfl

end HandlerRegistry

namespace ResourceTuning

/-- A result is let through exactly when it reports on a container and its reports have no problems. -/
theorem refuse?_eq_none_iff {p : Profile} {s : Submission} :
    refuse? p s = none ↔ s.containers ≠ [] ∧ problems p s = [] := by
  unfold refuse?
  split
  · rename_i hempty
    simp [List.isEmpty_iff.1 hempty]
  · rename_i hne
    have hne : s.containers ≠ [] := by simpa using hne
    split
    · rename_i hnone
      simp [hne, hnone]
    · rename_i hsome
      have hsome : problems p s ≠ [] := hsome
      simp [hsome]

/-- A container with the recommendations that are made for it, if there are any. -/
def advised (t : ResourceTuning) (terms : SortedMap String Float) (finish : Instant) (c : Container) : Container :=
  match t.recommendContainer? terms finish c with
  | some made => { c with recommendations := c.recommendations.insert finish made }
  | none => c

@[simp] theorem name_advised (t : ResourceTuning) (terms : SortedMap String Float) (finish : Instant) (c : Container) :
    (t.advised terms finish c).name = c.name := by
  unfold advised
  split <;> rfl

@[simp] theorem results_advised (t : ResourceTuning) (terms : SortedMap String Float) (finish : Instant)
    (c : Container) : (t.advised terms finish c).results = c.results := by
  unfold advised
  split <;> rfl

/-- Recommendations change the recommendations only, and those of the window only. -/
theorem follows_advised (t : ResourceTuning) (terms : SortedMap String Float) (start finish : Instant) (c : Container) :
    Container.Follows start finish c (t.advised terms finish c) := by
  unfold advised
  split
  · exact .recommend _ c
  · exact .refl c

theorem recommend_ok {t : ResourceTuning} {p : Profile} {e new : Experiment} {finish : Instant}
    {counts : RecommendationCounts} (h : t.recommend p e finish = (new, .ok counts)) :
    new = e.mapContainers (t.advised (t.terms e) finish) := by
  unfold recommend at h
  dsimp only at h
  split at h
  · cases h
  · cases h
    rfl

end ResourceTuning

namespace Ingestion

variable {i : Ingestion} {c : Config} {e new : Experiment} {s : Submission} {key : ResultKey} {profile : Profile}
  {handler : Handler} {counts : RecommendationCounts}

/-- What the built-in handlers have made of an accepted result. -/
theorem Acceptance.builtin (hi : i.handlers = .builtin c) (h : i.Acceptance e s key profile handler new counts) :
    ResourceTuning.refuse? profile s = none ∧ ∃ merged n, e.merge s key.start key.finish = (merged, .ok n) ∧
      new = merged.mapContainers
        ((ResourceTuning.builtin c).advised ((ResourceTuning.builtin c).terms merged) key.finish) := by
  have hhandler := h.handled
  rw [hi, HandlerRegistry.find?_builtin] at hhandler
  cases hhandler
  obtain ⟨merged, n, hmerge, hrecommend⟩ := h.stored
  exact ⟨h.valid, merged, n, hmerge, ResourceTuning.recommend_ok (p := profile) hrecommend⟩

/-- What the acceptance of a result by the built-in handlers leaves behind. -/
theorem Acceptance.records (hi : i.handlers = .builtin c) (h : i.Acceptance e s key profile handler new counts) :
    Experiment.Records key.start key.finish e new := by
  obtain ⟨hvalid, merged, n, hmerge, rfl⟩ := h.builtin hi
  refine (Experiment.records_of_merge (ResourceTuning.refuse?_eq_none_iff.1 hvalid).1 hmerge).mapContainers fun k => ?_
  exact ResourceTuning.follows_advised _ _ _ _ k

end Ingestion

end TuningAdvisor
