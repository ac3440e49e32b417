import TuningAdvisor.Experiment.Document
import TuningAdvisor.Proofs.Decoding
import TuningAdvisor.Proofs.Merge
import TuningAdvisor.Proofs.Runs
import TuningAdvisor.Proofs.Tolerance
/-!
# Histories: what `process` keeps in an `Experiment`

Three maps of an experiment grow with its results: its windows, the intervals of its containers and their
recommendations. **They agree with each other and with the results that were accepted** (`Consistent`), and
**nothing that they hold is ever lost or changed** (`Extends`). Both are kept by a single accepted result,
because its end is new, and so by every run.
-/

namespace TuningAdvisor

/-- An experiment into which nothing has come yet. -/
structure Experiment.Fresh (e : Experiment) : Prop where
  windows : e.windows = ∅
  containers : ∀ k ∈ e.containers, k.Fresh

/-! ## Experiments from documents -/

open Record (yields_map yields_defaulted)

variable {S : Doc → Prop} [Doc.Hereditary S]

theorem Container.yields_fresh : Container.decode.Yields Container.Fresh S := by
  refine Record.Yields.decoder ?_ _
  exact .seq_any (.seq_any (yields_map _ fun _ _ _ => ⟨rfl, rfl⟩) _) _

theorem KubernetesObject.yields_fresh : KubernetesObject.decode.Yields (fun o => ∀ k ∈ o.containers, k.Fresh) S := by
  refine Record.Yields.decoder ?_ _
  refine .seq (.seq_any (.seq_any ?_ _) _) (yields_defaulted _ Container.yields_fresh.list (by simp))
  exact yields_map _ fun _ _ _ _ hfresh => hfresh

/-- **What is read from a document is fresh.** -/
theorem Experiment.yields_fresh : Experiment.decode.Yields Experiment.Fresh S := by
  refine Record.Yields.decoder ?_ _
  -- the objects are the ninth of twelve fields
  have hobjects : (Record.defaulted "kubernetes_objects" (Decode.list KubernetesObject.decode) []).Yields
      (fun objects => ∀ o ∈ objects, ∀ k ∈ o.containers, k.Fresh) S :=
    yields_defaulted _ KubernetesObject.yields_fresh.list (by simp)
  refine .seq_any (.seq_any (.seq_any (.seq ?_ hobjects) _) _) _
  refine .seq_any (.seq_any (.seq_any (.seq_any (.seq_any (.seq_any (.seq_any ?_ _) _) _) _) _) _) _
  refine yields_map _ fun _ _ _ _ _ _ _ _ objects hobjects _ _ _ => ⟨rfl, fun k hk => ?_⟩
  obtain ⟨o, ho, hk⟩ := List.mem_flatMap.1 hk
  exact hobjects o ho k hk

/-! ## Containers and objects -/

/-- A container loses and changes nothing that it holds. -/
structure Container.Keeps (old new : Container) : Prop where
  name : new.name = old.name
  results : ∀ finish i, old.results.get? finish = some i → new.results.get? finish = some i
  recommendations : ∀ finish r, old.recommendations.get? finish = some r → new.recommendations.get? finish = some r

/-- An object keeps its name and its containers in their places, and these keep what they hold. -/
structure KubernetesObject.Keeps (old new : KubernetesObject) : Prop where
  name : new.name = old.name
  space : new.space = old.space
  containers : Grows Container.Keeps Container.Fresh old.containers new.containers

namespace Container.Keeps

variable {a b c : Container}

theorem refl (c : Container) : c.Keeps c := ⟨rfl, fun _ _ h => h, fun _ _ h => h⟩

theorem trans (h : a.Keeps b) (h' : b.Keeps c) : a.Keeps c where
  name := h'.name.trans h.name
  results t i hi := h'.results t i (h.results t i hi)
  recommendations t r hr := h'.recommendations t r (h.recommendations t r hr)

/-- A container that holds nothing at the end of a window loses nothing to its result. -/
theorem of_follows {start finish : Instant} (h : Follows start finish a b) (hresults : a.results.get? finish = none)
    (hrecommendations : a.recommendations.get? finish = none) : a.Keeps b := by
  refine ⟨h.name, fun t i hi => ?_, fun t r hr => ?_⟩
  · have ht : t ≠ finish := by rintro rfl; rw [hresults] at hi; cases hi
    rwa [h.results t ht]
  · have ht : t ≠ finish := by rintro rfl; rw [hrecommendations] at hr; cases hr
    rwa [h.recommendations t ht]

end Container.Keeps

namespace KubernetesObject.Keeps

variable {a b c : KubernetesObject}

theorem refl (o : KubernetesObject) : o.Keeps o := ⟨rfl, rfl, .refl .refl _⟩

theorem trans (h : a.Keeps b) (h' : b.Keeps c) : a.Keeps c :=
  ⟨h'.name.trans h.name, h'.space.trans h.space, h.containers.trans (fun _ _ _ => .trans) h'.containers⟩

end KubernetesObject.Keeps

/-! ## Agreement -/

namespace Experiment

variable {e new : Experiment} {c : Config} {accepted : List (Instant × Instant)} {start finish : Instant}

/-- The maps of an experiment agree with each other and with the ends and starts of the accepted results. -/
structure Consistent (c : Config) (accepted : List (Instant × Instant)) (e : Experiment) : Prop where
  /-- The windows are those of the accepted results, one for each. -/
  recorded : e.windows.entries.Perm accepted
  ordered : ∀ finish start, e.windows.get? finish = some start → start.before finish = true
  declared : ∀ finish start, e.windows.get? finish = some start → e.AsDeclared c start finish
  /-- An interval is that of a window. -/
  intervals : ∀ k ∈ e.containers, ∀ finish i, k.results.get? finish = some i →
    i.finish = finish ∧ e.windows.get? finish = some i.start ∧ 0 < i.millis
  /-- A window has an interval. -/
  held : ∀ finish, e.windows.contains finish = true → ∃ k ∈ e.containers, k.results.contains finish = true
  recommended : ∀ k ∈ e.containers, ∀ finish, k.recommendations.contains finish = true →
    e.windows.contains finish = true

theorem Fresh.consistent (h : e.Fresh) (c : Config) : e.Consistent c [] := by
  have hnone : ∀ finish, e.windows.get? finish = none := fun finish => by rw [h.windows]; rfl
  refine ⟨by rw [h.windows]; exact .refl _, fun t s hw => ?_, fun t s hw => ?_, fun k hk t i hi => ?_, fun t hw => ?_,
    fun k hk t hr => ?_⟩
  · rw [hnone] at hw; cases hw
  · rw [hnone] at hw; cases hw
  · rw [(h.containers k hk).results] at hi; cases hi
  · rw [SortedMap.contains_eq, hnone] at hw; cases hw
  · rw [(h.containers k hk).recommendations] at hr; cases hr

theorem SameDefinition.asDeclared (h : e.SameDefinition new) (hd : e.AsDeclared c start finish) :
    new.AsDeclared c start finish := by
  rw [h]
  exact ⟨hd.positive, hd.accepted⟩

/-- What the checks say of a window that gets past them. -/
theorem window_of_precheck {s : Submission} {key : ResultKey} {choice : ProfileChoice}
    (h : e.precheck c s key = .ok choice) : e.AsDeclared c key.start key.finish ∧ e.windows.get? key.finish = none :=
  ⟨checkDuration_ok_iff.1 (prechecked_of_ok h).duration, (prechecked_of_ok h).unused⟩

/-- Each recorded window is that of an accepted result, and the other way round. -/
theorem Consistent.mem_iff (h : e.Consistent c accepted) :
    (finish, start) ∈ accepted ↔ e.windows.get? finish = some start := by
  rw [← h.recorded.mem_iff, SortedMap.mem_entries_iff]

/-- Under a new end, nothing is stored. -/
theorem Consistent.unused (h : e.Consistent c accepted) (hnew : e.windows.get? finish = none) {k : Container}
    (hk : k ∈ e.containers ∨ k.Fresh) : k.results.get? finish = none ∧ k.recommendations.get? finish = none := by
  rcases hk with hk | hfresh
  · refine ⟨Option.eq_none_iff_forall_ne_some.2 fun i hi => ?_, Option.eq_none_iff_forall_ne_some.2 fun r hr => ?_⟩
    · cases hnew.symm.trans (h.intervals k hk finish i hi).2.1
    · have hkey := h.recommended k hk finish (by rw [SortedMap.contains_eq, hr]; rfl)
      rw [SortedMap.contains_eq, hnew] at hkey
      cases hkey
  · rw [hfresh.results, hfresh.recommendations]
    exact ⟨rfl, rfl⟩

/-- An accepted result keeps the agreement. -/
theorem Consistent.record (h : e.Consistent c accepted) (hr : Records start finish e new)
    (hnew : e.windows.get? finish = none) (hd : e.AsDeclared c start finish) :
    new.Consistent c (accepted ++ [(finish, start)]) := by
  refine ⟨?_, fun t s hw => ?_, fun t s hw => ?_, fun k hk t i hi => ?_, fun t hw => ?_, fun k hk t hrec => ?_⟩
  · rw [hr.windows]
    exact (SortedMap.perm_insert hnew).trans ((h.recorded.cons _).trans (List.perm_append_singleton _ _).symm)
  · rcases hr.window_cases hw with ⟨rfl, rfl⟩ | hw
    · exact hr.ordered
    · exact h.ordered t s hw
  · rcases hr.window_cases hw with ⟨rfl, rfl⟩ | hw
    · exact hr.definition.asDeclared hd
    · exact hr.definition.asDeclared (h.declared t s hw)
  · obtain ⟨k₀, hk₀, hfollows⟩ := hr.objects.exists_of_mem hk
    rcases hfollows.interval_cases (h.unused hnew hk₀).1 hi with ⟨rfl, hstart, hfinish⟩ | hi
    · refine ⟨hfinish, hstart ▸ hr.get?_finish, ?_⟩
      rw [Interval.millis, hstart, hfinish]
      exact hd.positive
    · rcases hk₀ with hk₀ | hfresh
      · obtain ⟨hfinish, hwindow, hpositive⟩ := h.intervals k₀ hk₀ t i hi
        exact ⟨hfinish, hr.window_kept hnew hwindow, hpositive⟩
      · rw [hfresh.results] at hi; cases hi
  · by_cases ht : t = finish
    · exact ht ▸ hr.held
    · rw [SortedMap.contains_eq, hr.get?_of_ne ht] at hw
      obtain ⟨k, hk, hheld⟩ := h.held t hw
      obtain ⟨k', hk', hfollows⟩ := hr.objects.exists_mem hk
      refine ⟨k', hk', ?_⟩
      rw [SortedMap.contains_eq, hfollows.results t ht]
      exact hheld
  · by_cases ht : t = finish
    · rw [ht, SortedMap.contains_eq, hr.get?_finish]
      rfl
    · obtain ⟨k₀, hk₀, hfollows⟩ := hr.objects.exists_of_mem hk
      rw [SortedMap.contains_eq, hfollows.recommendations t ht] at hrec
      rw [SortedMap.contains_eq, hr.get?_of_ne ht]
      rcases hk₀ with hk₀ | hfresh
      · exact h.recommended k₀ hk₀ t hrec
      · rw [hfresh.recommendations] at hrec; cases hrec

/-! ## Growth -/

/-- An experiment keeps its definition, its windows, its objects in their places and all that their containers hold. -/
structure Extends (old new : Experiment) : Prop where
  definition : old.SameDefinition new
  windows : ∀ finish start, old.windows.get? finish = some start → new.windows.get? finish = some start
  objects : Grows KubernetesObject.Keeps KubernetesObject.Fresh old.objects new.objects

namespace Extends

variable {a b c : Experiment}

theorem refl (e : Experiment) : e.Extends e := ⟨rfl, fun _ _ h => h, .refl .refl _⟩

theorem trans (h : a.Extends b) (h' : b.Extends c) : a.Extends c where
  definition := h.definition.trans h'.definition
  windows t s hs := h'.windows t s (h.windows t s hs)
  objects := h.objects.trans (fun _ _ _ => .trans) h'.objects

end Extends

/-- An accepted result loses and changes nothing, as nothing is stored under its end. -/
theorem Consistent.extends (h : e.Consistent c accepted) (hr : Records start finish e new)
    (hnew : e.windows.get? finish = none) : e.Extends new := by
  have hkeeps : ∀ k k', k ∈ e.containers ∨ k.Fresh → Container.Follows start finish k k' → k.Keeps k' :=
    fun k k' hk hfollows => .of_follows hfollows (h.unused hnew hk).1 (h.unused hnew hk).2
  refine ⟨hr.definition, fun t s hs => hr.window_kept hnew hs, hr.objects.imp fun o o' ho hfollows => ?_⟩
  refine ⟨hfollows.name, hfollows.space, hfollows.containers.imp fun k k' hk => hkeeps k k' ?_⟩
  rcases ho with ho | hfresh
  · exact hk.imp_left fun hk => List.mem_flatMap.2 ⟨o, ho, hk⟩
  · rw [KubernetesObject.Fresh] at hfresh
    exact .inr (by simpa [hfresh] using hk)

end Experiment

/-! ## Runs -/

namespace Engine

/-- The ends and starts of the accepted results of an experiment. -/
def windowsOf (name : String) (ledger : List ResultKey) : List (Instant × Instant) :=
  (ledger.filter (·.name == name)).map fun key => (key.finish, key.start)

theorem windowsOf_append_self (ledger : List ResultKey) (key : ResultKey) :
    windowsOf key.name (ledger ++ [key]) = windowsOf key.name ledger ++ [(key.finish, key.start)] := by
  simp [windowsOf]

theorem windowsOf_append_of_ne (ledger : List ResultKey) {key : ResultKey} {name : String} (h : key.name ≠ name) :
    windowsOf name (ledger ++ [key]) = windowsOf name ledger := by
  simp [windowsOf, h]

/-- What holds all along a run: the experiments are consistent with the accepted results. -/
structure Recorded (c : Config) (ledger : List ResultKey) (e : Engine) : Prop where
  config : e.config = c
  handlers : e.handlers = .builtin c
  known : ∀ key ∈ ledger, ∃ x, e.store.get? key.name = some x
  consistent : ∀ name x, e.store.get? name = some x → x.Consistent c (windowsOf name ledger)

/-- The experiments of one engine are those of an earlier one and more, and extend them. -/
def Continues (e f : Engine) : Prop :=
  ∀ name x, e.store.get? name = some x → ∃ x', f.store.get? name = some x' ∧ x.Extends x'

variable {c : Config} {ledger : List ResultKey} {e : Engine} {x : Experiment} {s : Submission}

theorem fresh_stored (h : x.Fresh) (u : UseCase) (p : Profile) : (stored x u p).Fresh := by
  have hsame : (x.withDefaultProfile u).windows = x.windows ∧ (x.withDefaultProfile u).containers = x.containers := by
    unfold Experiment.withDefaultProfile
    split <;> exact ⟨rfl, rfl⟩
  refine ⟨hsame.1.trans h.windows, fun k hk => ?_⟩
  obtain ⟨o, ho, hk⟩ := List.mem_flatMap.1 hk
  obtain ⟨o₀, ho₀, rfl⟩ := List.mem_map.1 ho
  obtain ⟨k₀, hk₀, rfl⟩ := List.mem_map.1 hk
  have hfresh := h.containers k₀ (hsame.2 ▸ List.mem_flatMap.2 ⟨o₀, ho₀, hk₀⟩)
  exact ⟨hfresh.results, hfresh.recommendations⟩

namespace Recorded

theorem books {f : Engine} (hb : e.Books f) (h : Recorded c ledger e) : Recorded c ledger f where
  config := hb.config.trans h.config
  handlers := hb.handlers.trans h.handlers
  known := hb.store ▸ h.known
  consistent := hb.store ▸ h.consistent

/-- A name that is not in use has no accepted results. -/
theorem windowsOf_eq_nil (h : Recorded c ledger e) {name : String} (hunused : e.store.get? name = none) :
    windowsOf name ledger = [] := by
  unfold windowsOf
  rw [List.map_eq_nil_iff, List.filter_eq_nil_iff]
  intro key hkey hname
  obtain ⟨x, hx⟩ := h.known key hkey
  rw [beq_iff_eq.1 hname, hunused] at hx
  cases hx

theorem register (h : Recorded c ledger e) (hx : x.Fresh) : Recorded c ledger (e.register x).2 := by
  have hsettings := sameSettings_register e x
  rcases register_cases e x with ⟨-, hstore⟩ | ⟨u, choice, p, hadmitted, -, hstore⟩
  · exact h.books ⟨hsettings, hstore⟩
  · refine ⟨hsettings.config.trans h.config, hsettings.handlers.trans h.handlers, fun key hkey => ?_,
      fun name y hy => ?_⟩
    · obtain ⟨y, hy⟩ := h.known key hkey
      have hname : key.name ≠ x.name := fun e => by rw [e, hadmitted.unused] at hy; cases hy
      exact ⟨y, by rw [hstore, SortedMap.get?_insert_of_ne _ _ hname, hy]⟩
    · rw [hstore] at hy
      rcases SortedMap.get?_insert_cases hy with ⟨rfl, rfl⟩ | ⟨-, hy⟩
      · rw [h.windowsOf_eq_nil hadmitted.unused]
        exact (fresh_stored hx u p).consistent c
      · exact h.consistent name y hy

end Recorded

/-- A result is rejected, or it is recorded in the experiment that it names, under a new end. -/
theorem Recorded.ingestItem_cases (h : Recorded c ledger e) (s : Submission) :
    ((e.ingestItem s).1.accepted s = [] ∧ e.Books (e.ingestItem s).2) ∨
    ∃ key old new, (e.ingestItem s).1.accepted s = [key] ∧ e.store.get? key.name = some old ∧
      old.AsDeclared c key.start key.finish ∧ old.windows.get? key.finish = none ∧
      old.Records key.start key.finish new ∧ (e.ingestItem s).2.store = e.store.insert key.name new ∧
      ∃ profile handler counts, e.ingestion.Acceptance old s key profile handler new counts := by
  rcases Engine.ingestItem_cases e s with ⟨hrejected, hstore⟩ |
    ⟨key, old, profile, handler, new, counts, hkey, hold, hacc, haccepted, hstore⟩
  · refine .inl ⟨?_, sameSettings_ingestItem e s, hstore⟩
    unfold BatchItem.accepted
    rw [hrejected]
    rfl
  · have hname := (Ingestion.key_of_checkMandatory hkey).1
    obtain ⟨choice, hpre, -⟩ := hacc.checked
    obtain ⟨hdeclared, hnew⟩ := Experiment.window_of_precheck hpre
    refine .inr ⟨key, old, new, ?_, hname ▸ hold, ?_, hnew, hacc.records (c := c) h.handlers, hname ▸ hstore,
      profile, handler, counts, hacc⟩
    · unfold BatchItem.accepted
      rw [haccepted, hkey]
      rfl
    · rw [← h.config]
      exact hdeclared

theorem Recorded.ingestItem (h : Recorded c ledger e) (s : Submission) :
    Recorded c (ledger ++ (e.ingestItem s).1.accepted s) (e.ingestItem s).2 := by
  rcases h.ingestItem_cases s with ⟨hnone, hbooks⟩ |
    ⟨key, old, new, hkey, hold, hdeclared, hnew, hrecords, hstore, -⟩
  · rw [hnone, List.append_nil]
    exact h.books hbooks
  · have hsettings := sameSettings_ingestItem e s
    have hself : (e.ingestItem s).2.store.get? key.name = some new := by rw [hstore, SortedMap.get?_insert_self]
    have hother : ∀ {name}, name ≠ key.name → (e.ingestItem s).2.store.get? name = e.store.get? name := fun hne => by
      rw [hstore, SortedMap.get?_insert_of_ne _ _ hne]
    rw [hkey]
    refine ⟨hsettings.config.trans h.config, hsettings.handlers.trans h.handlers, fun k hk => ?_, fun name y hy => ?_⟩
    · by_cases hname : k.name = key.name
      · exact ⟨new, hname ▸ hself⟩
      · have hk : k ∈ ledger := by
          rcases List.mem_append.1 hk with hk | hk
          · exact hk
          · exact absurd (congrArg ResultKey.name (List.mem_singleton.1 hk)) hname
        obtain ⟨y, hy⟩ := h.known k hk
        exact ⟨y, (hother hname).trans hy⟩
    · rw [hstore] at hy
      rcases SortedMap.get?_insert_cases hy with ⟨rfl, rfl⟩ | ⟨hname, hy⟩
      · rw [windowsOf_append_self]
        exact (h.consistent _ old hold).record hrecords hnew hdeclared
      · rw [windowsOf_append_of_ne ledger (Ne.symm hname)]
        exact h.consistent name y hy

/-! ### Continuation -/

namespace Continues

variable {f g : Engine}

theorem refl (e : Engine) : e.Continues e := fun _ x h => ⟨x, h, .refl x⟩

theorem trans (h : e.Continues f) (h' : f.Continues g) : e.Continues g := fun name x hx => by
  obtain ⟨y, hy, hxy⟩ := h name x hx
  obtain ⟨z, hz, hyz⟩ := h' name y hy
  exact ⟨z, hz, hxy.trans hyz⟩

theorem of_books (h : e.Books f) : e.Continues f := fun _ x hx => ⟨x, by rw [h.store, hx], .refl x⟩

/-- One experiment is changed or added, and where there was one, it is extended. -/
theorem of_insert {name : String} {new : Experiment} (hstore : f.store = e.store.insert name new)
    (h : ∀ old, e.store.get? name = some old → old.Extends new) : e.Continues f := fun n x hx => by
  rw [hstore]
  by_cases hn : n = name
  · subst hn
    exact ⟨new, SortedMap.get?_insert_self _ _ _, h x hx⟩
  · exact ⟨x, by rw [SortedMap.get?_insert_of_ne _ _ hn, hx], .refl x⟩

end Continues

theorem continues_register (e : Engine) (x : Experiment) : e.Continues (e.register x).2 := by
  rcases register_cases e x with ⟨-, hstore⟩ | ⟨u, choice, p, hadmitted, -, hstore⟩
  · exact .of_books ⟨sameSettings_register e x, hstore⟩
  · exact .of_insert hstore fun old hold => by rw [hadmitted.unused] at hold; cases hold

theorem Recorded.continues_ingestItem (h : Recorded c ledger e) (s : Submission) : e.Continues (e.ingestItem s).2 := by
  rcases h.ingestItem_cases s with ⟨-, hbooks⟩ | ⟨key, old, new, -, hold, -, hnew, hrecords, hstore, -⟩
  · exact .of_books hbooks
  · refine .of_insert hstore fun x hx => ?_
    cases hold.symm.trans hx
    exact (h.consistent _ old hold).extends hrecords hnew

/-- A run keeps the agreement and continues the engine that it starts from. -/
theorem Recorded.run (h : Recorded c ledger e) {requests : List Request}
    (hfresh : ∀ r ∈ requests, ∀ x ∈ r.experiments, x.Fresh) :
    Recorded c (ledger ++ (e.run requests).1) (e.run requests).2 ∧ e.Continues (e.run requests).2 :=
  run_induction (P := fun l f => Recorded c l f ∧ e.Continues f)
    (fun hb h => ⟨h.1.books hb, h.2.trans (.of_books hb)⟩)
    (fun hx h => ⟨h.1.register hx, h.2.trans (continues_register _ _)⟩)
    (fun h => ⟨h.1.ingestItem _, h.2.trans (h.1.continues_ingestItem _)⟩) hfresh ⟨h, .refl e⟩

/-- What holds of an experiment without accepted results, and is kept by every result that is accepted for it, holds of
all experiments along a run. -/
theorem Recorded.run_experiments {R : List (Instant × Instant) → Experiment → Prop}
    (fresh : ∀ {x}, x.Fresh → R [] x)
    (accept : ∀ {i : Ingestion} {windows old s key profile handler new counts}, i.handlers = .builtin c →
      old.Consistent c windows → old.windows.get? key.finish = none → R windows old →
      i.Acceptance old s key profile handler new counts → R (windows ++ [(key.finish, key.start)]) new)
    (h : Recorded c ledger e) (hall : ∀ name x, e.store.get? name = some x → R (windowsOf name ledger) x)
    {requests : List Request} (hfresh : ∀ r ∈ requests, ∀ x ∈ r.experiments, x.Fresh) :
    ∀ name x, (e.run requests).2.store.get? name = some x → R (windowsOf name (ledger ++ (e.run requests).1)) x := by
  refine (run_induction (P := fun l f => Recorded c l f ∧ ∀ name x, f.store.get? name = some x →
    R (windowsOf name l) x) ?_ ?_ ?_ hfresh ⟨h, hall⟩).2
  · rintro l f g hb ⟨h, hall⟩
    exact ⟨h.books hb, hb.store ▸ hall⟩
  · rintro l f y hy ⟨h, hall⟩
    refine ⟨h.register hy, ?_⟩
    rcases register_cases f y with ⟨-, hstore⟩ | ⟨u, choice, p, hadmitted, -, hstore⟩
    · rwa [hstore]
    · intro name x hx
      rw [hstore] at hx
      rcases SortedMap.get?_insert_cases hx with ⟨rfl, rfl⟩ | ⟨-, hx⟩
      · rw [h.windowsOf_eq_nil hadmitted.unused]
        exact fresh (fresh_stored hy u p)
      · exact hall name x hx
  · rintro l f s ⟨h, hall⟩
    refine ⟨h.ingestItem s, ?_⟩
    rcases h.ingestItem_cases s with ⟨hnone, hbooks⟩ |
      ⟨key, old, new, hkey, hold, -, hnew, -, hstore, profile, handler, counts, hacc⟩
    · rwa [hnone, List.append_nil, hbooks.store]
    · intro name x hx
      rw [hkey]
      rw [hstore] at hx
      rcases SortedMap.get?_insert_cases hx with ⟨rfl, rfl⟩ | ⟨hname, hx⟩
      · rw [windowsOf_append_self]
        exact accept (i := f.ingestion) h.handlers (h.consistent _ old hold) hnew (hall _ old hold) hacc
      · rw [windowsOf_append_of_ne _ (Ne.symm hname)]
        exact hall name x hx

theorem recorded_ofConfig (c : Config) (profiles : ProfileStore) : Recorded c [] (ofConfig c profiles) :=
  ⟨rfl, rfl, fun _ h => absurd h List.not_mem_nil, fun _ _ h => by cases h⟩

/-- **Histories are sound and append-only.** Run an engine with the built-in handlers on any requests, and then on
more. In the state between, every experiment is consistent with the results of its name that were accepted, and each
of its windows is as long as declared within the tolerance; in the state behind, it has kept all its windows and
all that its containers held. -/
theorem histories_sound_append_only (c : Config) (profiles : ProfileStore) (before after : List Request)
    (hfresh : ∀ r ∈ before ++ after, ∀ x ∈ r.experiments, x.Fresh) {name : String} {x : Experiment}
    (hx : ((ofConfig c profiles).run before).2.store.get? name = some x) :
    x.Consistent c (windowsOf name ((ofConfig c profiles).run before).1) ∧
    (-2 ^ 63 ≤ c.toleranceSeconds → c.toleranceSeconds < 2 ^ 43 →
      ∀ finish start, x.windows.get? finish = some start → x.WithinTolerance c start finish) ∧
    ∃ x', ((ofConfig c profiles).run (before ++ after)).2.store.get? name = some x' ∧ x.Extends x' := by
  have hbefore := (recorded_ofConfig c profiles).run fun r hr => hfresh r (List.mem_append_left _ hr)
  have hafter := hbefore.1.run fun r hr => hfresh r (List.mem_append_right _ hr)
  have hconsistent := hbefore.1.consistent name x hx
  refine ⟨hconsistent, fun hlow hhigh finish start hw => ?_, ?_⟩
  · exact (hconsistent.declared finish start hw).withinTolerance hlow hhigh
  · rw [run_append]
    exact hafter.2 name x hx

/-- A local experiment whose results only have to report on a container. -/
def checkoutExample : Experiment where
  declaredName := some "checkout"
  mode := some "experiment"
  targetCluster := some "local"
  slo := some {}
  selector := some {}

/-- Its registration, and a result. -/
def checkoutRequests (start finish : Instant) : List Request :=
  [ .register checkoutExample,
    .ingestAll
      [{ declaredName := some "checkout", start := some start, finish := some finish
         objects := [{ name := "web", containers := [{ name := "server" }] }] }] ]

theorem fresh_checkoutExample : checkoutExample.Fresh := ⟨rfl, fun _ h => absurd h List.not_mem_nil⟩

theorem fresh_checkoutRequests (start finish : Instant) :
    ∀ r ∈ checkoutRequests start finish, ∀ x ∈ r.experiments, x.Fresh := by
  simpa [checkoutRequests, Request.experiments] using fresh_checkoutExample

/-- 2022-01-23T18:25:43Z. -/
def exampleStart : Instant := ⟨1642962343, 0, by decide⟩

/-- 15 minutes later. -/
def exampleFinish : Instant := ⟨1642963243, 0, by decide⟩

/-- A window of the default length is recorded, and kept when the experiment is sent again. -/
theorem checkoutExample_history :
    (∀ r ∈ checkoutRequests exampleStart exampleFinish ++ [.register checkoutExample], ∀ x ∈ r.experiments, x.Fresh) ∧
    ∃ x x', ((ofConfig {} {}).run (checkoutRequests exampleStart exampleFinish)).2.store.get? "checkout" = some x ∧
      x.Consistent {} [(exampleFinish, exampleStart)] ∧ x.WithinTolerance {} exampleStart exampleFinish ∧
      ((ofConfig {} {}).run (checkoutRequests exampleStart exampleFinish ++ [.register checkoutExample])).2.store.get?
        "checkout" = some x' ∧ x.Extends x' := by
  have hfresh : ∀ r ∈ checkoutRequests exampleStart exampleFinish ++ [.register checkoutExample],
      ∀ x ∈ r.experiments, x.Fresh := by
    intro r hr x hx
    rcases List.mem_append.1 hr with hr | hr
    · exact fresh_checkoutRequests _ _ r hr x hx
    · rw [List.mem_singleton.1 hr] at hx
      exact List.mem_singleton.1 hx ▸ fresh_checkoutExample
  have hledger : ((ofConfig {} {}).run (checkoutRequests exampleStart exampleFinish)).1 =
      [⟨"checkout", exampleStart, exampleFinish⟩] := by decide +kernel
  have hstored : (((ofConfig {} {}).run (checkoutRequests exampleStart exampleFinish)).2.store.get? "checkout").isSome =
      true := by decide +kernel
  obtain ⟨x, hx⟩ := Option.isSome_iff_exists.1 hstored
  obtain ⟨hconsistent, hwithin, x', hx', hextends⟩ := histories_sound_append_only {} {}
    (checkoutRequests exampleStart exampleFinish) [.register checkoutExample] hfresh hx
  rw [hledger] at hconsistent
  have hconsistent : x.Consistent {} [(exampleFinish, exampleStart)] := hconsistent
  have hwindow := hconsistent.mem_iff.1 (List.mem_singleton.2 rfl)
  exact ⟨hfresh, x, x', hx, hconsistent, hwithin (by decide) (by decide) _ _ hwindow, hx', hextends⟩

/-- A millisecond before a second is over. -/
def exampleMoment : Instant := ⟨1642962343, 999000000, by decide⟩

/-- A declared length of `2 ^ 45` seconds, and a tolerance of one second less. -/
def lenientConfig : Config where
  toleranceSeconds := 35184372088831
  measurementDuration := "35184372088832s"

/-- With so large a tolerance, a window that is a millisecond too short for it is recorded. -/
theorem lenientConfig_short_window :
    (∀ r ∈ checkoutRequests exampleStart exampleMoment, ∀ x ∈ r.experiments, x.Fresh) ∧
    ∃ x seconds,
      ((ofConfig lenientConfig {}).run (checkoutRequests exampleStart exampleMoment)).2.store.get? "checkout" = some x ∧
      x.windows.get? exampleMoment = some exampleStart ∧
      Quantity.durationSeconds Float (x.measurementDuration lenientConfig) = .ok seconds ∧
      1000 * lenientConfig.toleranceSeconds <
        |Instant.wholeMillis (exampleMoment.since exampleStart) - 1000 * seconds| := by
  have hstored : (((ofConfig lenientConfig {}).run (checkoutRequests exampleStart exampleMoment)).2.store.get?
      "checkout").any (fun x => x.windows.get? exampleMoment == some exampleStart &&
        x.measurementDuration lenientConfig == lenientConfig.measurementDuration) = true := by decide +kernel
  have hduration : (Quantity.durationSeconds Float lenientConfig.measurementDuration).toOption =
      some 35184372088832 := by decide +kernel
  obtain ⟨x, hx, hfound⟩ := (Option.any_eq_true _ _).1 hstored
  rw [Bool.and_eq_true, beq_iff_eq, beq_iff_eq] at hfound
  refine ⟨fresh_checkoutRequests _ _, x, 35184372088832, hx, hfound.1, ?_, by decide⟩
  rw [hfound.2]
  cases h : Quantity.durationSeconds Float lenientConfig.measurementDuration with
  | error why => rw [h] at hduration; cases hduration
  | ok seconds => rw [h] at hduration; cases hduration; rfl

end Engine

end TuningAdvisor
