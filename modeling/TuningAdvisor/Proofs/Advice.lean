import TuningAdvisor.Proofs.History
import TuningAdvisor.Proofs.Lookups
/-!
# Recommendations and the intervals behind them: `MetricProfileHandler::recommend`

A recommendation is made once, when the window of its end is accepted, and from the intervals up to that end that are
there by then. **It is not made again for a window that is accepted later and ends earlier**
(`lateRequests_outdated`), so that a stored recommendation is the one for the intervals up to its end without those
of windows accepted later (`recommendations_of_arrival`). Where windows are accepted in the order of their ends, these
are all the intervals up to the end.
-/

namespace TuningAdvisor

/-- A container without the intervals of some windows. -/
def Container.without (windows : List (Instant × Instant)) (k : Container) : Container :=
  { k with results := k.results.filter fun finish _ => windows.all (·.1 != finish) }

namespace Container

variable {windows later : List (Instant × Instant)} {k : Container} {start finish t : Instant}

theorem get?_without_of_mem {w : Instant × Instant} (h : w ∈ windows) :
    (k.without windows).results.get? w.1 = none := by
  have hfound : windows.all (·.1 != w.1) = false := by
    rw [List.all_eq_false]
    exact ⟨w, h, by simp⟩
  rw [without, SortedMap.get?_filter]
  simp [hfound]

theorem get?_without_of_forall_ne (h : ∀ w ∈ windows, w.1 ≠ t) :
    (k.without windows).results.get? t = k.results.get? t := by
  have hall : windows.all (·.1 != t) = true := by
    rw [List.all_eq_true]
    intro w hw
    simpa using h w hw
  rw [without, SortedMap.get?_filter]
  cases k.results.get? t <;> simp [hall]

end Container

namespace ResourceTuning

variable {t : ResourceTuning} {terms : SortedMap String Float} {finish : Instant} {k k' : Container}

theorem get?_upTo (finish : Instant) (k : Container) (time : Instant) :
    (upTo finish k).get? time = if finish.before time then none else k.results.get? time := by
  rw [upTo, SortedMap.get?_filter]
  cases finish.before time <;> cases k.results.get? time <;> simp

/-- The intervals up to an end are those of the container that end no later. -/
theorem upTo_congr (h : ∀ time, finish.before time = false → k.results.get? time = k'.results.get? time) :
    upTo finish k = upTo finish k' := by
  refine SortedMap.ext_get? ?_
  intro time
  rw [get?_upTo, get?_upTo]
  cases hlater : finish.before time with
  | true => rfl
  | false => simpa using h time hlater

theorem recommendContainer?_congr (h : upTo finish k = upTo finish k') :
    t.recommendContainer? terms finish k = t.recommendContainer? terms finish k' := by
  unfold recommendContainer?
  rw [h]

/-- What is recommended for a term. -/
theorem get?_of_recommendContainer? {made : TermRecommendations}
    (h : t.recommendContainer? terms finish k = some made) (term : String) :
    made.get? term = (terms.get? term).map (t.recommendTerm (upTo finish k)) := by
  unfold recommendContainer? at h
  dsimp only at h
  split at h
  · cases h
  · cases h
    exact SortedMap.get?_mapValues _ _ _

/-- The recommendations that are made are stored. -/
theorem get?_advised (h : k.recommendations.get? finish = none) :
    (t.advised terms finish k).recommendations.get? finish =
      t.recommendContainer? terms finish (t.advised terms finish k) := by
  have hsame : t.recommendContainer? terms finish (t.advised terms finish k) = t.recommendContainer? terms finish k :=
    recommendContainer?_congr (upTo_congr fun time _ => by rw [results_advised])
  rw [hsame, advised]
  cases t.recommendContainer? terms finish k with
  | none => exact h
  | some made => exact SortedMap.get?_insert_self _ _ _

end ResourceTuning

/-! ## One container -/

namespace Container

open ResourceTuning

/-- The recommendations of a container are those for the intervals that were there when the windows were accepted, one
after the other. -/
def Advised (t : ResourceTuning) (terms : SortedMap String Float) (windows : List (Instant × Instant))
    (k : Container) : Prop :=
  ∀ earlier finish start later, windows = earlier ++ (finish, start) :: later →
    k.recommendations.get? finish = t.recommendContainer? terms finish (k.without later)

variable {t : ResourceTuning} {terms : SortedMap String Float} {windows later : List (Instant × Instant)}
  {k k' : Container} {start finish : Instant}

theorem Fresh.advised (h : k.Fresh) : k.Advised t terms windows := by
  intro earlier finish start later _
  have hempty : upTo finish (k.without later) = ∅ := by
    unfold upTo without
    rw [h.results]
    rfl
  rw [h.recommendations, recommendContainer?, hempty]
  rfl

/-- A window that is accepted keeps the recommendations at the ends of the earlier ones, and their intervals. -/
theorem Advised.accept (h : k.Advised t terms windows) (hfollows : Follows start finish k k')
    (hunused : k.results.get? finish = none) (hnew : ∀ w ∈ windows, w.1 ≠ finish)
    (hmade : k'.recommendations.get? finish = t.recommendContainer? terms finish k') :
    k'.Advised t terms (windows ++ [(finish, start)]) := by
  intro earlier finish' start' later hsplit
  rcases List.eq_nil_or_concat later with rfl | ⟨later, last, rfl⟩
  · -- the window that has just been accepted
    obtain ⟨-, hlast⟩ := List.append_inj' hsplit rfl
    cases hlast
    rw [hmade]
    refine recommendContainer?_congr (upTo_congr ?_)
    intro time _
    exact (get?_without_of_forall_ne (by simp)).symm
  · -- an earlier one
    rw [List.concat_eq_append, ← List.cons_append, ← List.append_assoc] at hsplit
    rw [List.concat_eq_append]
    obtain ⟨hwindows, hlast⟩ := List.append_inj' hsplit rfl
    cases hlast
    have hne : finish' ≠ finish := hnew _ (hwindows ▸ List.mem_append_right _ List.mem_cons_self)
    rw [hfollows.recommendations _ hne, h earlier finish' start' later hwindows]
    refine recommendContainer?_congr (upTo_congr ?_)
    intro time _
    by_cases hmem : ∃ w ∈ later, w.1 = time
    · obtain ⟨w, hw, rfl⟩ := hmem
      rw [get?_without_of_mem hw, get?_without_of_mem (List.mem_append_left _ hw)]
    · have hlater : ∀ w ∈ later, w.1 ≠ time := by
        intro w hw htime
        exact hmem ⟨w, hw, htime⟩
      rw [get?_without_of_forall_ne hlater]
      by_cases htime : time = finish
      · subst htime
        rw [hunused]
        exact (get?_without_of_mem (w := (time, start)) (by simp)).symm
      · have hall : ∀ w ∈ later ++ [(finish, start)], w.1 ≠ time := by
          intro w hw
          rcases List.mem_append.1 hw with hw | hw
          · exact hlater w hw
          · rw [List.mem_singleton.1 hw]
            exact Ne.symm htime
        rw [get?_without_of_forall_ne hall, hfollows.results _ htime]

/-- Where all later windows end later, nothing is left out. -/
theorem upTo_without (h : ∀ w ∈ later, finish.before w.1 = true) : upTo finish (k.without later) = upTo finish k := by
  refine upTo_congr ?_
  intro time htime
  refine get?_without_of_forall_ne ?_
  rintro w hw rfl
  rw [h w hw] at htime
  cases htime

end Container

/-! ## Experiments -/

namespace Experiment

/-- The recommendations of all containers. -/
def Advised (t : ResourceTuning) (windows : List (Instant × Instant)) (e : Experiment) : Prop :=
  ∀ k ∈ e.containers, k.Advised t (t.terms e) windows

/-- A merge makes no recommendations. -/
theorem get?_recommendations_merge {e merged : Experiment} {s : Submission} {start finish : Instant} {n : Nat}
    (h : e.merge s start finish = (merged, .ok n)) (hnone : ∀ k ∈ e.containers, k.recommendations.get? finish = none) :
    ∀ k ∈ merged.containers, k.recommendations.get? finish = none := by
  obtain ⟨-, rfl⟩ := merge_ok h
  have hobjects : ∀ o ∈ e.objects, ∀ k ∈ o.containers, k.recommendations.get? finish = none := by
    intro o ho k hk
    exact hnone k (List.mem_flatMap.2 ⟨o, ho, hk⟩)
  intro k hk
  obtain ⟨o, ho, hk⟩ := List.mem_flatMap.1 hk
  exact ReportedObject.forall_writeAll (.receive { start, finish, metrics := none })
    (P := fun k => k.recommendations.get? finish = none) (fun _ => rfl) (fun _ _ h => h) s.objects hobjects o ho k hk

/-- An accepted result adds the recommendations at its end. -/
theorem Advised.accept {i : Ingestion} {c : Config} {windows : List (Instant × Instant)} {old new : Experiment}
    {s : Submission} {key : ResultKey} {profile : Profile} {handler : Handler} {counts : RecommendationCounts}
    (h : old.Advised (.builtin c) windows) (hi : i.handlers = .builtin c) (hold : old.Consistent c windows)
    (hnew : old.windows.get? key.finish = none) (hacc : i.Acceptance old s key profile handler new counts) :
    new.Advised (.builtin c) (windows ++ [(key.finish, key.start)]) := by
  have hrecords := hacc.records hi
  obtain ⟨-, merged, n, hmerge, rfl⟩ := hacc.builtin hi
  intro k' hk'
  obtain ⟨k₀, hk₀, hfollows⟩ := hrecords.objects.exists_of_mem hk'
  have hadvised : k₀.Advised (.builtin c) ((ResourceTuning.builtin c).terms old) windows :=
    hk₀.elim (h k₀) (·.advised)
  rw [hrecords.definition.terms]
  refine hadvised.accept hfollows (hold.unused hnew hk₀).1 ?_ ?_
  · intro w hw hfinish
    have hwindow := hold.mem_iff.1 (hfinish ▸ hw : (key.finish, w.2) ∈ windows)
    rw [hnew] at hwindow
    cases hwindow
  · obtain ⟨o', ho', hk'⟩ := List.mem_flatMap.1 hk'
    obtain ⟨o, ho, rfl⟩ := List.mem_map.1 ho'
    obtain ⟨k, hk, rfl⟩ := List.mem_map.1 hk'
    have hnone := get?_recommendations_merge hmerge (fun k hk => (hold.unused hnew (.inl hk)).2) k
      (List.mem_flatMap.2 ⟨o, ho, hk⟩)
    have hmerged : old.SameDefinition merged := by
      have := old.sameDefinition_merge s key.start key.finish
      rwa [hmerge] at this
    rw [← hmerged.terms]
    exact ResourceTuning.get?_advised hnone

end Experiment

/-! ## Runs -/

namespace Engine

open ResourceTuning (upTo)

theorem Recorded.run_advised {c : Config} {e : Engine} (h : Recorded c [] e)
    (hnone : ∀ name x, e.store.get? name = some x → x.Fresh) {requests : List Request}
    (hfresh : ∀ r ∈ requests, ∀ x ∈ r.experiments, x.Fresh) {name : String} {x : Experiment}
    (hx : (e.run requests).2.store.get? name = some x) :
    x.Advised (.builtin c) (windowsOf name (e.run requests).1) := by
  have hstart : ∀ {x : Experiment}, x.Fresh → x.Advised (.builtin c) [] := by
    intro x hx k hk
    exact (hx.containers k hk).advised
  refine h.run_experiments (R := fun windows x => x.Advised (.builtin c) windows) hstart ?_ ?_ hfresh name x hx
  · intro i windows old s key profile handler new counts hi hold hnew hadvised hacc
    exact hadvised.accept hi hold hnew hacc
  · intro name x hx
    exact hstart (hnone name x hx)

/-- **Recommendations are those of the moment.** Run an engine with the built-in handlers on any requests, and take a
container of an experiment. Its recommendations are at the ends of windows that were accepted. At the end of each such
window it has, for every term of the experiment, what is recommended from its intervals up to that end without those of
the windows that were accepted later, and nothing if there are none; where all later windows end later, these are
all its intervals up to that end. -/
theorem recommendations_of_arrival (c : Config) (profiles : ProfileStore) (requests : List Request)
    (hfresh : ∀ r ∈ requests, ∀ x ∈ r.experiments, x.Fresh) {name : String} {x : Experiment}
    (hx : ((ofConfig c profiles).run requests).2.store.get? name = some x) {k : Container} (hk : k ∈ x.containers) :
    (∀ finish made, k.recommendations.get? finish = some made → ∃ earlier start later,
      windowsOf name ((ofConfig c profiles).run requests).1 = earlier ++ (finish, start) :: later) ∧
    ∀ earlier finish start later,
      windowsOf name ((ofConfig c profiles).run requests).1 = earlier ++ (finish, start) :: later →
      (k.recommendations.get? finish).isSome = !(upTo finish (k.without later)).isEmpty ∧
      (∀ made, k.recommendations.get? finish = some made → ∀ term, made.get? term =
        (((ResourceTuning.builtin c).terms x).get? term).map
          ((ResourceTuning.builtin c).recommendTerm (upTo finish (k.without later)))) ∧
      ((∀ w ∈ later, finish.before w.1 = true) → upTo finish (k.without later) = upTo finish k) := by
  have hempty := recorded_ofConfig c profiles
  have hrun := (hempty.run hfresh).1
  have hadvised := hempty.run_advised (fun name x h => by cases h) hfresh hx k hk
  constructor
  · intro finish made hmade
    have hwindow := (hrun.consistent name x hx).recommended k hk finish (by rw [SortedMap.contains_eq, hmade]; rfl)
    obtain ⟨start, hstart⟩ := Option.isSome_iff_exists.1 hwindow
    have hmem := (hrun.consistent name x hx).mem_iff.2 hstart
    obtain ⟨earlier, later, hsplit⟩ := List.append_of_mem hmem
    exact ⟨earlier, start, later, hsplit⟩
  · intro earlier finish start later hsplit
    have hrecommended := hadvised earlier finish start later hsplit
    refine ⟨?_, ?_, Container.upTo_without⟩
    · rw [hrecommended, ResourceTuning.recommendContainer?]
      cases (upTo finish (k.without later)).isEmpty <;> rfl
    · intro made hmade
      exact ResourceTuning.get?_of_recommendContainer? (hrecommended.symm.trans hmade)

/-- 15 minutes after the end of the example's window. -/
def exampleLater : Instant := ⟨1642964143, 0, by decide⟩

/-- The example with two windows, the second one sent first. -/
def lateRequests : List Request :=
  checkoutRequests exampleFinish exampleLater ++ (checkoutRequests exampleStart exampleFinish).tail

theorem fresh_lateRequests : ∀ r ∈ lateRequests, ∀ x ∈ r.experiments, x.Fresh := by
  intro r hr
  rcases List.mem_append.1 hr with hr | hr
  · exact fresh_checkoutRequests _ _ r hr
  · exact fresh_checkoutRequests _ _ r (List.mem_of_mem_tail hr)

/-- What the first window sent has is made from its own interval. -/
theorem lateRequests_advice :
    (∀ r ∈ lateRequests, ∀ x ∈ r.experiments, x.Fresh) ∧
    ∃ x k made, ((ofConfig {} {}).run lateRequests).2.store.get? "checkout" = some x ∧ k ∈ x.containers ∧
      k.recommendations.get? exampleLater = some made ∧ ∀ term, made.get? term =
        (((ResourceTuning.builtin {}).terms x).get? term).map ((ResourceTuning.builtin {}).recommendTerm
          (upTo exampleLater (k.without [(exampleFinish, exampleStart)]))) := by
  have hfound : (((ofConfig {} {}).run lateRequests).2.store.get? "checkout").any (fun x =>
      x.containers.any fun k => k.recommendations.contains exampleLater) = true := by decide +kernel
  have hledger : windowsOf "checkout" ((ofConfig {} {}).run lateRequests).1 =
      [(exampleLater, exampleFinish), (exampleFinish, exampleStart)] := by decide +kernel
  obtain ⟨x, hx, hfound⟩ := (Option.any_eq_true _ _).1 hfound
  obtain ⟨k, hk, hfound⟩ := List.any_eq_true.1 hfound
  obtain ⟨made, hmade⟩ := Option.isSome_iff_exists.1 hfound
  have hadvice := (recommendations_of_arrival {} {} lateRequests fresh_lateRequests hx hk).2 [] exampleLater exampleFinish
    [(exampleFinish, exampleStart)] hledger
  exact ⟨fresh_lateRequests, x, k, made, hx, hk, hmade, hadvice.2.1 made hmade⟩

/-- With the second interval counted in, something else would be recommended at its end. -/
theorem lateRequests_outdated :
    (∀ r ∈ lateRequests, ∀ x ∈ r.experiments, x.Fresh) ∧
    ∃ x k made days, ((ofConfig {} {}).run lateRequests).2.store.get? "checkout" = some x ∧ k ∈ x.containers ∧
      k.recommendations.get? exampleLater = some made ∧
      ((ResourceTuning.builtin {}).terms x).get? "short_term" = some days ∧
      made.get? "short_term" ≠ some ((ResourceTuning.builtin {}).recommendTerm (upTo exampleLater k) days) := by
  have hfound : (((ofConfig {} {}).run lateRequests).2.store.get? "checkout").any (fun x =>
      x.containers.any fun k => (k.recommendations.get? exampleLater).any fun made =>
        (((ResourceTuning.builtin {}).terms x).get? "short_term").any fun days =>
          (made.get? "short_term").map (·.intervals) !=
            some ((ResourceTuning.builtin {}).recommendTerm (upTo exampleLater k) days).intervals) = true := by
    decide +kernel
  obtain ⟨x, hx, hfound⟩ := (Option.any_eq_true _ _).1 hfound
  obtain ⟨k, hk, hfound⟩ := List.any_eq_true.1 hfound
  obtain ⟨made, hmade, hfound⟩ := (Option.any_eq_true _ _).1 hfound
  obtain ⟨days, hdays, hfound⟩ := (Option.any_eq_true _ _).1 hfound
  refine ⟨fresh_lateRequests, x, k, made, days, hx, hk, hmade, hdays, ?_⟩
  intro hsame
  rw [hsame] at hfound
  simp at hfound

end Engine

end TuningAdvisor
