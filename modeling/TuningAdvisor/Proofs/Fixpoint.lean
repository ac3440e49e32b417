import TuningAdvisor.Proofs.RequestOrder
/-!
# A report is a fixed point of its resolution: `resolve` with its own values as seed

The values of a report may be given to the same request again. A number that was recommended is then surfaced as it was
read back from its entry; a choice has no number, so it is made again, from dependencies that have the values that they
had. **The second report has the values of the first one** (`Catalog.resolve_fixpoint`): no outcome went by a
value that was replaced later, nor by a number that its own entry does not carry.
-/

namespace TuningAdvisor

/-- A recommendation, and what is recommended when the values of its report are given to the same request. -/
structure Resolved.Again (c : Catalog) (x y : Resolved) : Prop where
  id : y.id = x.id
  value : y.value = x.value
  /-- It is given if there was a number to give. -/
  seeded : y.seeded = x.value.isSome
  /-- The entry of a given number is the number. -/
  number : ∀ v, x.value = some v → y.entry = { name := x.id.name, value := plain v }
  /-- The entry of a choice is what it was, but for a server flag. -/
  choice : ∀ t, c.tunable? x.id = some t → t.valueType.isNumeric = false → x.entry.Alike y.entry

/-- An outcome, and what it is the second time. -/
inductive Outcome.Again (c : Catalog) : Outcome → Outcome → Prop where
  | settled {x y : Resolved} : x.Again c y → Again c (.settled x) (.settled y)
  | skipped (n : Notification) : Again c (.skipped n) (.skipped n)

theorem Outcome.Again.notification? {c : Catalog} {o o' : Outcome} (h : o.Again c o') :
    o'.notification? = o.notification? := by
  cases h <;> rfl

theorem Outcome.again_recommendations {c : Catalog} {outcomes outcomes' : List Outcome}
    (h : List.Forall₂ (Outcome.Again c) outcomes outcomes') :
    List.Forall₂ (Resolved.Again c) (outcomes.filterMap Outcome.resolved?) (outcomes'.filterMap Outcome.resolved?) := by
  induction h with
  | nil => exact .nil
  | cons ho _ ih =>
    cases ho with
    | settled hxy => exact .cons hxy ih
    | skipped n => exact ih

/-- A report, and that of the same request with its values given: the same values, the same notifications and,
recommendation by recommendation, the same numbers and choices. -/
structure Report.Again (c : Catalog) (r r' : Report) : Prop where
  values : r'.values = r.values
  notifications : r'.notifications = r.notifications
  recommendations : List.Forall₂ (Resolved.Again c) r.recommendations r'.recommendations

namespace Run

variable {generators : GeneratorRegistry} {h : History} {run : Run} {n : Node}

/-- The entry of a choice that is made has no number. -/
theorem value_of_choice {r : Resolved} (hr : (run.settle generators h n).1 = .settled r) (hmade : r.seeded = false)
    (hchoice : n.tunable.valueType.isNumeric = false) : r.value = none := by
  obtain ⟨-, -, hvalue⟩ := made_of_settled hr hmade
  rw [hvalue, value?, hchoice]
  rfl

/-- A recommendation has the value that there is behind it. -/
theorem value_of_settled {r : Resolved} (hr : (run.settle generators h n).1 = .settled r) :
    r.value = (run.settle generators h n).2.values.get? n.id := by
  unfold settle at hr ⊢
  split
  · rename_i x hx
    rw [hx] at hr
    cases hr
    exact hx.symm
  · rename_i hnone
    rw [hnone] at hr
    dsimp only at hr
    split
    · rename_i hmissing
      rw [hmissing] at hr
      dsimp only at hr ⊢
      split <;> rename_i hmade <;> rw [hmade] at hr <;> cases hr
      simp [get?_record, hnone]
    · rename_i hmissing
      split at hr
      · rename_i hnil
        exact absurd hnil hmissing
      · cases hr

variable {c : Catalog} {seed final final' : Values} {o o' : Outcome}

/-- A tunable with a value in the end has it from the start the second time. -/
theorem SettledBy.again_of_value (hn : n.Admitted c) (ho : SettledBy generators h seed final n o)
    (ho' : SettledBy generators h final final' n o') {x : Float} (hx : final.get? n.id = some x) :
    o.Again c o' ∧ final'.get? n.id = final.get? n.id := by
  obtain ⟨rfl, hkept⟩ := ho'.of_given hx
  refine ⟨?_, hkept.trans hx.symm⟩
  obtain ⟨run, -, -, rfl, hfinal⟩ := ho
  have hsettles := settles_settle generators h run n
  rcases (hsettles.values n.id x).1 (hfinal.trans hx) with hbefore | ⟨r, hr, hid, hmade, hvalue⟩
  · rw [settle_of_given hbefore]
    exact .settled ⟨rfl, rfl, rfl, fun v hv => by cases hv; rfl, fun t _ _ => .inl rfl⟩
  · rw [hr]
    refine .settled ⟨hid.symm, hvalue.symm, by rw [hvalue]; rfl, fun v hv => ?_, fun t ht hchoice => ?_⟩
    · rw [hvalue] at hv
      cases hv
      rw [hid]
    · -- a choice is not made with a number
      rw [hid, hn.defined] at ht
      cases ht
      cases hvalue.symm.trans (value_of_choice hr hmade hchoice)

/-- A tunable without a value in the end never had one, and finds the same values of its dependencies again. -/
theorem SettledBy.again_of_none (hreads : n.ReadsDeclared generators h) (ho : SettledBy generators h seed final n o)
    (ho' : SettledBy generators h final final' n o')
    (hdeps : ∀ d ∈ n.tunable.dependsOn, d ≠ n.id → final'.get? d = final.get? d) (hnone : final.get? n.id = none) :
    o.Again c o' ∧ final'.get? n.id = final.get? n.id := by
  obtain ⟨run, hself, hrun, rfl, hfinal⟩ := ho
  have hbefore : run.values.get? n.id = none := by
    refine Option.eq_none_iff_forall_ne_some.2 fun x hx => ?_
    have hkept := ((settles_settle generators h run n).values n.id x).2 (.inl hx)
    cases hkept.symm.trans (hfinal.trans hnone)
  -- the first time it was not given either
  have hagain : SettledBy generators h final final n (run.settle generators h n).1 :=
    ⟨run, hbefore.trans hnone.symm, hrun, rfl, hfinal⟩
  obtain ⟨halike, hvalue⟩ := hagain.alike hreads ho' hdeps
  refine ⟨?_, hvalue⟩
  generalize hfirst : (run.settle generators h n).1 = first at halike
  cases halike with
  | skipped m => exact .skipped m
  | @settled x y hxy =>
    have hx : x.value = none := (value_of_settled hfirst).trans (hfinal.trans hnone)
    have hmade := (settles_settle generators h run n).seeded x hfirst
    rw [SortedMap.contains_eq, hbefore] at hmade
    refine .settled ⟨hxy.id, hxy.value, by rw [hxy.seeded, hmade, hx], fun v hv => ?_,
      fun _ _ _ => hxy.entry⟩
    cases hx.symm.trans hv

theorem SettledBy.again (hn : n.Admitted c) (hreads : n.ReadsDeclared generators h)
    (ho : SettledBy generators h seed final n o) (ho' : SettledBy generators h final final' n o')
    (hdeps : ∀ d ∈ n.tunable.dependsOn, d ≠ n.id → final'.get? d = final.get? d) :
    o.Again c o' ∧ final'.get? n.id = final.get? n.id := by
  cases hvalue : final.get? n.id with
  | some x => exact hvalue ▸ ho.again_of_value hn ho' hvalue
  | none => exact hvalue ▸ ho.again_of_none hreads ho' hdeps hvalue

end Run

namespace Catalog

/-- The values of a report, given to the same request, lead to the same report, as long as the generators read only
what a tunable declares. -/
theorem resolve_again {c : Catalog} {generators : GeneratorRegistry} {h : History}
    (hreads : ∀ n : Node, n.Admitted c → n.ReadsDeclared generators h) (requested : List TunableId) (seed : Values) :
    (c.resolve generators requested seed h).Again c
      (c.resolve generators requested (c.resolve generators requested seed h).values h) := by
  have hfirst := settledBy_outcomes c generators requested seed h
  have hsecond := settledBy_outcomes c generators requested (c.resolve generators requested seed h).values h
  obtain ⟨hvalues, houtcomes⟩ := Run.settledBy_related (R := Outcome.Again c)
    (fun n hn o o' ho ho' hdeps =>
      ho.again (admitted_of_mem_order hn).2 (hreads n (admitted_of_mem_order hn).2) ho' hdeps)
    (topological_order c requested) hfirst hsecond fun _ hid => Run.get?_settleAll_of_notMem hid
  refine ⟨SortedMap.ext_get? hvalues, ?_, Outcome.again_recommendations houtcomes⟩
  rw [notifications_resolve, notifications_resolve,
    Outcome.notifications_of_forall₂ (fun _ _ ho => ho.notification?) houtcomes]

/-- **A report is a fixed point of its resolution.** Take the built-in layers and generators, whatever the configuration,
the request, the given values and the history are. The same request with the values of its report given has the same
values, the same notifications and the same recommendations in the same order, with the same numbers; every choice has
the same entry but for a server flag in front of one of the two. -/
theorem resolve_fixpoint (c : Config) (requested : List TunableId) (seed : Values) (h : History) :
    (Catalog.builtin.resolve (.builtin c) requested seed h).Again .builtin
      (Catalog.builtin.resolve (.builtin c) requested
        (Catalog.builtin.resolve (.builtin c) requested seed h).values h) :=
  resolve_again (fun _ hn => Node.readsDeclared_builtin hn c h) requested seed

end Catalog

end TuningAdvisor
