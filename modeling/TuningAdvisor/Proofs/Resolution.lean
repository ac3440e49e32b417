import Mathlib.Data.List.Induction
import TuningAdvisor.Proofs.Order
import TuningAdvisor.Proofs.SortedMap
import TuningAdvisor.Resolution.Report
/-!
# A report accounts for its request: `DependencyResolver::resolve`

A requested tunable leaves the resolution by one of three ways: it is not admitted, it waits for ever, or it
is placed and has an outcome. **What is counted on the last two ways together is one for an admitted tunable
and none for another**, so nothing is dropped and nothing is answered twice. The values grow by the numbers of
the settled tunables, and no value is ever replaced.
-/

namespace TuningAdvisor

/-! ## Who is admitted -/

namespace Intake

variable {c : Catalog} {requested : List TunableId} {n : Node}

theorem ofRequests_append_singleton (c : Catalog) (requested : List TunableId) (id : TunableId) :
    ofRequests c (requested ++ [id]) = (ofRequests c requested).add c id := by
  simp [ofRequests]

/-- The admitted requests are taken in. -/
theorem mem_nodes_iff : n ∈ (ofRequests c requested).nodes ↔ ∃ id ∈ requested, Node.admit? c id = .ok n := by
  induction requested using List.reverseRecOn generalizing n with
  | nil => simp [ofRequests]
  | append_singleton requested id ih =>
    have hsplit : (∃ i ∈ requested ++ [id], Node.admit? c i = .ok n) ↔
        n ∈ (ofRequests c requested).nodes ∨ Node.admit? c id = .ok n := by
      rw [ih]
      simp [or_and_right, exists_or]
    rw [ofRequests_append_singleton, hsplit]
    unfold add
    split
    · rename_i hknown
      refine ⟨.inl, fun h => h.elim (fun h => h) fun hn => ?_⟩
      obtain ⟨m, hm, hid⟩ := List.any_eq_true.1 hknown
      -- a node of this name is there already, and it is the same one
      obtain ⟨i, -, hi⟩ := ih.1 hm
      have hmi := (Node.admitted_of_admit? hi).1
      rw [← hmi, beq_iff_eq.1 hid, hn] at hi
      exact Except.ok.inj hi ▸ hm
    · split
      · rename_i m hm
        simp [hm, eq_comm]
      · rename_i cause hcause
        simp [hcause]

theorem admit?_of_mem_nodes (hn : n ∈ (ofRequests c requested).nodes) : Node.admit? c n.id = .ok n := by
  obtain ⟨id, -, hid⟩ := mem_nodes_iff.1 hn
  rw [(Node.admitted_of_admit? hid).1]
  exact hid

/-- The other requests are told why they are not. -/
theorem mem_notifications_iff {m : Notification} :
    m ∈ (ofRequests c requested).notifications ↔
      ∃ id ∈ requested, ∃ cause, Node.admit? c id = .error cause ∧ cause.notification id = m := by
  induction requested using List.reverseRecOn with
  | nil => simp [ofRequests]
  | append_singleton requested id ih =>
    have hsplit : (∃ i ∈ requested ++ [id], ∃ cause, Node.admit? c i = .error cause ∧ cause.notification i = m) ↔
        m ∈ (ofRequests c requested).notifications ∨
          ∃ cause, Node.admit? c id = .error cause ∧ cause.notification id = m := by
      rw [ih]
      simp [or_and_right, exists_or]
    rw [ofRequests_append_singleton, hsplit]
    unfold add
    split
    · rename_i hknown
      obtain ⟨n, hn, hid⟩ := List.any_eq_true.1 hknown
      have hadmitted := admit?_of_mem_nodes hn
      rw [beq_iff_eq.1 hid] at hadmitted
      simp [hadmitted]
    · split
      · rename_i n hn
        simp [hn]
      · rename_i cause hcause
        simp [hcause, eq_comm]

end Intake

/-! ## Placed, or waiting for ever -/

namespace Pending

/-- Placing divides what waits into what is placed and what waits for ever. -/
theorem perm_place (waiting : List Pending) (hdistinct : (waiting.map (·.node.id)).Nodup) :
    ((place waiting).1 ++ (place waiting).2).Perm (waiting.map (·.node)) := by
  induction waiting using place.induct with
  | case1 waiting hnone => simp [place_of_none hnone]
  | case2 waiting p hsome _ ih =>
    have hperm := perm_cons_filter_ne hdistinct (mem_of_next? hsome)
    have hothers : (p.others waiting).map (·.node) = (waiting.filter (·.node.id != p.node.id)).map (·.node) := by
      simp [others, Function.comp_def, release]
    have hrest : ((p.others waiting).map (·.node.id)).Nodup := by
      have hids : (p.others waiting).map (·.node.id) = ((p.others waiting).map (·.node)).map (·.id) := by simp
      rw [hids, hothers, List.map_map]
      exact hdistinct.sublist (List.filter_sublist.map _)
    rw [place_of_some hsome]
    refine ((ih hrest).cons p.node).trans ?_
    rw [hothers]
    exact (hperm.map (·.node)).symm

end Pending

namespace Catalog

variable {c : Catalog} {requested : List TunableId}

/-- The admitted tunables that wait for ever. -/
def stuck (c : Catalog) (requested : List TunableId) : List Node :=
  (Pending.place (Pending.ofNodes (Intake.ofRequests c requested).nodes)).2

/-- The order and what waits for ever are the admitted tunables. -/
theorem perm_order (c : Catalog) (requested : List TunableId) :
    ((c.order requested).nodes ++ c.stuck requested).Perm (Intake.ofRequests c requested).nodes := by
  have hdistinct := (Intake.sound_ofRequests c requested).distinct
  have hnodes : (Pending.ofNodes (Intake.ofRequests c requested).nodes).map (·.node) =
      (Intake.ofRequests c requested).nodes := by
    simp [Pending.ofNodes, Function.comp_def]
  have hperm := Pending.perm_place (Pending.ofNodes (Intake.ofRequests c requested).nodes) (by
    simpa [Pending.ofNodes, Function.comp_def] using hdistinct)
  rw [hnodes] at hperm
  exact hperm

theorem mem_order_or_stuck {n : Node} :
    n ∈ (c.order requested).nodes ∨ n ∈ c.stuck requested ↔ n ∈ (Intake.ofRequests c requested).nodes := by
  rw [← List.mem_append]
  exact (perm_order c requested).mem_iff

/-- An admitted tunable is placed once or waits once. -/
theorem count_of_admitted {id : TunableId} {n : Node} (hid : id ∈ requested) (hn : Node.admit? c id = .ok n) :
    ((c.order requested).nodes.map (·.id)).count id + ((c.stuck requested).map (·.id)).count id = 1 := by
  have hmem : n ∈ (Intake.ofRequests c requested).nodes := Intake.mem_nodes_iff.2 ⟨id, hid, hn⟩
  rw [← List.count_append, ← List.map_append, ((perm_order c requested).map (·.id)).count_eq]
  refine (Intake.sound_ofRequests c requested).distinct.count.trans (if_pos ?_)
  exact List.mem_map.2 ⟨n, hmem, (Node.admitted_of_admit? hn).1⟩

/-- Another one is neither placed nor left waiting. -/
theorem count_of_refused (requested : List TunableId) {id : TunableId} {cause : SkipCause} (hcause : Node.admit? c id = .error cause) :
    ((c.order requested).nodes.map (·.id)).count id + ((c.stuck requested).map (·.id)).count id = 0 := by
  rw [← List.count_append, ← List.map_append, ((perm_order c requested).map (·.id)).count_eq]
  refine List.count_eq_zero.2 fun hmem => ?_
  obtain ⟨n, hn, rfl⟩ := List.mem_map.1 hmem
  rw [Intake.admit?_of_mem_nodes hn] at hcause
  cases hcause

end Catalog

/-! ## Outcomes -/

namespace Outcome

/-- The tunable that an outcome is about. -/
def id : Outcome → TunableId
  | .settled r => r.id
  | .skipped n => n.tunable

/-- An outcome is a recommendation or a notification, and not both. -/
theorem count_id (id : TunableId) (outcomes : List Outcome) :
    ((outcomes.filterMap resolved?).map (·.id)).count id +
      ((outcomes.filterMap notification?).map (·.tunable)).count id = (outcomes.map Outcome.id).count id := by
  induction outcomes with
  | nil => rfl
  | cons o outcomes ih =>
    cases o with
    | settled r => simp only [resolved?, notification?, Outcome.id, List.filterMap_cons, List.map_cons, List.count_cons]; omega
    | skipped n => simp only [resolved?, notification?, Outcome.id, List.filterMap_cons, List.map_cons, List.count_cons]; omega

end Outcome

namespace Run

variable {generators : GeneratorRegistry} {h : History} {run : Run} {node : Node} {nodes : List Node}

/-- What settling a tunable comes to: an outcome about it, and no other value than its own. -/
structure Settles (run : Run) (node : Node) (o : Outcome) (run' : Run) : Prop where
  id : o.id = node.id
  others : ∀ id, id ≠ node.id → run'.values.get? id = run.values.get? id
  values : ∀ id x, run'.values.get? id = some x ↔ run.values.get? id = some x ∨
    ∃ r, o = .settled r ∧ r.id = id ∧ r.seeded = false ∧ r.value = some x
  seeded : ∀ r, o = .settled r → r.seeded = run.values.contains node.id

namespace Settles

/-- The value is there. -/
theorem of_seed {x : Float} {entry : EnvEntry} (hx : run.values.get? node.id = some x) :
    Settles run node (.settled { id := node.id, entry, value := some x, seeded := true }) run where
  id := rfl
  others _ _ := rfl
  values id y := by simp
  seeded r hr := by cases hr; simp [SortedMap.contains_eq, hx]

/-- An entry is made. -/
theorem of_entry {entry : EnvEntry} {value : Option Float} {state : RunState} (hnone : run.values.get? node.id = none) :
    Settles run node (.settled { id := node.id, entry, value, seeded := false })
      (({ run with state } : Run).record node.id value) where
  id := rfl
  others id hid := by
    cases value with
    | none => rfl
    | some x => exact SortedMap.get?_insert_of_ne _ _ hid
  values id y := by
    cases value with
    | none => simp [record]
    | some x =>
      by_cases hid : id = node.id
      · subst hid
        simp [record, hnone]
      · simp [record, SortedMap.get?_insert_of_ne _ _ hid, Ne.symm hid]
  seeded r hr := by cases hr; simp [SortedMap.contains_eq, hnone]

/-- There is nothing to recommend. -/
theorem of_skip {n : Notification} {state : RunState} (hn : n.tunable = node.id) :
    Settles run node (.skipped n) { run with state } where
  id := hn
  others _ _ := rfl
  values id y := by simp
  seeded r hr := by cases hr

end Settles

/-- A given value is surfaced as it is. -/
theorem settle_of_given {x : Float} (hx : run.values.get? node.id = some x) :
    run.settle generators h node =
      (.settled { id := node.id, entry := { name := node.id.name, value := plain x }, value := some x, seeded := true },
        run) := by
  unfold settle
  rw [hx]

/-- An entry is made for a tunable that misses nothing. -/
theorem settle_of_made (hnone : run.values.get? node.id = none) (hmissing : run.missing node = []) {entry : EnvEntry}
    {state : RunState} (hmade : run.generate generators h node = (.ok entry, state)) :
    run.settle generators h node =
      (.settled { id := node.id, entry, value := value? node entry, seeded := false },
        ({ run with state } : Run).record node.id (value? node entry)) := by
  unfold settle
  rw [hnone, hmissing]
  simp only [hmade]

/-- Where an entry was made, nothing was missing. -/
theorem made_of_settled {r : Resolved} (hr : (run.settle generators h node).1 = .settled r) (hmade : r.seeded = false) :
    run.missing node = [] ∧ (run.generate generators h node).1 = .ok r.entry ∧ r.value = value? node r.entry := by
  unfold settle at hr
  split at hr
  · cases hr
    cases hmade
  · split at hr
    · rename_i hmissing
      dsimp only at hr
      split at hr
      · rename_i hentry
        cases hr
        exact ⟨hmissing, hentry, rfl⟩
      · cases hr
    · cases hr

theorem settles_settle (generators : GeneratorRegistry) (h : History) (run : Run) (node : Node) :
    Settles run node (run.settle generators h node).1 (run.settle generators h node).2 := by
  unfold settle
  split
  · rename_i x hx
    exact .of_seed hx
  · rename_i hnone
    split
    · dsimp only
      split
      · exact .of_entry hnone
      · exact .of_skip rfl
    · exact .of_skip rfl

/-- Every ordered tunable has one outcome. -/
theorem ids_settleAll (generators : GeneratorRegistry) (h : History) :
    ∀ (nodes : List Node) (run : Run),
      (settleAll generators h nodes run).1.map Outcome.id = nodes.map (·.id)
  | [], _ => rfl
  | node :: rest, run => by
    simp only [settleAll, List.map_cons, ids_settleAll generators h rest]
    rw [(settles_settle generators h run node).id]

/-- The values behind a list of outcomes: those from before it stay, and each entry that is made may add
one. A recommendation is given exactly where there was a value before. -/
structure Yields (run : Run) (outcomes : List Outcome) (run' : Run) : Prop where
  values : ∀ id x, run'.values.get? id = some x ↔ run.values.get? id = some x ∨
    ∃ r, .settled r ∈ outcomes ∧ r.id = id ∧ r.seeded = false ∧ r.value = some x
  seeded : ∀ r, .settled r ∈ outcomes → r.seeded = run.values.contains r.id

theorem Yields.cons {run₁ run₂ : Run} {o : Outcome} {outcomes : List Outcome} (hstep : Settles run node o run₁)
    (hrest : Yields run₁ outcomes run₂) (hlater : ∀ r, .settled r ∈ outcomes → r.id ≠ node.id) :
    Yields run (o :: outcomes) run₂ where
  values id x := by
    rw [hrest.values id x, hstep.values id x]
    simp only [List.mem_cons, or_and_right, exists_or, or_assoc, eq_comm]
  seeded r hr := by
    rcases List.mem_cons.1 hr with hr | hr
    · subst hr
      rw [hstep.seeded r rfl]
      exact congrArg _ hstep.id.symm
    · rw [hrest.seeded r hr, SortedMap.contains_eq, SortedMap.contains_eq, hstep.others _ (hlater r hr)]

theorem yields_settleAll (generators : GeneratorRegistry) (h : History) :
    ∀ (nodes : List Node) (run : Run), (nodes.map (·.id)).Nodup →
      Yields run (settleAll generators h nodes run).1 (settleAll generators h nodes run).2
  | [], run, _ => ⟨by simp [settleAll], by simp [settleAll]⟩
  | node :: rest, run, hdistinct => by
    obtain ⟨hnew, hdistinct⟩ := List.nodup_cons.1 hdistinct
    refine .cons (settles_settle generators h run node)
      (yields_settleAll generators h rest (run.settle generators h node).2 hdistinct) fun r hr hid => hnew ?_
    rw [← ids_settleAll generators h rest (run.settle generators h node).2]
    exact List.mem_map.2 ⟨_, hr, hid⟩

end Run

/-! ## Reports -/

namespace Report

/-- How many recommendations there are for a tunable. -/
def answers (r : Report) (id : TunableId) : Nat := (r.recommendations.map (·.id)).count id

/-- How many notifications there are about a tunable. -/
def reasons (r : Report) (id : TunableId) : Nat := (r.notifications.map (·.tunable)).count id

/-- A report accounts for the request and for the values that were given. -/
structure Accounts (requested : List TunableId) (seed : Values) (r : Report) : Prop where
  /-- A requested tunable has one recommendation, or it is said why there is none. -/
  answered : ∀ id ∈ requested,
    (r.answers id = 1 ∧ r.reasons id = 0) ∨ (r.answers id = 0 ∧ 0 < r.reasons id)
  recommended : ∀ x ∈ r.recommendations, x.id ∈ requested
  notified : ∀ n ∈ r.notifications, n.tunable ∈ requested
  /-- The given values are kept, and the numbers of the recommendations that were made are added. -/
  values : ∀ id x, r.values.get? id = some x ↔ seed.get? id = some x ∨
    ∃ y ∈ r.recommendations, y.id = id ∧ y.seeded = false ∧ y.value = some x
  /-- A recommendation is given exactly where the value was. -/
  seeded : ∀ x ∈ r.recommendations, x.seeded = seed.contains x.id

end Report

namespace Catalog

theorem nodup_order (c : Catalog) (requested : List TunableId) : ((c.order requested).nodes.map (·.id)).Nodup :=
  Pending.nodup_placed

theorem sound_pending (c : Catalog) (requested : List TunableId) :
    Pending.Sound (Pending.ofNodes (Intake.ofRequests c requested).nodes) := by
  obtain ⟨hdistinct, hadmitted⟩ := Intake.sound_ofRequests c requested
  exact Pending.sound_ofNodes hdistinct fun n hn => (hadmitted n hn).2

/-- No dependency is placed later. -/
theorem topological_order (c : Catalog) (requested : List TunableId) :
    (c.order requested).nodes.Pairwise fun m n => n.id ∉ m.tunable.dependsOn :=
  (sound_pending c requested).topological

theorem admitted_of_mem_order {c : Catalog} {requested : List TunableId} {n : Node}
    (hn : n ∈ (c.order requested).nodes) : n.id ∈ requested ∧ n.Admitted c :=
  (Intake.sound_ofRequests c requested).admitted n (mem_order_or_stuck.1 (.inl hn))

theorem admitted_of_mem_stuck {c : Catalog} {requested : List TunableId} {n : Node} (hn : n ∈ c.stuck requested) :
    n.id ∈ requested ∧ n.Admitted c :=
  (Intake.sound_ofRequests c requested).admitted n (mem_order_or_stuck.1 (.inr hn))

section
variable (c : Catalog) (generators : GeneratorRegistry) (requested : List TunableId) (seed : Values) (h : History)

/-- What became of the tunables of the order. -/
def outcomes : List Outcome := (Run.settleAll generators h (c.order requested).nodes { values := seed }).1

theorem recommendations_resolve : (c.resolve generators requested seed h).recommendations =
    (c.outcomes generators requested seed h).filterMap Outcome.resolved? := rfl

theorem notifications_resolve : (c.resolve generators requested seed h).notifications =
    (Intake.ofRequests c requested).notifications ++
      ((c.stuck requested).map fun n => SkipCause.cycle.notification n.id) ++
      (c.outcomes generators requested seed h).filterMap Outcome.notification? := rfl

theorem ids_outcomes :
    (c.outcomes generators requested seed h).map Outcome.id = (c.order requested).nodes.map (·.id) :=
  Run.ids_settleAll generators h _ _

theorem yields_outcomes : Run.Yields { values := seed } (c.outcomes generators requested seed h)
    (Run.settleAll generators h (c.order requested).nodes { values := seed }).2 :=
  Run.yields_settleAll generators h _ _ (c.nodup_order requested)

/-- The recommendations for a tunable and the notifications about it are its refusals, its places in the
order, and what waits of it. -/
theorem answers_add_reasons (id : TunableId) :
    (c.resolve generators requested seed h).answers id + (c.resolve generators requested seed h).reasons id =
      ((Intake.ofRequests c requested).notifications.map (·.tunable)).count id +
        (((c.order requested).nodes.map (·.id)).count id + ((c.stuck requested).map (·.id)).count id) := by
  have hstuck : ((c.stuck requested).map fun n => SkipCause.cycle.notification n.id).map (·.tunable) =
      (c.stuck requested).map (·.id) := by
    rw [List.map_map]
    rfl
  have houtcomes := Outcome.count_id id (c.outcomes generators requested seed h)
  rw [ids_outcomes] at houtcomes
  simp only [Report.answers, Report.reasons, recommendations_resolve, notifications_resolve, List.map_append,
    List.count_append, hstuck]
  omega

/-- A tunable that is not placed has no recommendation. -/
theorem answers_le (id : TunableId) :
    (c.resolve generators requested seed h).answers id ≤ ((c.order requested).nodes.map (·.id)).count id := by
  have houtcomes := Outcome.count_id id (c.outcomes generators requested seed h)
  rw [ids_outcomes] at houtcomes
  rw [Report.answers, recommendations_resolve]
  omega

end

variable {c : Catalog} {generators : GeneratorRegistry} {requested : List TunableId} {seed : Values} {h : History}

theorem mem_recommendations {x : Resolved} : x ∈ (c.resolve generators requested seed h).recommendations ↔
    .settled x ∈ c.outcomes generators requested seed h := by
  rw [recommendations_resolve, List.mem_filterMap]
  constructor
  · rintro ⟨o, ho, hx⟩
    cases o with
    | settled r => cases hx; exact ho
    | skipped n => cases hx
  · exact fun hx => ⟨_, hx, rfl⟩

theorem refusals_of_admitted (requested : List TunableId) {id : TunableId} {n : Node} (hn : Node.admit? c id = .ok n) :
    ((Intake.ofRequests c requested).notifications.map (·.tunable)).count id = 0 := by
  refine List.count_eq_zero.2 fun hmem => ?_
  obtain ⟨m, hm, rfl⟩ := List.mem_map.1 hmem
  obtain ⟨id, -, cause, hcause, rfl⟩ := Intake.mem_notifications_iff.1 hm
  cases hn.symm.trans hcause

theorem refusals_pos {id : TunableId} {cause : SkipCause} (hid : id ∈ requested)
    (hcause : Node.admit? c id = .error cause) :
    0 < ((Intake.ofRequests c requested).notifications.map (·.tunable)).count id := by
  refine List.count_pos_iff.2 (List.mem_map.2 ⟨cause.notification id, ?_, rfl⟩)
  exact Intake.mem_notifications_iff.2 ⟨id, hid, cause, hcause, rfl⟩

/-- A requested tunable has one recommendation, or it is said why there is none. -/
theorem answered {id : TunableId} (hid : id ∈ requested) :
    ((c.resolve generators requested seed h).answers id = 1 ∧ (c.resolve generators requested seed h).reasons id = 0) ∨
    ((c.resolve generators requested seed h).answers id = 0 ∧
      0 < (c.resolve generators requested seed h).reasons id) := by
  have hsum := answers_add_reasons c generators requested seed h id
  have hle := answers_le c generators requested seed h id
  cases hadmit : Node.admit? c id with
  | ok n =>
    have hone := count_of_admitted hid hadmit
    have hnone := refusals_of_admitted requested hadmit
    omega
  | error cause =>
    have hnone := count_of_refused requested hadmit
    have hpos := refusals_pos hid hadmit
    omega

theorem id_mem_of_mem_outcomes {o : Outcome} (ho : o ∈ c.outcomes generators requested seed h) : o.id ∈ requested := by
  have hid : o.id ∈ (c.outcomes generators requested seed h).map Outcome.id := List.mem_map.2 ⟨o, ho, rfl⟩
  rw [ids_outcomes] at hid
  obtain ⟨n, hn, hid⟩ := List.mem_map.1 hid
  exact hid ▸ (admitted_of_mem_order hn).1

/-- Where a notification comes from. -/
theorem mem_notifications {m : Notification} : m ∈ (c.resolve generators requested seed h).notifications ↔
    (∃ id ∈ requested, ∃ cause, Node.admit? c id = .error cause ∧ cause.notification id = m) ∨
      (∃ n ∈ c.stuck requested, SkipCause.cycle.notification n.id = m) ∨
      .skipped m ∈ c.outcomes generators requested seed h := by
  have houtcomes : m ∈ (c.outcomes generators requested seed h).filterMap Outcome.notification? ↔
      .skipped m ∈ c.outcomes generators requested seed h := by
    rw [List.mem_filterMap]
    constructor
    · rintro ⟨o, ho, hm⟩
      cases o with
      | settled r => cases hm
      | skipped m' => cases hm; exact ho
    · exact fun hm => ⟨_, hm, rfl⟩
  rw [notifications_resolve, List.mem_append, List.mem_append, Intake.mem_notifications_iff, List.mem_map, houtcomes,
    or_assoc]

theorem tunable_mem_of_mem_notifications {n : Notification}
    (hn : n ∈ (c.resolve generators requested seed h).notifications) : n.tunable ∈ requested := by
  rcases mem_notifications.1 hn with ⟨id, hid, cause, -, rfl⟩ | ⟨m, hm, rfl⟩ | ho
  · exact hid
  · exact (admitted_of_mem_stuck hm).1
  · exact id_mem_of_mem_outcomes ho

/-- **A report accounts for its request.** Each requested tunable has exactly one recommendation and no
notification, or no recommendation and a notification; none of them is about another tunable; and the values are
the given ones with the numbers of the other recommendations. Every tunable of the order is defined, so that
none is passed over without an outcome. -/
theorem resolve_accounts (c : Catalog) (generators : GeneratorRegistry) (requested : List TunableId) (seed : Values)
    (h : History) :
    (c.resolve generators requested seed h).Accounts requested seed ∧
      ∀ n ∈ (c.order requested).nodes, c.tunable? n.id = some n.tunable := by
  have hyields := c.yields_outcomes generators requested seed h
  refine ⟨⟨fun id hid => answered hid, fun x hx => ?_, fun n hn => tunable_mem_of_mem_notifications hn,
    fun id x => ?_, fun x hx => ?_⟩, fun n hn => (admitted_of_mem_order hn).2.defined⟩
  · exact id_mem_of_mem_outcomes (mem_recommendations.1 hx)
  · simp only [mem_recommendations]
    exact hyields.values id x
  · exact hyields.seeded x (mem_recommendations.1 hx)

end Catalog

end TuningAdvisor
