import TuningAdvisor.Proofs.Resolution
/-!
# No tunable is skipped too early: the dependencies of `DependencyResolver::resolve`

Whether the prerequisites of a tunable have values is asked in the middle of a resolution, when later tunables are
still to come. **The answer is final**: what comes later in the order is no prerequisite of the tunable
(`Pending.Sound.topological`), a value that is there is never taken away, and a tunable that depends on itself is
skipped and so never gets a value. What was missing in the middle is then what is missing at the end.
-/

namespace TuningAdvisor

/-- An outcome goes by the prerequisites that a tunable misses: it names them, if there are any. -/
structure Outcome.GoesBy (id : TunableId) (missing : List TunableId) (o : Outcome) : Prop where
  skipped : missing ≠ [] → o = .skipped ((SkipCause.missing missing).notification id)
  complete : missing = [] → ∀ m, o = .skipped m → m.kind ≠ .missingDependency

namespace Run

variable {generators : GeneratorRegistry} {h : History} {run : Run} {node : Node} {nodes : List Node}

/-- Tunables that do not come any more keep what they have. -/
theorem get?_settleAll_of_notMem {id : TunableId} (hid : id ∉ nodes.map (·.id)) :
    (settleAll generators h nodes run).2.values.get? id = run.values.get? id := by
  induction nodes generalizing run with
  | nil => rfl
  | cons node rest ih =>
    simp only [List.map_cons, List.mem_cons, not_or] at hid
    simp only [settleAll]
    rw [ih hid.2, (settles_settle generators h run node).others id hid.1]

/-- A tunable with a missing prerequisite is skipped for all that it misses, and nothing else happens. -/
theorem settle_of_missing (hnone : run.values.get? node.id = none) (hmissing : run.missing node ≠ []) :
    run.settle generators h node =
      (.skipped ((SkipCause.missing (run.missing node)).notification node.id), run) := by
  unfold settle
  rw [hnone]
  dsimp only
  split
  · rename_i hnil
    exact absurd hnil hmissing
  · rfl

/-- A tunable with all its prerequisites is not skipped for one of them. -/
theorem kind_ne_of_missing_eq_nil (hnone : run.values.get? node.id = none) (hmissing : run.missing node = [])
    {m : Notification} (hm : (run.settle generators h node).1 = .skipped m) : m.kind ≠ .missingDependency := by
  -- the causes that are left are those of the generators
  have hcause : ∀ cause state, run.generate generators h node = (.error cause, state) →
      cause.kind ≠ .missingDependency := by
    intro cause state hgenerate
    unfold generate at hgenerate
    split at hgenerate
    · cases hgenerate; simp [SkipCause.kind]
    · split at hgenerate
      · dsimp only at hgenerate
        split at hgenerate <;> cases hgenerate
        simp [SkipCause.kind]
      · cases hgenerate; simp [SkipCause.kind]
  unfold settle at hm
  rw [hnone, hmissing] at hm
  dsimp only at hm
  rcases hgenerate : run.generate generators h node with ⟨cause | entry, state⟩
  · rw [hgenerate] at hm
    cases hm
    exact hcause cause state hgenerate
  · rw [hgenerate] at hm
    cases hm

/-- What the first tunable misses is what it misses in the end. -/
theorem missing_settleAll (hnone : run.values.get? node.id = none)
    (hlater : ∀ n ∈ nodes, n.id ∉ node.tunable.dependsOn) :
    (settleAll generators h (node :: nodes) run).2.missing node = run.missing node := by
  have hkept : ∀ d ∈ node.tunable.dependsOn,
      (settleAll generators h (node :: nodes) run).2.values.get? d = run.values.get? d := by
    intro d hd
    have hrest : d ∉ nodes.map (·.id) := by
      intro hmem
      obtain ⟨n, hn, rfl⟩ := List.mem_map.1 hmem
      exact hlater n hn hd
    simp only [settleAll]
    rw [get?_settleAll_of_notMem hrest]
    by_cases hself : d = node.id
    · subst hself
      have hmissing : run.missing node ≠ [] := by
        refine List.ne_nil_of_mem (a := node.id) (List.mem_filter.2 ⟨hd, ?_⟩)
        simp [SortedMap.contains_eq, hnone]
      rw [settle_of_missing hnone hmissing]
    · exact (settles_settle generators h run node).others d hself
  refine List.filter_congr ?_
  intro d hd
  rw [SortedMap.contains_eq, SortedMap.contains_eq, hkept d hd]

/-- Every outcome goes by what its tunable misses in the end. -/
theorem goesBy_settleAll (hdistinct : (nodes.map (·.id)).Nodup)
    (htopological : nodes.Pairwise fun m n => n.id ∉ m.tunable.dependsOn) (hnode : node ∈ nodes)
    (hnone : run.values.get? node.id = none) {o : Outcome} (ho : o ∈ (settleAll generators h nodes run).1)
    (hid : o.id = node.id) : o.GoesBy node.id ((settleAll generators h nodes run).2.missing node) := by
  induction nodes generalizing run with
  | nil => cases hnode
  | cons first rest ih =>
    obtain ⟨hnew, hdistinct⟩ := List.nodup_cons.1 hdistinct
    obtain ⟨hlater, htopological⟩ := List.pairwise_cons.1 htopological
    have hsettles := settles_settle generators h run first
    simp only [settleAll, List.mem_cons] at ho
    rcases List.mem_cons.1 hnode with rfl | hrest
    · -- the outcomes of the others are about others
      have hfirst : o = (run.settle generators h node).1 := by
        refine ho.resolve_right ?_
        intro ho
        have hmem : o.id ∈ rest.map (·.id) := by
          rw [← ids_settleAll generators h rest]
          exact List.mem_map.2 ⟨o, ho, rfl⟩
        rw [hid] at hmem
        exact hnew hmem
      have hmissing : (settleAll generators h (node :: rest) run).2.missing node = run.missing node :=
        missing_settleAll hnone hlater
      constructor
      · rw [hmissing]
        intro hne
        rw [hfirst, settle_of_missing hnone hne]
      · rw [hmissing]
        intro hnil m hm
        exact kind_ne_of_missing_eq_nil hnone hnil (hfirst.symm.trans hm)
    · have hne : node.id ≠ first.id := by
        intro e
        exact hnew (List.mem_map.2 ⟨node, hrest, e⟩)
      have ho := ho.resolve_left (by rintro rfl; exact hne (hid.symm.trans hsettles.id))
      exact ih hdistinct htopological hrest ((hsettles.others _ hne).trans hnone) ho

end Run

/-! ## Reports -/

namespace Report

/-- The prerequisites of a tunable that have no value in a report. -/
def missing (r : Report) (t : Tunable) : List TunableId := t.dependsOn.filter fun d => !r.values.contains d

theorem missing_eq_nil_iff {r : Report} {t : Tunable} :
    r.missing t = [] ↔ ∀ d ∈ t.dependsOn, r.values.contains d = true := by
  simp [missing]

theorem missing_ne_nil_iff {r : Report} {t : Tunable} :
    r.missing t ≠ [] ↔ ∃ d ∈ t.dependsOn, r.values.get? d = none := by
  simp [missing, SortedMap.contains_eq]

/-- The tunables of an order, the given ones apart, are skipped for missing prerequisites by what the report as a whole
has values for. -/
structure SkipsByValues (c : Catalog) (placed : List Node) (seed : Values) (r : Report) : Prop where
  /-- One is skipped exactly when a prerequisite has no value. -/
  skipped : ∀ n ∈ placed, seed.get? n.id = none →
    ((∃ m ∈ r.notifications, m.kind = .missingDependency ∧ m.tunable = n.id) ↔
      ∃ d ∈ n.tunable.dependsOn, r.values.get? d = none)
  /-- It is skipped for all of these, and for no other. -/
  named : ∀ n ∈ placed, seed.get? n.id = none → ∀ m ∈ r.notifications, m.kind = .missingDependency →
    m.tunable = n.id → m = (SkipCause.missing (r.missing n.tunable)).notification n.id
  /-- What is made has all its prerequisites. -/
  supplied : ∀ x ∈ r.recommendations, x.seeded = false →
    ∃ t, c.tunable? x.id = some t ∧ ∀ d ∈ t.dependsOn, r.values.contains d = true

end Report

namespace Catalog

variable {c : Catalog} {generators : GeneratorRegistry} {requested : List TunableId} {seed : Values} {h : History}
  {n : Node}

/-- The refusals and the cycles are other kinds of notification. -/
theorem mem_missing_notifications {m : Notification} (hkind : m.kind = .missingDependency) :
    m ∈ (c.resolve generators requested seed h).notifications ↔
      .skipped m ∈ c.outcomes generators requested seed h := by
  rw [mem_notifications]
  constructor
  · rintro (⟨id, -, cause, hcause, rfl⟩ | ⟨n, -, rfl⟩ | ho)
    · unfold Node.admit? at hcause
      split at hcause
      · split at hcause <;> cases hcause
        cases hkind
      · cases hcause
        cases hkind
    · cases hkind
    · exact ho
  · exact fun ho => .inr (.inr ho)

/-- The outcome of a tunable of the order that is not given goes by the values of the report. -/
theorem goesBy_outcomes (hn : n ∈ (c.order requested).nodes) (hnone : seed.get? n.id = none) {o : Outcome}
    (ho : o ∈ c.outcomes generators requested seed h) (hid : o.id = n.id) :
    o.GoesBy n.id ((c.resolve generators requested seed h).missing n.tunable) := by
  have hstart : ({ values := seed } : Run).values.get? n.id = none := hnone
  exact Run.goesBy_settleAll (c.nodup_order requested) (c.topological_order requested) hn hstart ho hid

/-- The tunables of the order are those that have outcomes. -/
theorem exists_outcome_iff {id : TunableId} :
    (∃ o ∈ c.outcomes generators requested seed h, o.id = id) ↔ ∃ n ∈ (c.order requested).nodes, n.id = id := by
  rw [← List.mem_map, ← List.mem_map, ids_outcomes]

/-- A notification of missing prerequisites names what the report has no values for. -/
theorem missing_of_notification (hn : n ∈ (c.order requested).nodes) (hnone : seed.get? n.id = none) {m : Notification}
    (hm : m ∈ (c.resolve generators requested seed h).notifications) (hkind : m.kind = .missingDependency)
    (htunable : m.tunable = n.id) : (c.resolve generators requested seed h).missing n.tunable ≠ [] ∧
      m = (SkipCause.missing ((c.resolve generators requested seed h).missing n.tunable)).notification n.id := by
  have hgoes := goesBy_outcomes hn hnone ((mem_missing_notifications hkind).1 hm) htunable
  have hne : (c.resolve generators requested seed h).missing n.tunable ≠ [] := by
    intro hnil
    exact hgoes.complete hnil m rfl hkind
  exact ⟨hne, Outcome.skipped.inj (hgoes.skipped hne)⟩

/-- What misses a prerequisite in the end has been skipped for it. -/
theorem notification_of_missing (hn : n ∈ (c.order requested).nodes) (hnone : seed.get? n.id = none)
    (hne : (c.resolve generators requested seed h).missing n.tunable ≠ []) :
    (SkipCause.missing ((c.resolve generators requested seed h).missing n.tunable)).notification n.id ∈
      (c.resolve generators requested seed h).notifications := by
  obtain ⟨o, ho, hid⟩ : ∃ o ∈ c.outcomes generators requested seed h, o.id = n.id :=
    exists_outcome_iff.2 ⟨n, hn, rfl⟩
  rw [(goesBy_outcomes hn hnone ho hid).skipped hne] at ho
  exact (mem_missing_notifications rfl).2 ho

/-- What is made misses nothing. -/
theorem missing_of_made {x : Resolved} (hx : x ∈ (c.resolve generators requested seed h).recommendations)
    (hmade : x.seeded = false) : ∃ t, c.tunable? x.id = some t ∧
      (c.resolve generators requested seed h).missing t = [] := by
  have ho := mem_recommendations.1 hx
  obtain ⟨n, hn, hid⟩ : ∃ n ∈ (c.order requested).nodes, n.id = x.id := exists_outcome_iff.1 ⟨_, ho, rfl⟩
  have hnone : seed.get? n.id = none := by
    have hseeded := (c.yields_outcomes generators requested seed h).seeded x ho
    simpa [hmade, SortedMap.contains_eq, ← hid] using hseeded.symm
  have hgoes := goesBy_outcomes hn hnone ho hid.symm
  refine ⟨n.tunable, hid ▸ (admitted_of_mem_order hn).2.defined, ?_⟩
  by_contra hne
  cases hgoes.skipped hne

/-- **No tunable is skipped too early.** Whatever the catalog, the generators, the request, the given values and the
history are: a tunable of the order whose value is not given is skipped for missing prerequisites exactly when one of
them has no value at the end, the notification names those that have none, and whatever is made has all its
prerequisites. -/
theorem skips_by_final_values (c : Catalog) (generators : GeneratorRegistry) (requested : List TunableId)
    (seed : Values) (h : History) :
    (c.resolve generators requested seed h).SkipsByValues c (c.order requested).nodes seed := by
  refine ⟨?_, ?_, ?_⟩
  · intro n hn hnone
    rw [← Report.missing_ne_nil_iff]
    constructor
    · rintro ⟨m, hm, hkind, htunable⟩
      exact (missing_of_notification hn hnone hm hkind htunable).1
    · intro hne
      exact ⟨_, notification_of_missing hn hnone hne, rfl, rfl⟩
  · intro n hn hnone m hm hkind htunable
    exact (missing_of_notification hn hnone hm hkind htunable).2
  · intro x hx hmade
    obtain ⟨t, ht, hnil⟩ := missing_of_made hx hmade
    exact ⟨t, ht, Report.missing_eq_nil_iff.1 hnil⟩

end Catalog

end TuningAdvisor
