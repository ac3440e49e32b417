import TuningAdvisor.Proofs.Cycles
import TuningAdvisor.Proofs.FinalValues
/-!
# What becomes of a given value: the seed of `DependencyResolver::resolve`

A given value is looked up along the order, so it takes precedence over everything that a generator would need: missing
dependencies, a missing generator, missing data. It comes too late for what keeps a tunable out of the order. **A
requested tunable with a given value is surfaced with this value exactly when it depends on no higher level and leads
into no cycle** (`Catalog.resolve_given`); otherwise it is reported as if nothing had been given, although the
tunables behind it do find the value.
-/

namespace TuningAdvisor

/-- A tunable depends on a tunable of a layer of a higher level. -/
def Catalog.DependsUpward (c : Catalog) (id : TunableId) : Prop :=
  ∃ t level, c.tunable? id = some t ∧ c.level? id.layer = some level ∧
    ∃ d ∈ t.dependsOn, ∃ higher, c.level? d.layer = some higher ∧ level < higher

namespace Report

/-- A tunable is recommended once, with a value as it was given. -/
structure Surfaces (r : Report) (id : TunableId) (x : Float) : Prop where
  once : r.answers id = 1
  silent : r.reasons id = 0
  given : r.get? id =
    some { id, entry := { name := id.name, value := plain x }, value := some x, seeded := true }

/-- A tunable is not recommended, for a single cause. -/
structure Withholds (r : Report) (id : TunableId) (cause : SkipCause) : Prop where
  unanswered : r.answers id = 0
  told : 0 < r.reasons id
  cause : ∀ n ∈ r.notifications, n.tunable = id → n = cause.notification id

/-- What becomes of a given value. -/
structure TreatsGiven (c : Catalog) (requested : List TunableId) (id : TunableId) (x : Float) (r : Report) : Prop where
  kept : r.values.get? id = some x
  surfaced : ¬c.DependsUpward id → ¬c.Circular requested id → r.Surfaces id x
  refused : c.DependsUpward id → ∃ d, r.Withholds id (.higherLayer d)
  stuck : ¬c.DependsUpward id → c.Circular requested id → r.Withholds id .cycle

end Report

/-! ## Out of the order -/

namespace Catalog

variable {c : Catalog} {generators : GeneratorRegistry} {requested : List TunableId} {seed : Values} {h : History}
  {id : TunableId} {t : Tunable} {n : Node}

/-- What is defined is admitted unless it depends on a higher level. -/
theorem admit?_of_defined (ht : c.tunable? id = some t) :
    (¬c.DependsUpward id ∧ ∃ n, Node.admit? c id = .ok n) ∨
      (c.DependsUpward id ∧ ∃ d, Node.admit? c id = .error (.higherLayer d)) := by
  obtain ⟨l, hl, -⟩ := Option.bind_eq_some_iff.1 ht
  have hlevel : c.level? id.layer = some l.level := by rw [level?, hl]; rfl
  unfold Node.admit?
  rw [ht, hlevel]
  dsimp only
  split
  · rename_i d hd
    have hhigher := List.find?_some hd
    obtain ⟨higher, hhigher, hlt⟩ := Option.any_eq_true _ _ |>.1 hhigher
    exact .inr ⟨⟨t, l.level, ht, hlevel, d, List.mem_of_find?_eq_some hd, higher, hhigher, by simpa using hlt⟩, d, rfl⟩
  · rename_i hnone
    refine .inl ⟨?_, _, rfl⟩
    rintro ⟨t', level, ht', hlevel', d, hd, higher, hhigher, hlt⟩
    cases ht.symm.trans ht'
    cases hlevel.symm.trans hlevel'
    have hlow := List.find?_eq_none.1 hnone d hd
    simp [hhigher, hlt] at hlow

theorem not_dependsUpward_of_admitted (hn : Node.admit? c id = .ok n) : ¬c.DependsUpward id := by
  obtain ⟨rfl, hadmitted⟩ := Node.admitted_of_admit? hn
  rcases admit?_of_defined hadmitted.defined with ⟨hlevel, -⟩ | ⟨-, d, hd⟩
  · exact hlevel
  · cases hn.symm.trans hd

/-- The notifications about what has no place in the order are those of its admission and of the cycles. -/
theorem withholds_of_not_placed (hid : id ∈ requested) (hnot : id ∉ (c.order requested).nodes.map (·.id))
    {cause : SkipCause} (hrefused : ∀ cause', Node.admit? c id = .error cause' → cause' = cause)
    (hstuck : ∀ n ∈ c.stuck requested, n.id = id → cause = .cycle) :
    (c.resolve generators requested seed h).Withholds id cause := by
  have hzero : (c.resolve generators requested seed h).answers id = 0 := by
    have hle := answers_le c generators requested seed h id
    rw [List.count_eq_zero.2 hnot] at hle
    omega
  refine ⟨hzero, ?_, ?_⟩
  · exact (answered hid).elim (fun hone => absurd (hzero.symm.trans hone.1) (by decide)) fun hnone => hnone.2
  · rintro m hm rfl
    rcases mem_notifications.1 hm with ⟨i, -, cause', hcause, rfl⟩ | ⟨n, hn, rfl⟩ | ho
    · rw [hrefused cause' hcause]
      rfl
    · rw [hstuck n hn rfl]
      rfl
    · -- an outcome would be one of a tunable of the order
      have houtcome : m.tunable ∈ (c.outcomes generators requested seed h).map Outcome.id :=
        List.mem_map.2 ⟨_, ho, rfl⟩
      rw [ids_outcomes] at houtcome
      exact absurd houtcome hnot

theorem withholds_of_upward (hid : id ∈ requested) {d : TunableId} (hd : Node.admit? c id = .error (.higherLayer d)) :
    (c.resolve generators requested seed h).Withholds id (.higherLayer d) := by
  have hnone := count_of_refused requested hd
  refine withholds_of_not_placed hid (List.count_eq_zero.1 (by omega)) (fun cause' hcause => ?_) fun n hn heq => ?_
  · exact Except.error.inj (hcause.symm.trans hd)
  · have hpos : 0 < ((c.stuck requested).map (·.id)).count id := List.count_pos_iff.2 (List.mem_map.2 ⟨n, hn, heq⟩)
    omega

theorem withholds_of_circular (hid : id ∈ requested) (hn : Node.admit? c id = .ok n)
    (hcircular : c.Circular requested id) : (c.resolve generators requested seed h).Withholds id .cycle := by
  obtain ⟨rfl, -⟩ := Node.admitted_of_admit? hn
  have hstuck : n ∈ c.stuck requested := mem_stuck_iff.2 ⟨Intake.mem_nodes_iff.2 ⟨_, hid, hn⟩, hcircular⟩
  have hone := count_of_admitted hid hn
  have hpos : 0 < ((c.stuck requested).map (·.id)).count n.id := List.count_pos_iff.2 (List.mem_map.2 ⟨n, hstuck, rfl⟩)
  refine withholds_of_not_placed hid (List.count_eq_zero.1 (by omega)) (fun cause' hcause => ?_) fun _ _ _ => rfl
  cases hn.symm.trans hcause

/-! ## In the order -/

theorem surfaces_of_placed (hid : id ∈ requested) (hn : n ∈ (c.order requested).nodes) (hname : n.id = id) {x : Float}
    (hx : seed.get? id = some x) : (c.resolve generators requested seed h).Surfaces id x := by
  obtain ⟨o, ho, hoid⟩ : ∃ o ∈ c.outcomes generators requested seed h, o.id = id := exists_outcome_iff.2 ⟨n, hn, hname⟩
  obtain ⟨m, -, hm⟩ := exists_of_forall₂ (settledBy_outcomes c generators requested seed h) ho
  obtain rfl : m.id = id := hm.id.symm.trans hoid
  obtain ⟨rfl, -⟩ := hm.of_given hx
  have hdistinct : ((c.outcomes generators requested seed h).map Outcome.id).Nodup := by
    rw [ids_outcomes]
    exact nodup_order c requested
  have hget := (Outcome.recommendation?_eq_some_iff hdistinct).2 ⟨ho, rfl⟩
  have hmem : m.id ∈ (c.resolve generators requested seed h).recommendations.map (·.id) :=
    List.mem_map.2 ⟨_, mem_recommendations.2 ho, rfl⟩
  exact (answered hid).elim (fun hone => ⟨hone.1, hone.2, hget⟩) fun hnone => absurd hmem (List.count_eq_zero.1 hnone.1)

/-- **What becomes of a given value.** Whatever the catalog, the generators, the request, the given values and the
history are: the value of a requested tunable that is defined is kept. The tunable is surfaced with it, once and without a
notification, if it depends on no higher level and leads into no cycle. Otherwise it has no recommendation, and the
notifications say nothing but that. -/
theorem resolve_given (c : Catalog) (generators : GeneratorRegistry) (h : History) {requested : List TunableId}
    {seed : Values} {id : TunableId} {t : Tunable} {x : Float} (hid : id ∈ requested) (ht : c.tunable? id = some t)
    (hx : seed.get? id = some x) : (c.resolve generators requested seed h).TreatsGiven c requested id x := by
  have hyields := c.yields_outcomes generators requested seed h
  refine ⟨(hyields.values id x).2 (.inl hx), fun hlevel hfree => ?_, fun hupward => ?_, fun hlevel hcircular => ?_⟩
  · obtain ⟨-, n, hn⟩ := (admit?_of_defined ht).resolve_right fun hupward => hlevel hupward.1
    obtain ⟨rfl, -⟩ := Node.admitted_of_admit? hn
    refine surfaces_of_placed hid ((mem_order_or_stuck.2 (Intake.mem_nodes_iff.2 ⟨_, hid, hn⟩)).resolve_right ?_) rfl hx
    exact fun hstuck => hfree (circular_of_stuck hstuck)
  · obtain ⟨-, d, hd⟩ := (admit?_of_defined ht).resolve_left fun hadmitted => hadmitted.1 hupward
    exact ⟨d, withholds_of_upward hid hd⟩
  · obtain ⟨-, n, hn⟩ := (admit?_of_defined ht).resolve_right fun hupward => hlevel hupward.1
    exact withholds_of_circular hid hn hcircular

/-- A number of a layer between zero and one. -/
def share (layer name : String) (dependsOn : List TunableId) : Tunable :=
  { name, valueType := .double, domain := .numeric 0.0 1.0 0.1, layer, dependsOn }

/-- A lower layer with two tunables that depend on each other and one that depends on the layer above. -/
def tangled : Catalog :=
  let lower : Layer := { name := "lower", level := 1, presence := .always "always", tunables := [
    share "lower" "first" [⟨"lower", "second"⟩], share "lower" "second" [⟨"lower", "first"⟩],
    share "lower" "early" [⟨"upper", "late"⟩]] }
  let upper : Layer := { name := "upper", level := 2, presence := .always "always", tunables := [share "upper" "late" []] }
  (Catalog.insert {} lower).insert upper

/-- All of its tunables. -/
def allTangled : List TunableId := [⟨"lower", "first"⟩, ⟨"lower", "second"⟩, ⟨"lower", "early"⟩, ⟨"upper", "late"⟩]

/-- The same value for each of them. -/
def allHalves : Values := .ofList (allTangled.map fun id => (id, 0.5))

theorem resolve_given_tangled :
    (tangled.resolve ∅ allTangled allHalves ∅).Surfaces ⟨"upper", "late"⟩ 0.5 ∧
    (∃ d, (tangled.resolve ∅ allTangled allHalves ∅).Withholds ⟨"lower", "early"⟩ (.higherLayer d)) ∧
    (tangled.resolve ∅ allTangled allHalves ∅).Withholds ⟨"lower", "first"⟩ .cycle := by
  have hfirst : Node.admit? tangled ⟨"lower", "first"⟩ =
      .ok ⟨⟨"lower", "first"⟩, 1, share "lower" "first" [⟨"lower", "second"⟩]⟩ := rfl
  have hsecond : Node.admit? tangled ⟨"lower", "second"⟩ =
      .ok ⟨⟨"lower", "second"⟩, 1, share "lower" "second" [⟨"lower", "first"⟩]⟩ := rfl
  have hlate : Node.admit? tangled ⟨"upper", "late"⟩ = .ok ⟨⟨"upper", "late"⟩, 2, share "upper" "late" []⟩ := rfl
  have hthere : tangled.LeadsTo allTangled ⟨"lower", "first"⟩ ⟨"lower", "second"⟩ :=
    ⟨by decide, by decide, ⟨_, Node.admitted_of_admit? hsecond⟩, _, rfl, by decide⟩
  have hback : tangled.LeadsTo allTangled ⟨"lower", "second"⟩ ⟨"lower", "first"⟩ :=
    ⟨by decide, by decide, ⟨_, Node.admitted_of_admit? hfirst⟩, _, rfl, by decide⟩
  have hearly : tangled.DependsUpward ⟨"lower", "early"⟩ :=
    ⟨_, 1, rfl, rfl, ⟨"upper", "late"⟩, List.mem_singleton_self _, 2, rfl, by decide⟩
  have hfree : ¬tangled.Circular allTangled ⟨"upper", "late"⟩ := by
    intro hcircular
    obtain ⟨b, ⟨-, -, -, t, ht, hb⟩, -⟩ := hcircular.next
    cases (Node.admitted_of_admit? hlate).2.defined.symm.trans ht
    cases hb
  exact ⟨(resolve_given tangled ∅ ∅ (by decide) rfl rfl).surfaced (not_dependsUpward_of_admitted hlate) hfree,
    (resolve_given tangled ∅ ∅ (by decide) rfl rfl).refused hearly,
    (resolve_given tangled ∅ ∅ (by decide) rfl rfl).stuck (not_dependsUpward_of_admitted hfirst)
      ⟨_, .refl, .head hthere (.single hback)⟩⟩

end Catalog

end TuningAdvisor
