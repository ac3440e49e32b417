import TuningAdvisor.Proofs.Placement
/-!
# Repeated requests: `DependencyResolver::resolve`

An accepted request that comes again is passed over, and **nothing that is placed, settled or valued depends on
repetitions**. A refused request is not remembered: it is refused again each time it comes, with a notification each
time. So a request and the same request without its repetitions differ in their refusals alone, and they do
differ unless everything that is repeated is accepted (`Catalog.resolve_of_repeated_request`).
-/

namespace TuningAdvisor

namespace Intake

variable (c : Catalog) (requested : List TunableId)

/-- A request that came before adds no tunable. -/
theorem nodes_add_of_mem {id : TunableId} (h : id ∈ requested) :
    ((ofRequests c requested).add c id).nodes = (ofRequests c requested).nodes := by
  unfold add
  split
  · rfl
  · rename_i hnew
    split
    · rename_i n hn
      -- it would have been admitted before
      have hknown : (ofRequests c requested).nodes.any (·.id == id) = true :=
        List.any_eq_true.2 ⟨n, mem_nodes_iff.2 ⟨id, h, hn⟩, beq_iff_eq.2 (Node.admitted_of_admit? hn).1⟩
      exact absurd hknown hnew
    · rfl

theorem nodes_add_congr {c : Catalog} {i j : Intake} (h : i.nodes = j.nodes) (id : TunableId) :
    (i.add c id).nodes = (j.add c id).nodes := by
  unfold add
  rw [h]
  split
  · exact h
  · split <;> rfl

/-- The same tunables are taken in without the repetitions. -/
theorem nodes_eraseDups : (ofRequests c requested.eraseDups).nodes = (ofRequests c requested).nodes := by
  induction requested using List.reverseRecOn with
  | nil => rfl
  | append_singleton requested id ih =>
    rw [ofRequests_append_singleton, eraseDups_append_singleton]
    split
    · rename_i hmem
      rw [ih, nodes_add_of_mem c requested hmem]
    · rw [ofRequests_append_singleton]
      exact nodes_add_congr ih id

/-- A request is refused unless the catalog accepts it. -/
theorem isSome_refusal?_iff {id : TunableId} :
    (refusal? c id).isSome = true ↔ ¬∃ n : Node, n.id = id ∧ n.Admitted c := by
  simp only [← Node.admit?_eq_ok_iff]
  unfold refusal?
  cases Node.admit? c id <;> simp

end Intake

namespace Catalog

/-- Nothing that is refused is requested twice. -/
def RefusesOnce (c : Catalog) (requested : List TunableId) : Prop :=
  ∀ id, (¬∃ n : Node, n.id = id ∧ n.Admitted c) → requested.count id ≤ 1

/-- The refusals are the same without the repetitions exactly if nothing that is refused is repeated. -/
theorem refusals_eraseDups_iff (c : Catalog) (requested : List TunableId) :
    requested.eraseDups.filterMap (Intake.refusal? c) = requested.filterMap (Intake.refusal? c) ↔
      c.RefusesOnce requested := by
  rw [filterMap_eraseDups_eq_iff]
  exact forall_congr' fun id => imp_congr_left (Intake.isSome_refusal?_iff c)

/-- A request, and what is the same and what is not without its repetitions. -/
structure UnmovedByRepetition (c : Catalog) (generators : GeneratorRegistry) (requested : List TunableId) (seed : Values)
    (h : History) : Prop where
  order : (c.order requested.eraseDups).nodes = (c.order requested).nodes
  recommendations : (c.resolve generators requested.eraseDups seed h).recommendations =
    (c.resolve generators requested seed h).recommendations
  values : (c.resolve generators requested.eraseDups seed h).values = (c.resolve generators requested seed h).values
  /-- The notifications of the order are a refusal for each refused request, and others that stay the same. -/
  ordered : ∃ rest,
    (c.order requested).notifications = requested.filterMap (Intake.refusal? c) ++ rest ∧
    (c.order requested.eraseDups).notifications = requested.eraseDups.filterMap (Intake.refusal? c) ++ rest
  /-- So are the notifications of the report. -/
  notified : ∃ rest,
    (c.resolve generators requested seed h).notifications = requested.filterMap (Intake.refusal? c) ++ rest ∧
    (c.resolve generators requested.eraseDups seed h).notifications =
      requested.eraseDups.filterMap (Intake.refusal? c) ++ rest
  /-- Both have surplus notifications unless nothing that is refused is repeated. -/
  ordered_iff :
    (c.order requested.eraseDups).notifications = (c.order requested).notifications ↔ c.RefusesOnce requested
  notified_iff : (c.resolve generators requested.eraseDups seed h).notifications =
    (c.resolve generators requested seed h).notifications ↔ c.RefusesOnce requested

/-- **Repeating a request changes nothing but refusals.** For every catalog, generators, given values and history, the
order, the recommendations and the values are those of the request without its repetitions; so are the notifications,
if what is repeated is accepted, and only then: each refused request has its own refusal. -/
theorem resolve_of_repeated_request (c : Catalog) (generators : GeneratorRegistry) (requested : List TunableId)
    (seed : Values) (h : History) : c.UnmovedByRepetition generators requested seed h := by
  have hnodes := Intake.nodes_eraseDups c requested
  have hstuck : c.stuck requested.eraseDups = c.stuck requested := by rw [stuck, hnodes, ← stuck]
  have horder : (c.order requested.eraseDups).nodes = (c.order requested).nodes := by
    show (Pending.place (Pending.ofNodes (Intake.ofRequests c requested.eraseDups).nodes)).1 = _
    rw [hnodes]
    rfl
  have houtcomes : c.outcomes generators requested.eraseDups seed h = c.outcomes generators requested seed h := by
    rw [outcomes, horder, ← outcomes]
  have hordered (ids : List TunableId) : (c.order ids).notifications =
      ids.filterMap (Intake.refusal? c) ++ (c.stuck ids).map fun n => SkipCause.cycle.notification n.id := by
    rw [← Intake.notifications_eq]
    rfl
  have hnotified (ids : List TunableId) : (c.resolve generators ids seed h).notifications =
      ids.filterMap (Intake.refusal? c) ++ (((c.stuck ids).map fun n => SkipCause.cycle.notification n.id) ++
        (c.outcomes generators ids seed h).filterMap Outcome.notification?) := by
    rw [notifications_resolve, Intake.notifications_eq, List.append_assoc]
  refine ⟨horder, ?_, ?_, ⟨_, hordered _, ?_⟩, ⟨_, hnotified _, ?_⟩, ?_, ?_⟩
  · rw [recommendations_resolve, houtcomes, ← recommendations_resolve]
  · show (Run.settleAll generators h (c.order requested.eraseDups).nodes { values := seed }).2.values = _
    rw [horder]
    rfl
  · rw [hordered, hstuck]
  · rw [hnotified, hstuck, houtcomes]
  · rw [hordered, hordered, hstuck, List.append_left_inj, refusals_eraseDups_iff]
  · rw [hnotified, hnotified, hstuck, houtcomes, List.append_left_inj, refusals_eraseDups_iff]

/-- A tunable that no layer defines, requested twice. -/
def unknownTwice : List TunableId :=
  [⟨LayerName.hotspot, "Xss"⟩, .cpuLimit, ⟨LayerName.hotspot, "Xss"⟩, .cpuLimit]

/-- It is notified twice, although the repeated limit is passed over. -/
theorem unknownTwice_not_unmoved :
    (Catalog.builtin.order unknownTwice.eraseDups).nodes = (Catalog.builtin.order unknownTwice).nodes ∧
    (Catalog.builtin.resolve (.builtin {}) unknownTwice.eraseDups ∅ ∅).notifications ≠
      (Catalog.builtin.resolve (.builtin {}) unknownTwice ∅ ∅).notifications := by
  have hmoved := resolve_of_repeated_request .builtin (.builtin {}) unknownTwice ∅ ∅
  refine ⟨hmoved.order, fun heq => ?_⟩
  have honce := hmoved.notified_iff.1 heq ⟨LayerName.hotspot, "Xss"⟩ ?_
  · exact absurd honce (by decide)
  · rintro ⟨n, hid, hn⟩
    have hdefined := hn.defined
    rw [hid] at hdefined
    have hundefined : Catalog.builtin.tunable? ⟨LayerName.hotspot, "Xss"⟩ = none := by rfl
    rw [hundefined] at hdefined
    cases hdefined

end Catalog

end TuningAdvisor
