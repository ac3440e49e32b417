import Mathlib.Data.Set.Finite.Basic
import Mathlib.Data.Fintype.Card
import TuningAdvisor.Proofs.Placement
/-!
# What waits for ever runs into a cycle: `DependencyResolver::order`

Dependencies lead from one accepted request to another; a tunable's dependency on itself leads nowhere. **A tunable
waits for ever exactly when they lead from it into a cycle** (`Catalog.mem_stuck_iff`): what waits for ever always leads
to something else that does, and there are finitely many of these; what is placed leads to what was placed before.
-/

namespace TuningAdvisor

namespace Catalog

/-- A tunable depends on another one that is requested and accepted. -/
def LeadsTo (c : Catalog) (requested : List TunableId) (a b : TunableId) : Prop :=
  a ≠ b ∧ b ∈ requested ∧ (∃ n : Node, n.id = b ∧ n.Admitted c) ∧ ∃ t, c.tunable? a = some t ∧ b ∈ t.dependsOn

/-- Dependencies lead from a tunable into a cycle. -/
def Circular (c : Catalog) (requested : List TunableId) (a : TunableId) : Prop :=
  ∃ b, Relation.ReflTransGen (c.LeadsTo requested) a b ∧ Relation.TransGen (c.LeadsTo requested) b b

variable {c : Catalog} {requested : List TunableId} {n m : Node} {a b : TunableId}

theorem leadsTo_iff (hn : n.Admitted c) :
    c.LeadsTo requested n.id b ↔ ∃ m ∈ (Intake.ofRequests c requested).nodes, m.id = b ∧ n.WaitsFor m := by
  constructor
  · rintro ⟨hne, hb, ⟨m, rfl, hm⟩, t, ht, hdepends⟩
    cases hn.defined.symm.trans ht
    exact ⟨m, Intake.mem_nodes_iff.2 ⟨m.id, hb, Node.admit?_eq_ok_iff.2 ⟨rfl, hm⟩⟩, rfl, hne, hdepends⟩
  · rintro ⟨m, hm, rfl, hne, hdepends⟩
    obtain ⟨hrequested, hadmitted⟩ := (Intake.sound_ofRequests c requested).admitted m hm
    exact ⟨hne, hrequested, ⟨m, rfl, hadmitted⟩, n.tunable, hn.defined, hdepends⟩

/-- From a tunable that leads into a cycle, there is a next one that does. -/
theorem Circular.next (h : c.Circular requested a) : ∃ b, c.LeadsTo requested a b ∧ c.Circular requested b := by
  obtain ⟨m, hpath, hcycle⟩ := h
  rcases Relation.ReflTransGen.cases_head hpath with rfl | ⟨b, hab, hpath⟩
  · obtain ⟨b, hab, hback⟩ := Relation.TransGen.head'_iff.1 hcycle
    exact ⟨b, hab, a, hback, hcycle⟩
  · exact ⟨b, hab, m, hpath, hcycle⟩

/-- What is placed leads to what is placed. -/
theorem placed_of_leadsTo (hn : n ∈ (c.order requested).nodes) (h : c.LeadsTo requested n.id b) :
    ∃ m ∈ (c.order requested).nodes, m.id = b ∧ n.WaitsFor m := by
  obtain ⟨m, hm, hb, hwaits⟩ := (leadsTo_iff (admitted_of_mem_order hn).2).1 h
  refine ⟨m, (mem_order_or_stuck.2 hm).resolve_right fun hstuck => ?_, hb, hwaits⟩
  exact (sound_pending c requested).placed_free n hn m hstuck hwaits

/-- Along an order: a placed tunable leads into no cycle, as none does that is placed before it. -/
theorem not_circular_of_placed : ∀ (rest : List Node), rest.Pairwise (fun m n => n.id ∉ m.tunable.dependsOn) →
    (∀ n ∈ rest, n ∈ (c.order requested).nodes) →
    (∀ m ∈ (c.order requested).nodes, m ∉ rest → ¬c.Circular requested m.id) →
    ∀ n ∈ rest, ¬c.Circular requested n.id
  | [], _, _, _ => by simp
  | n :: rest, htopological, hplaced, hbefore => by
    obtain ⟨hlater, htopological⟩ := List.pairwise_cons.1 htopological
    rw [List.forall_mem_cons] at hplaced
    have hfirst : ¬c.Circular requested n.id := by
      intro hcircular
      obtain ⟨b, hleads, hcircular⟩ := hcircular.next
      obtain ⟨m, hm, rfl, hwaits⟩ := placed_of_leadsTo hplaced.1 hleads
      refine hbefore m hm (fun hmem => ?_) hcircular
      rcases List.mem_cons.1 hmem with rfl | hmem
      · exact hwaits.1 rfl
      · exact hlater m hmem hwaits.2
    refine List.forall_mem_cons.2 ⟨hfirst, not_circular_of_placed rest htopological hplaced.2 fun m hm hm' => ?_⟩
    by_cases heq : m = n
    · exact heq ▸ hfirst
    · exact hbefore m hm (by simp [heq, hm'])

/-- What waits for ever leads to something else that does. -/
theorem exists_leadsTo_of_stuck (hn : n ∈ c.stuck requested) :
    ∃ m ∈ c.stuck requested, c.LeadsTo requested n.id m.id := by
  obtain ⟨m, hm, hwaits⟩ := (sound_pending c requested).stuck_waits n hn
  exact ⟨m, hm, (leadsTo_iff (admitted_of_mem_stuck hn).2).2 ⟨m, mem_order_or_stuck.1 (.inr hm), rfl, hwaits⟩⟩

theorem circular_of_stuck (hn : n ∈ c.stuck requested) : c.Circular requested n.id := by
  by_contra hfree
  -- those that wait for ever and can be reached, each below the ones that lead to it
  let Reached := {m : Node // m ∈ c.stuck requested ∧ Relation.ReflTransGen (c.LeadsTo requested) n.id m.id}
  let below (a b : Reached) : Prop := Relation.TransGen (c.LeadsTo requested) b.1.id a.1.id
  have : Finite Reached := ((c.stuck requested).finite_toSet.subset fun m hm => hm.1).to_subtype
  have : IsTrans Reached below := ⟨fun _ _ _ hab hbc => hbc.trans hab⟩
  have : Std.Irrefl below := ⟨fun m hcycle => hfree ⟨m.1.id, m.2.2, hcycle⟩⟩
  have hwf : WellFounded below := Finite.wellFounded_of_trans_of_irrefl below
  -- none of them is least
  refine hwf.induction (C := fun _ => False) ⟨n, hn, .refl⟩ fun m hlower => ?_
  obtain ⟨k, hk, hleads⟩ := exists_leadsTo_of_stuck m.2.1
  exact hlower ⟨k, hk, m.2.2.tail hleads⟩ (.single hleads)

/-- **Exactly what leads into a cycle waits for ever.** -/
theorem mem_stuck_iff :
    n ∈ c.stuck requested ↔ n ∈ (Intake.ofRequests c requested).nodes ∧ c.Circular requested n.id := by
  refine ⟨fun hn => ⟨mem_order_or_stuck.1 (.inr hn), circular_of_stuck hn⟩, ?_⟩
  rintro ⟨hn, hcircular⟩
  refine (mem_order_or_stuck.2 hn).resolve_left fun hplaced => ?_
  exact not_circular_of_placed _ (topological_order c requested) (fun _ h => h) (fun m hm hm' => absurd hm hm') n
    hplaced hcircular

end Catalog

/-! ## Reports of cycles -/

namespace Schedule

/-- How often a tunable is placed. -/
def places (s : Schedule) (id : TunableId) : Nat := (s.nodes.map (·.id)).count id

/-- How many notifications there are that a tunable is part of a cycle. -/
def cycleReports (s : Schedule) (id : TunableId) : Nat :=
  s.notifications.countP fun m => m.kind == .dependencyCycle && m.tunable == id

/-- Cycles are reported where they are, and all else is placed. -/
structure ReportsCycles (c : Catalog) (requested : List TunableId) (s : Schedule) : Prop where
  /-- An accepted tunable is left out, and reported once, exactly when it leads into a cycle. -/
  circular : ∀ n : Node, n.id ∈ requested → n.Admitted c →
    (s.places n.id = 0 ∧ s.cycleReports n.id = 1 ↔ c.Circular requested n.id)
  /-- Every other one is placed once, and not reported. -/
  placed : ∀ n : Node, n.id ∈ requested → n.Admitted c →
    (s.places n.id = 1 ∧ s.cycleReports n.id = 0 ↔ ¬c.Circular requested n.id)
  /-- Nothing is left out that could still be placed. -/
  complete : ∀ n : Node, n.id ∈ requested → n.Admitted c →
    (∀ id, c.LeadsTo requested n.id id → s.places id = 1) → s.places n.id = 1
  /-- Nothing is said of what is not accepted. -/
  others : ∀ id, (∀ n : Node, n.id = id → n.Admitted c → id ∉ requested) → s.places id = 0 ∧ s.cycleReports id = 0

end Schedule

namespace Catalog

variable {c : Catalog} {requested : List TunableId} {n : Node} {id : TunableId}

/-- A refusal is no report of a cycle. -/
theorem kind_of_refused {cause : SkipCause} (h : Node.admit? c id = .error cause) : cause.kind ≠ .dependencyCycle := by
  unfold Node.admit? at h
  split at h
  · split at h <;> cases h
    nofun
  · cases h
    nofun

/-- What waits for ever is reported, and nothing else. -/
theorem cycleReports_order (c : Catalog) (requested : List TunableId) (id : TunableId) :
    (c.order requested).cycleReports id = ((c.stuck requested).map (·.id)).count id := by
  have hnotifications : (c.order requested).notifications = (Intake.ofRequests c requested).notifications ++
      (c.stuck requested).map fun n => SkipCause.cycle.notification n.id := rfl
  have hrefusals : ((Intake.ofRequests c requested).notifications.countP
      fun m => m.kind == .dependencyCycle && m.tunable == id) = 0 := by
    refine List.countP_eq_zero.2 fun m hm => ?_
    obtain ⟨i, -, cause, hcause, rfl⟩ := Intake.mem_notifications_iff.1 hm
    simp [SkipCause.notification, Notification.of, kind_of_refused hcause]
  rw [Schedule.cycleReports, hnotifications, List.countP_append, hrefusals, Nat.zero_add, List.countP_map,
    List.count_eq_countP, List.countP_map]
  rfl

/-- An accepted tunable is placed once or reported once, and which of the two is told by the cycles. -/
theorem placed_or_reported (hid : n.id ∈ requested) (hn : n.Admitted c) :
    (c.Circular requested n.id ∧ (c.order requested).places n.id = 0 ∧ (c.order requested).cycleReports n.id = 1) ∨
      (¬c.Circular requested n.id ∧ (c.order requested).places n.id = 1 ∧
        (c.order requested).cycleReports n.id = 0) := by
  have hadmitted : Node.admit? c n.id = .ok n := Node.admit?_eq_ok_iff.2 ⟨rfl, hn⟩
  have hmem : n ∈ (Intake.ofRequests c requested).nodes := Intake.mem_nodes_iff.2 ⟨_, hid, hadmitted⟩
  have hone := count_of_admitted hid hadmitted
  rw [← cycleReports_order, ← Schedule.places] at hone
  by_cases hcircular : c.Circular requested n.id
  · have hstuck : n ∈ c.stuck requested := mem_stuck_iff.2 ⟨hmem, hcircular⟩
    have hpos : 0 < (c.order requested).cycleReports n.id := by
      rw [cycleReports_order]
      exact List.count_pos_iff.2 (List.mem_map_of_mem hstuck)
    exact .inl ⟨hcircular, by omega, by omega⟩
  · have hplaced : n ∈ (c.order requested).nodes :=
      (mem_order_or_stuck.2 hmem).resolve_right fun hstuck => hcircular (circular_of_stuck hstuck)
    have hpos : 0 < (c.order requested).places n.id := List.count_pos_iff.2 (List.mem_map_of_mem hplaced)
    exact .inr ⟨hcircular, by omega, by omega⟩

/-- What leads only to what is placed leads into no cycle. -/
theorem not_circular_of_leads_to_placed (h : ∀ b, c.LeadsTo requested id b → (c.order requested).places b = 1) :
    ¬c.Circular requested id := by
  intro hcircular
  obtain ⟨b, hleads, hcircular⟩ := hcircular.next
  have hplaced := h b hleads
  obtain ⟨-, hb, ⟨m, rfl, hm⟩, -⟩ := hleads
  rcases placed_or_reported hb hm with ⟨-, hnone, -⟩ | ⟨hfree, -⟩
  · omega
  · exact hfree hcircular

/-- **Cycles are reported exactly.** Whatever the catalog and the request are: an accepted tunable is left out of the
order and reported, once, exactly when the dependencies between accepted requests lead from it into a cycle; every other
one is placed once, and nothing is left out while all that it leads to is placed. -/
theorem order_reports_cycles (c : Catalog) (requested : List TunableId) :
    (c.order requested).ReportsCycles c requested := by
  refine ⟨fun n hid hn => ?_, fun n hid hn => ?_, fun n hid hn hleads => ?_, fun id hnone => ?_⟩
  · rcases placed_or_reported hid hn with ⟨hcircular, hreported⟩ | ⟨hfree, hplaced, -⟩
    · exact iff_of_true hreported hcircular
    · exact iff_of_false (fun hreported => by omega) hfree
  · rcases placed_or_reported hid hn with ⟨hcircular, hnone, -⟩ | ⟨hfree, hplaced⟩
    · exact iff_of_false (fun hplaced => by omega) (not_not_intro hcircular)
    · exact iff_of_true hplaced hfree
  · rcases placed_or_reported hid hn with ⟨hcircular, -⟩ | ⟨-, hplaced, -⟩
    · exact absurd hcircular (not_circular_of_leads_to_placed hleads)
    · exact hplaced
  · rw [cycleReports_order]
    refine ⟨List.count_eq_zero.2 fun hmem => ?_, List.count_eq_zero.2 fun hmem => ?_⟩
    all_goals obtain ⟨n, hn, rfl⟩ := List.mem_map.1 hmem
    · obtain ⟨hrequested, hadmitted⟩ := admitted_of_mem_order hn
      exact hnone n rfl hadmitted hrequested
    · obtain ⟨hrequested, hadmitted⟩ := admitted_of_mem_stuck hn
      exact hnone n rfl hadmitted hrequested

/-- A tunable of a layer, with dependencies in the same layer. -/
def meshKnob (name : String) (dependsOn : List String) : Tunable where
  name
  valueType := .double
  domain := .numeric 0.0 1.0 0.1
  layer := "mesh"
  dependsOn := dependsOn.map fun d => ⟨"mesh", d⟩

/-- Two tunables that depend on each other, one that depends on the first of them, and one that depends on itself. -/
def meshed : Catalog :=
  Catalog.insert {} { name := "mesh", level := 1, presence := .always "always", tunables := [
    meshKnob "first" ["second"], meshKnob "second" ["first"], meshKnob "behind" ["first"], meshKnob "own" ["own"]] }

/-- All of them. -/
def allMeshed : List TunableId := [⟨"mesh", "first"⟩, ⟨"mesh", "second"⟩, ⟨"mesh", "behind"⟩, ⟨"mesh", "own"⟩]

/-- The one that depends on the cycle is reported, the one that depends on itself is placed. -/
theorem meshed_reports_behind :
    (meshed.order allMeshed).places ⟨"mesh", "behind"⟩ = 0 ∧
    (meshed.order allMeshed).cycleReports ⟨"mesh", "behind"⟩ = 1 ∧
    (meshed.order allMeshed).places ⟨"mesh", "own"⟩ = 1 ∧ (meshed.order allMeshed).cycleReports ⟨"mesh", "own"⟩ = 0 := by
  have hreports := order_reports_cycles meshed allMeshed
  have hfirst : Node.admit? meshed ⟨"mesh", "first"⟩ = .ok ⟨⟨"mesh", "first"⟩, 1, meshKnob "first" ["second"]⟩ := rfl
  have hsecond : Node.admit? meshed ⟨"mesh", "second"⟩ = .ok ⟨⟨"mesh", "second"⟩, 1, meshKnob "second" ["first"]⟩ := rfl
  have hbehind : Node.admit? meshed ⟨"mesh", "behind"⟩ = .ok ⟨⟨"mesh", "behind"⟩, 1, meshKnob "behind" ["first"]⟩ := rfl
  have hown : Node.admit? meshed ⟨"mesh", "own"⟩ = .ok ⟨⟨"mesh", "own"⟩, 1, meshKnob "own" ["own"]⟩ := rfl
  have hcircular : meshed.Circular allMeshed ⟨"mesh", "behind"⟩ := by
    have hto : meshed.LeadsTo allMeshed ⟨"mesh", "behind"⟩ ⟨"mesh", "first"⟩ :=
      ⟨by decide, by decide, ⟨_, Node.admitted_of_admit? hfirst⟩, _, rfl, by decide⟩
    have hthere : meshed.LeadsTo allMeshed ⟨"mesh", "first"⟩ ⟨"mesh", "second"⟩ :=
      ⟨by decide, by decide, ⟨_, Node.admitted_of_admit? hsecond⟩, _, rfl, by decide⟩
    have hback : meshed.LeadsTo allMeshed ⟨"mesh", "second"⟩ ⟨"mesh", "first"⟩ :=
      ⟨by decide, by decide, ⟨_, Node.admitted_of_admit? hfirst⟩, _, rfl, by decide⟩
    exact ⟨_, .single hto, .head hthere (.single hback)⟩
  have hfree : ¬meshed.Circular allMeshed ⟨"mesh", "own"⟩ := by
    intro hcircular
    obtain ⟨b, ⟨hne, -, -, t, ht, hb⟩, -⟩ := hcircular.next
    cases (Node.admitted_of_admit? hown).2.defined.symm.trans ht
    exact hne (List.mem_singleton.1 hb).symm
  obtain ⟨hplaces, hreported⟩ :=
    (hreports.circular _ (by decide) (Node.admitted_of_admit? hbehind).2).2 hcircular
  obtain ⟨hplaced, hsilent⟩ := (hreports.placed _ (by decide) (Node.admitted_of_admit? hown).2).2 hfree
  exact ⟨hplaces, hreported, hplaced, hsilent⟩

end Catalog

end TuningAdvisor
