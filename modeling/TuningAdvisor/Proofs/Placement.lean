import Mathlib.Data.List.Nodup
import TuningAdvisor.Proofs.Resolution
/-!
# What is placed, whatever the order of the request: `DependencyResolver::order`

Among those that wait for none, the order of the request decides who comes next. **It does not decide who comes at
all.** A tunable that waits for ever waits for another one that does, and a placed one depends on nothing that waits
for ever, so that what one request leaves waiting cannot be placed for a permutation of it
(`Catalog.perm_order_of_perm`).
-/

namespace TuningAdvisor

/-! ## Who waits for whom -/

/-- The first tunable depends on the second one, which is another. -/
def Node.WaitsFor (n m : Node) : Prop := n.id ≠ m.id ∧ m.id ∈ n.tunable.dependsOn

namespace Pending

variable {p q : Pending} {waiting : List Pending}

theorem waitsFor_of_next?_none (h : next? waiting = none) (hq : q ∈ waiting) : q.waitsFor ≠ 0 := by
  intro hz
  have hready : q ∈ waiting.filter (·.waitsFor == 0) := List.mem_filter.2 ⟨hq, by simpa using hz⟩
  rw [lowest?_eq_none h] at hready
  simp at hready

/-- A placed tunable depends on nothing that waits for ever. -/
theorem Sound.placed_free (h : Sound waiting) :
    ∀ n ∈ (place waiting).1, ∀ m ∈ (place waiting).2, ¬n.WaitsFor m := by
  induction waiting using place.induct with
  | case1 waiting hnone => simp [place_of_none hnone]
  | case2 waiting p hsome _ ih =>
    obtain ⟨hp, hz, -⟩ := of_next? hsome
    rw [place_of_some hsome]
    intro n hn m hm
    rcases List.mem_cons.1 hn with rfl | hn
    · -- nothing that is still there when it is placed is a dependency of it
      rintro ⟨hne, hdepends⟩
      obtain ⟨q, hq, rfl⟩ : ∃ q ∈ p.others waiting, q.node = m := by
        have hmem := (perm_place (p.others waiting) (h.others hp).distinct).mem_iff.1 (List.mem_append_right _ hm)
        simpa using hmem
      obtain ⟨q₀, hq₀, hother, rfl⟩ := mem_others.1 hq
      exact h.free_of_ready hp hz hq₀ hother hdepends
    · exact ih (h.others hp) n hn m hm

/-- What waits for ever waits for another one that does. -/
theorem Sound.stuck_waits (h : Sound waiting) :
    ∀ n ∈ (place waiting).2, ∃ m ∈ (place waiting).2, n.WaitsFor m := by
  induction waiting using place.induct with
  | case1 waiting hnone =>
    rw [place_of_none hnone]
    intro n hn
    obtain ⟨q, hq, rfl⟩ := List.mem_map.1 hn
    have hcount := waitsFor_of_next?_none hnone hq
    rw [h.counted q hq] at hcount
    obtain ⟨k, hk, hpos⟩ := total_pos hcount
    obtain ⟨m, hm, rfl⟩ := List.mem_map.1 hk
    exact ⟨m.node, List.mem_map.2 ⟨m, hm, rfl⟩, edges_pos_iff.1 hpos⟩
  | case2 waiting p hsome _ ih =>
    rw [place_of_some hsome]
    exact ih (h.others (of_next? hsome).1)

end Pending

/-! ## Permuted requests -/

namespace Intake

variable {c : Catalog} {requested requested' : List TunableId}

/-- The notification about a request that is not admitted. -/
def refusal? (c : Catalog) (id : TunableId) : Option Notification :=
  match Node.admit? c id with
  | .ok _ => none
  | .error cause => some (cause.notification id)

theorem notifications_eq (c : Catalog) (requested : List TunableId) :
    (ofRequests c requested).notifications = requested.filterMap (refusal? c) := by
  induction requested using List.reverseRecOn with
  | nil => rfl
  | append_singleton requested id ih =>
    rw [ofRequests_append_singleton, List.filterMap_append, ← ih]
    unfold add
    split
    · rename_i hknown
      obtain ⟨n, hn, hid⟩ := List.any_eq_true.1 hknown
      have hadmitted := admit?_of_mem_nodes hn
      rw [beq_iff_eq.1 hid] at hadmitted
      simp [refusal?, hadmitted]
    · split
      · rename_i hadmitted
        simp [refusal?, hadmitted]
      · rename_i hrefused
        simp [refusal?, hrefused]

theorem nodup_nodes (c : Catalog) (requested : List TunableId) : (ofRequests c requested).nodes.Nodup :=
  (sound_ofRequests c requested).distinct.of_map

theorem perm_nodes (hperm : requested.Perm requested') :
    (ofRequests c requested).nodes.Perm (ofRequests c requested').nodes := by
  refine (List.perm_ext_iff_of_nodup (nodup_nodes c requested) (nodup_nodes c requested')).2 fun n => ?_
  simp only [mem_nodes_iff, hperm.mem_iff]

end Intake

namespace Catalog

variable {c : Catalog} {requested requested' : List TunableId} {n m : Node}

theorem not_mem_stuck (hn : n ∈ (c.order requested).nodes) : n ∉ c.stuck requested := by
  have hnodup := (perm_order c requested).nodup_iff.2 (Intake.nodup_nodes c requested)
  exact fun hstuck => (List.nodup_append.1 hnodup).2.2 n hn n hstuck rfl

/-- Along an order: a tunable is placed for a permuted request too, when all that is placed before it is. -/
theorem placed_of_perm (hperm : requested.Perm requested') : ∀ (rest : List Node),
    rest.Pairwise (fun m n => n.id ∉ m.tunable.dependsOn) → (∀ n ∈ rest, n ∈ (c.order requested).nodes) →
    (∀ m ∈ (c.order requested).nodes, m ∉ rest → m ∈ (c.order requested').nodes) →
    ∀ n ∈ rest, n ∈ (c.order requested').nodes
  | [], _, _, _ => by simp
  | n :: rest, htopological, hplaced, hbefore => by
    have hnodes := Intake.perm_nodes (c := c) hperm
    obtain ⟨hlater, htopological⟩ := List.pairwise_cons.1 htopological
    rw [List.forall_mem_cons] at hplaced
    have hnext : n ∈ (c.order requested').nodes := by
      have hadmitted := hnodes.mem_iff.1 (mem_order_or_stuck.1 (.inl hplaced.1))
      refine (mem_order_or_stuck.2 hadmitted).resolve_right fun hstuck => ?_
      -- if it waited for ever, it would wait for one that does, and that one is placed before it
      obtain ⟨m, hm, hwaits⟩ := (sound_pending c requested').stuck_waits n hstuck
      have hfree := (sound_pending c requested).placed_free n hplaced.1 m
      have hm' := (mem_order_or_stuck.2 (hnodes.mem_iff.2 (mem_order_or_stuck.1 (.inr hm)))).resolve_right
        fun h => hfree h hwaits
      refine not_mem_stuck (hbefore m hm' fun h => ?_) hm
      rcases List.mem_cons.1 h with rfl | h
      · exact hwaits.1 rfl
      · exact hlater m h hwaits.2
    refine List.forall_mem_cons.2 ⟨hnext, placed_of_perm hperm rest htopological hplaced.2 fun m hm hm' => ?_⟩
    by_cases heq : m = n
    · exact heq ▸ hnext
    · exact hbefore m hm (by simp [heq, hm'])

/-- **Who is placed does not depend on the order of the request**, nor who waits for ever. -/
theorem perm_order_of_perm (hperm : requested.Perm requested') :
    (c.order requested).nodes.Perm (c.order requested').nodes ∧ (c.stuck requested).Perm (c.stuck requested') := by
  have hplaced : (c.order requested).nodes.Perm (c.order requested').nodes := by
    refine (List.perm_ext_iff_of_nodup ((nodup_order c _).of_map) ((nodup_order c _).of_map)).2 fun n => ?_
    exact ⟨placed_of_perm hperm _ (topological_order c _) (fun _ h => h) (fun m h hm => absurd h hm) n,
      placed_of_perm hperm.symm _ (topological_order c _) (fun _ h => h) (fun m h hm => absurd h hm) n⟩
  have hall := ((perm_order c requested).trans (Intake.perm_nodes hperm)).trans (perm_order c requested').symm
  exact ⟨hplaced, (List.perm_append_left_iff _).1 ((hplaced.symm.append_right _).trans hall)⟩

end Catalog

end TuningAdvisor
