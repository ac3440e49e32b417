import Mathlib.Logic.Relation
import TuningAdvisor.Proofs.Lists
import TuningAdvisor.Resolution.Order
/-!
# The order is topological and layered: `DependencyResolver::order`

What waits is always `Sound`: the counts are exact, and nothing depends on a higher level. The first
makes the order **topological**: a tunable that waits for none has no dependency left behind it.
The second makes it **layered**: a tunable that becomes ready by a placement is not below the placed one.
-/

namespace TuningAdvisor

/-! ## Admission -/

/-- A tunable as the catalog defines it, without a dependency on a higher level. -/
structure Node.Admitted (c : Catalog) (n : Node) : Prop where
  defined : c.tunable? n.id = some n.tunable
  level : c.level? n.id.layer = some n.level
  lower : ∀ d ∈ n.tunable.dependsOn, ∀ l, c.level? d.layer = some l → l ≤ n.level

theorem Node.admitted_of_admit? {c : Catalog} {id : TunableId} {n : Node} (h : Node.admit? c id = .ok n) :
    n.id = id ∧ n.Admitted c := by
  unfold admit? at h
  split at h
  · rename_i tunable level htunable hlevel
    split at h
    · cases h
    · rename_i hnone
      cases h
      refine ⟨rfl, htunable, hlevel, fun d hd l hl => ?_⟩
      have := List.find?_eq_none.1 hnone d hd
      simpa [hl] using this
  · cases h

/-- The admitted tunables are those that are defined and depend on no higher level. -/
theorem Node.admit?_eq_ok_iff {c : Catalog} {id : TunableId} {n : Node} :
    Node.admit? c id = .ok n ↔ n.id = id ∧ n.Admitted c := by
  refine ⟨admitted_of_admit?, ?_⟩
  rintro ⟨rfl, hn⟩
  have hnone : n.tunable.dependsOn.find? (fun d => (c.level? d.layer).any (n.level < ·)) = none := by
    rw [List.find?_eq_none]
    intro d hd
    cases hlevel : c.level? d.layer with
    | none => simp
    | some l => simpa using hn.lower d hd l hlevel
  unfold admit?
  rw [hn.defined, hn.level]
  dsimp only
  rw [hnone]

namespace Intake

/-- What was taken in from some requests. -/
structure Sound (c : Catalog) (requested : List TunableId) (i : Intake) : Prop where
  distinct : (i.nodes.map (·.id)).Nodup
  admitted : ∀ n ∈ i.nodes, n.id ∈ requested ∧ n.Admitted c

theorem Sound.add {c : Catalog} {requested : List TunableId} {i : Intake} {id : TunableId}
    (h : i.Sound c requested) (hid : id ∈ requested) : (i.add c id).Sound c requested := by
  unfold Intake.add
  split
  · exact h
  · rename_i hnew
    split
    · rename_i n hn
      obtain ⟨rfl, hadm⟩ := Node.admitted_of_admit? hn
      refine ⟨?_, fun m hm => ?_⟩
      · have hfresh : ∀ m ∈ i.nodes, m.id ≠ n.id := by simpa using hnew
        simp only [List.map_append, List.map_cons, List.map_nil]
        refine List.nodup_append.2 ⟨h.distinct, by simp, fun a ha b hb => ?_⟩
        obtain ⟨m, hm, rfl⟩ := List.mem_map.1 ha
        cases List.mem_singleton.1 hb
        exact hfresh m hm
      · rcases List.mem_append.1 hm with hm | hm
        · exact h.admitted m hm
        · cases List.mem_singleton.1 hm
          exact ⟨hid, hadm⟩
    · exact ⟨h.distinct, h.admitted⟩

theorem sound_ofRequests (c : Catalog) (requested : List TunableId) :
    (Intake.ofRequests c requested).Sound c requested := by
  suffices ∀ ids : List TunableId, (∀ id ∈ ids, id ∈ requested) → ∀ i : Intake, i.Sound c requested →
      (ids.foldl (Intake.add c) i).Sound c requested from
    this requested (fun _ h => h) {} ⟨List.nodup_nil, by simp⟩
  intro ids
  induction ids with
  | nil => exact fun _ i hi => hi
  | cons id ids ih =>
    intro hids i hi
    exact ih (fun x hx => hids x (List.mem_cons_of_mem _ hx)) _ (hi.add (hids id List.mem_cons_self))

end Intake

/-! ## What waits -/

namespace Pending

variable {p q : Pending} {waiting rest : List Pending}

/-- The invariant of the placement. -/
structure Sound (waiting : List Pending) : Prop where
  distinct : (waiting.map (·.node.id)).Nodup
  counted : ∀ p ∈ waiting, p.waitsFor = total (waiting.map fun q => edges p.node q.node.id)
  layered : ∀ p ∈ waiting, ∀ q ∈ waiting, q.node.id ∈ p.node.tunable.dependsOn → q.node.level ≤ p.node.level

theorem edges_pos_iff {n : Node} {id : TunableId} : 0 < edges n id ↔ n.id ≠ id ∧ id ∈ n.tunable.dependsOn := by
  unfold edges
  split <;> simp_all [List.count_pos_iff]

theorem mem_others : q ∈ p.others waiting ↔ ∃ q₀ ∈ waiting, q₀.node.id ≠ p.node.id ∧ release p.node.id q₀ = q := by
  simp only [others, List.mem_map, List.mem_filter, bne_iff_ne, and_assoc]

theorem lowest?_eq_none : ∀ {l : List Pending}, lowest? l = none → l = []
  | [], _ => rfl
  | hd :: tl, h => by
    unfold lowest? at h
    split at h
    · split at h <;> cases h
    · cases h

theorem lowest?_le : ∀ {l : List Pending} {p : Pending}, lowest? l = some p → ∀ q ∈ l, p.node.level ≤ q.node.level
  | [], _, h, _, _ => by simp [lowest?] at h
  | hd :: tl, p, h, q, hq => by
    unfold lowest? at h
    split at h
    · rename_i r hr
      have ih := lowest?_le hr
      split at h <;> cases h <;> rcases List.mem_cons.1 hq with rfl | hq
      · omega
      · exact ih q hq
      · exact Nat.le_refl _
      · have := ih q hq; omega
    · rename_i hr
      cases h
      rw [lowest?_eq_none hr] at hq
      cases List.mem_singleton.1 hq
      exact Nat.le_refl _

/-- The next one is ready, and no ready one is below it. -/
theorem of_next? (h : next? waiting = some p) :
    p ∈ waiting ∧ p.waitsFor = 0 ∧ ∀ q ∈ waiting, q.waitsFor = 0 → p.node.level ≤ q.node.level := by
  have hmem := List.mem_filter.1 (mem_of_lowest? h)
  refine ⟨hmem.1, by simpa using hmem.2, fun q hq hz => ?_⟩
  exact lowest?_le h q (List.mem_filter.2 ⟨hq, by simpa using hz⟩)

theorem perm_cons_filter_ne : ∀ {l : List Pending}, (l.map (·.node.id)).Nodup → p ∈ l →
    l.Perm (p :: l.filter (·.node.id != p.node.id))
  | [], _, h => by simp at h
  | hd :: tl, hd', h => by
    obtain ⟨hnew, htl⟩ := List.nodup_cons.1 hd'
    rcases List.mem_cons.1 h with rfl | h
    · have hall : tl.filter (·.node.id != p.node.id) = tl := by
        refine List.filter_eq_self.2 fun q hq => bne_iff_ne.2 fun e => hnew ?_
        exact List.mem_map.2 ⟨q, hq, e⟩
      simp [hall]
    · have hne : hd.node.id ≠ p.node.id := fun e => hnew (List.mem_map.2 ⟨p, h, e.symm⟩)
      rw [List.filter_cons_of_pos (by simpa using hne)]
      exact ((perm_cons_filter_ne htl h).cons hd).trans (List.Perm.swap ..)

/-- A dependency of one on another is part of the count. -/
theorem Sound.edges_le (h : Sound waiting) (hp : p ∈ waiting) (hq : q ∈ waiting) :
    edges q.node p.node.id ≤ q.waitsFor := by
  rw [h.counted q hq]
  exact le_total_of_mem (List.mem_map.2 ⟨p, hp, rfl⟩)

/-- A ready one depends on no other that waits. -/
theorem Sound.free_of_ready (h : Sound waiting) (hp : p ∈ waiting) (hz : p.waitsFor = 0) (hq : q ∈ waiting)
    (hne : q.node.id ≠ p.node.id) : q.node.id ∉ p.node.tunable.dependsOn := by
  intro hd
  have := h.edges_le hq hp
  have := edges_pos_iff.2 ⟨hne.symm, hd⟩
  omega

/-- One placement keeps the invariant. -/
theorem Sound.others (h : Sound waiting) (hp : p ∈ waiting) : Sound (p.others waiting) := by
  refine ⟨?_, fun q hq => ?_, fun a ha b hb => ?_⟩
  · have hids : (p.others waiting).map (·.node.id) =
        (waiting.filter (·.node.id != p.node.id)).map (·.node.id) := by
      simp [Pending.others, Function.comp_def, release]
    rw [hids]
    exact h.distinct.sublist (List.filter_sublist.map _)
  · obtain ⟨q₀, hq₀, -, rfl⟩ := mem_others.1 hq
    have hperm := (perm_cons_filter_ne h.distinct hp).map fun r => edges q₀.node r.node.id
    have hsum := total_eq_of_perm hperm
    have hcount := h.counted q₀ hq₀
    simp only [List.map_cons, total_cons] at hsum
    simp only [Pending.others, List.map_map, Function.comp_def, release]
    omega
  · obtain ⟨a₀, ha₀, -, rfl⟩ := mem_others.1 ha
    obtain ⟨b₀, hb₀, -, rfl⟩ := mem_others.1 hb
    exact h.layered a₀ ha₀ b₀ hb₀

/-- The tunables that the catalog admits make a sound start. -/
theorem sound_ofNodes {c : Catalog} {nodes : List Node} (hdistinct : (nodes.map (·.id)).Nodup)
    (hadm : ∀ n ∈ nodes, n.Admitted c) : Sound (ofNodes nodes) := by
  refine ⟨?_, fun p hp => ?_, fun p hp q hq hd => ?_⟩
  · simpa [ofNodes, Function.comp_def] using hdistinct
  · obtain ⟨n, -, rfl⟩ := List.mem_map.1 hp
    simp [ofNodes, Function.comp_def]
  · obtain ⟨m, hm, rfl⟩ := List.mem_map.1 hp
    obtain ⟨n, hn, rfl⟩ := List.mem_map.1 hq
    exact (hadm m hm).lower _ hd _ (hadm n hn).level

/-! ## The placement, step by step -/

/-- One placement. -/
def Step (waiting rest : List Pending) : Prop := ∃ p, next? waiting = some p ∧ rest = p.others waiting

/-- What waits after some placements. -/
abbrev Reachable : List Pending → List Pending → Prop := Relation.ReflTransGen Step

theorem Sound.reachable (h : Sound waiting) (hr : Reachable waiting rest) : Sound rest := by
  induction hr with
  | refl => exact h
  | tail _ hstep ih =>
    obtain ⟨p, hp, rfl⟩ := hstep
    exact ih.others (of_next? hp).1

theorem place_of_none (h : next? waiting = none) : place waiting = ([], waiting.map (·.node)) := by
  rw [place]
  split
  · rfl
  · simp_all

theorem place_of_some (h : next? waiting = some p) :
    place waiting = (p.node :: (place (p.others waiting)).1, (place (p.others waiting)).2) := by
  rw [place]
  split
  · simp_all
  · rename_i q hq
    cases h.symm.trans hq
    rfl

/-- Every placed one was waiting. -/
theorem mem_of_placed {n : Node} (hn : n ∈ (place waiting).1) : ∃ q ∈ waiting, q.node = n := by
  induction waiting using place.induct with
  | case1 waiting h => simp [place_of_none h] at hn
  | case2 waiting p h _ ih =>
    rw [place_of_some h] at hn
    rcases List.mem_cons.1 hn with rfl | hn
    · exact ⟨p, mem_of_next? h, rfl⟩
    · obtain ⟨q, hq, rfl⟩ := ih hn
      obtain ⟨q₀, hq₀, -, rfl⟩ := mem_others.1 hq
      exact ⟨q₀, hq₀, rfl⟩

theorem mem_of_placed_others {n : Node} (hn : n ∈ (place (p.others waiting)).1) :
    ∃ q ∈ waiting, q.node.id ≠ p.node.id ∧ q.node = n := by
  obtain ⟨q, hq, rfl⟩ := mem_of_placed hn
  obtain ⟨q₀, hq₀, hne, rfl⟩ := mem_others.1 hq
  exact ⟨q₀, hq₀, hne, rfl⟩

theorem nodup_placed : ((place waiting).1.map (·.id)).Nodup := by
  induction waiting using place.induct with
  | case1 waiting h => simp [place_of_none h]
  | case2 waiting p h _ ih =>
    rw [place_of_some h]
    refine List.nodup_cons.2 ⟨fun hmem => ?_, ih⟩
    obtain ⟨n, hn, he⟩ := List.mem_map.1 hmem
    obtain ⟨q, -, hne, rfl⟩ := mem_of_placed_others hn
    exact hne he

/-- None depends on one that is placed later. -/
theorem Sound.topological (h : Sound waiting) :
    (place waiting).1.Pairwise fun m n => n.id ∉ m.tunable.dependsOn := by
  induction waiting using place.induct with
  | case1 waiting hnone => simp [place_of_none hnone]
  | case2 waiting p hsome _ ih =>
    obtain ⟨hp, hz, -⟩ := of_next? hsome
    rw [place_of_some hsome]
    refine List.pairwise_cons.2 ⟨fun n hn => ?_, ih (h.others hp)⟩
    obtain ⟨q, hq, hne, rfl⟩ := mem_of_placed_others hn
    exact h.free_of_ready hp hz hq hne

/-- A level that no ready one is below stays one: what a placement makes ready depends on the placed one,
and so is not below it. -/
theorem Sound.ready_others {level : Nat} (h : Sound waiting) (hp : p ∈ waiting) (hlevel : level ≤ p.node.level)
    (hready : ∀ q ∈ waiting, q.waitsFor = 0 → level ≤ q.node.level) :
    ∀ q ∈ p.others waiting, q.waitsFor = 0 → level ≤ q.node.level := by
  intro q hq hz
  obtain ⟨q₀, hq₀, -, rfl⟩ := mem_others.1 hq
  by_cases hz₀ : q₀.waitsFor = 0
  · exact hready q₀ hq₀ hz₀
  · have hpos : 0 < edges q₀.node p.node.id := by simp only [release] at hz; omega
    have := h.layered q₀ hq₀ p hp (edges_pos_iff.1 hpos).2
    simp only [release]
    omega

theorem Sound.level_le_placed {level : Nat} (h : Sound waiting)
    (hready : ∀ q ∈ waiting, q.waitsFor = 0 → level ≤ q.node.level) :
    ∀ n ∈ (place waiting).1, level ≤ n.level := by
  induction waiting using place.induct with
  | case1 waiting hnone => simp [place_of_none hnone]
  | case2 waiting p hsome _ ih =>
    obtain ⟨hp, hz, -⟩ := of_next? hsome
    have hlevel := hready p hp hz
    rw [place_of_some hsome]
    intro n hn
    rcases List.mem_cons.1 hn with rfl | hn
    · exact hlevel
    · exact ih (h.others hp) (h.ready_others hp hlevel hready) n hn

/-- None is on a lower level than one that is placed earlier. -/
theorem Sound.layers_ascend (h : Sound waiting) :
    (place waiting).1.Pairwise fun m n => m.level ≤ n.level := by
  induction waiting using place.induct with
  | case1 waiting hnone => simp [place_of_none hnone]
  | case2 waiting p hsome _ ih =>
    obtain ⟨hp, -, hleast⟩ := of_next? hsome
    rw [place_of_some hsome]
    refine List.pairwise_cons.2 ⟨?_, ih (h.others hp)⟩
    exact (h.others hp).level_le_placed (h.ready_others hp (Nat.le_refl _) hleast)

end Pending

/-! ## The order -/

/-- **The order is topological and layered.** It has no repetition, and only requested tunables that are
defined and do not depend on a higher level; none depends on a later one, and the levels never
descend. No placement takes more off the count of a waiting tunable than there is. -/
theorem Catalog.order_topological_layered (c : Catalog) (requested : List TunableId) :
    ((c.order requested).nodes.map (·.id)).Nodup ∧
    (∀ n ∈ (c.order requested).nodes, n.id ∈ requested ∧ n.Admitted c) ∧
    ((c.order requested).nodes.Pairwise fun m n => n.id ∉ m.tunable.dependsOn) ∧
    ((c.order requested).nodes.Pairwise fun m n => m.level ≤ n.level) ∧
    ∀ waiting p, Pending.Reachable (Pending.ofNodes (Intake.ofRequests c requested).nodes) waiting →
      Pending.next? waiting = some p → ∀ q ∈ waiting, Pending.edges q.node p.node.id ≤ q.waitsFor := by
  obtain ⟨hdistinct, hadm⟩ := Intake.sound_ofRequests c requested
  have hsound : Pending.Sound (Pending.ofNodes (Intake.ofRequests c requested).nodes) :=
    Pending.sound_ofNodes hdistinct fun n hn => (hadm n hn).2
  refine ⟨Pending.nodup_placed, fun n hn => ?_, hsound.topological, hsound.layers_ascend, ?_⟩
  · obtain ⟨q, hq, rfl⟩ := Pending.mem_of_placed hn
    obtain ⟨m, hm, rfl⟩ := List.mem_map.1 hq
    exact hadm m hm
  · intro waiting p hr hp q hq
    exact (hsound.reachable hr).edges_le (Pending.of_next? hp).1 hq

end TuningAdvisor
