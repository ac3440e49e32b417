import Mathlib.Algebra.Order.BigOperators.Group.List
import Mathlib.Algebra.Order.Group.Nat
import Mathlib.Data.List.Induction
import TuningAdvisor.Number.Range
/-!
# Totals, repetitions, first items, and lists side by side

What the developments on orders, reports, counters and merges need of lists: how a total is made up, what a list loses
with its repetitions, which item is the first of its kind, and how what holds of two lists item by item is found again
for one item.
-/

namespace TuningAdvisor

/-! ## Totals -/

@[simp] theorem total_nil : total [] = 0 := rfl

@[simp] theorem total_cons (n : Nat) (ns : List Nat) : total (n :: ns) = n + total ns := rfl

@[simp] theorem total_append (ms ns : List Nat) : total (ms ++ ns) = total ms + total ns := List.sum_append

theorem le_total_of_mem {n : Nat} {ns : List Nat} (h : n ∈ ns) : n ≤ total ns := List.le_sum_of_mem h

theorem total_eq_of_perm {ms ns : List Nat} (h : ms.Perm ns) : total ms = total ns := h.sum_nat

theorem total_pos {ns : List Nat} (h : total ns ≠ 0) : ∃ n ∈ ns, 0 < n := by
  induction ns with
  | nil => exact absurd rfl h
  | cons n ns ih =>
    rw [total_cons] at h
    by_cases hn : 0 < n
    · exact ⟨n, List.mem_cons_self, hn⟩
    · obtain ⟨m, hm, hpos⟩ := ih (by omega)
      exact ⟨m, List.mem_cons_of_mem _ hm, hpos⟩

/-! ## Repetitions -/

section
variable {α β : Type} [BEq α] [LawfulBEq α]

theorem eraseDups_append_singleton (l : List α) (a : α) :
    (l ++ [a]).eraseDups = if a ∈ l then l.eraseDups else l.eraseDups ++ [a] := by
  rw [List.eraseDups_append]
  by_cases h : a ∈ l <;> simp [List.removeAll, List.eraseDups_cons, h]

theorem length_filterMap_eraseDups_le (f : α → Option β) (l : List α) :
    (l.eraseDups.filterMap f).length ≤ (l.filterMap f).length := by
  induction l using List.reverseRecOn with
  | nil => simp
  | append_singleton l a ih =>
    rw [eraseDups_append_singleton]
    split <;> simp only [List.filterMap_append, List.length_append] <;> omega

/-- Without its repetitions, a list has fewer results unless only items without a result are repeated. -/
theorem filterMap_eraseDups_eq_iff (f : α → Option β) (l : List α) :
    l.eraseDups.filterMap f = l.filterMap f ↔ ∀ a, (f a).isSome = true → l.count a ≤ 1 := by
  induction l using List.reverseRecOn with
  | nil => simp
  | append_singleton l a ih =>
    have hself : (l ++ [a]).count a = l.count a + 1 := by simp
    have hother {b : α} (hb : b ≠ a) : (l ++ [a]).count b = l.count b := by
      rw [List.count_append, List.count_eq_zero_of_not_mem (a := b) (l := [a]) (by simpa using hb), Nat.add_zero]
    rw [eraseDups_append_singleton]
    by_cases hmem : a ∈ l
    · have hpos : 0 < l.count a := List.count_pos_iff.2 hmem
      rw [if_pos hmem, List.filterMap_append]
      cases ha : f a with
      | none =>
        -- repeating what has no result changes neither side
        rw [List.filterMap_cons_none ha, List.filterMap_nil, List.append_nil, ih]
        refine forall_congr' fun b => imp_congr_right fun hb => ?_
        rw [hother (by rintro rfl; simp [ha] at hb)]
      | some r =>
        refine iff_of_false (fun heq => ?_) fun honce => ?_
        · have hle := length_filterMap_eraseDups_le f l
          have hlength := congrArg List.length heq
          simp [ha] at hlength
          omega
        · have htwice := honce a (by simp [ha])
          omega
    · have hnone : l.count a = 0 := List.count_eq_zero_of_not_mem hmem
      rw [if_neg hmem, List.filterMap_append, List.filterMap_append, List.append_left_inj, ih]
      refine forall_congr' fun b => imp_congr_right fun _ => ?_
      by_cases hb : b = a
      · rw [hb, hself, hnone]
        simp
      · rw [hother hb]

end

/-- Among items of different keys, the first one of a key is the last one. -/
theorem find?_reverse_of_nodup {α κ : Type} [BEq κ] [LawfulBEq κ] {key : α → κ} {k : κ} {l : List α}
    (h : (l.map key).Nodup) : l.reverse.find? (key · == k) = l.find? (key · == k) := by
  induction l with
  | nil => rfl
  | cons a l ih =>
    rw [List.map_cons, List.nodup_cons] at h
    rw [List.reverse_cons, List.find?_append, ih h.2, List.find?_cons]
    by_cases ha : key a = k
    · subst ha
      have hnone : l.find? (key · == key a) = none := by
        rw [List.find?_eq_none]
        intro b hb hkey
        exact h.1 (List.mem_map.2 ⟨b, hb, beq_iff_eq.1 hkey⟩)
      simp [hnone]
    · have hkey : (key a == k) = false := by simpa using ha
      simp [hkey]

/-! ## The first of its kind -/

/-- Where not all items are of a kind, one is the first that is not. -/
theorem exists_first {α : Type} {P : α → Prop} {l : List α} (h : ∃ a ∈ l, ¬P a) :
    ∃ before a after, l = before ++ a :: after ∧ (∀ x ∈ before, P x) ∧ ¬P a := by
  classical
  have hsome : (l.find? fun a => !decide (P a)).isSome = true := by
    rw [List.find?_isSome]
    simpa using h
  obtain ⟨first, hfirst⟩ := Option.isSome_iff_exists.1 hsome
  obtain ⟨hnot, before, after, hsplit, hbefore⟩ := List.find?_eq_some_iff_append.1 hfirst
  exact ⟨before, first, after, hsplit, by simpa using hbefore, by simpa using hnot⟩

theorem first_unique {α : Type} {P : α → Prop} {before after before' after' : List α} {a a' : α}
    (h : before ++ a :: after = before' ++ a' :: after') (hbefore : ∀ x ∈ before, P x) (ha : ¬P a)
    (hbefore' : ∀ x ∈ before', P x) (ha' : ¬P a') : a = a' := by
  classical
  have hfind {l r : List α} {b : α} (hl : ∀ x ∈ l, P x) (hb : ¬P b) :
      (l ++ b :: r).find? (fun x => !decide (P x)) = some b :=
    List.find?_eq_some_iff_append.2 ⟨by simpa using hb, l, r, rfl, by simpa using hl⟩
  have hfirst := hfind (r := after) hbefore ha
  rw [h, hfind hbefore' ha'] at hfirst
  exact (Option.some.inj hfirst).symm

/-! ## Item by item -/

theorem exists_of_forall₂ {α β : Type} {R : α → β → Prop} {l : List α} {m : List β} (h : List.Forall₂ R l m) {b : β}
    (hb : b ∈ m) : ∃ a ∈ l, R a b := by
  induction h with
  | nil => cases hb
  | cons hab _ ih =>
    rcases List.mem_cons.1 hb with rfl | hb
    · exact ⟨_, List.mem_cons_self, hab⟩
    · obtain ⟨a, ha, hab⟩ := ih hb
      exact ⟨a, List.mem_cons_of_mem _ ha, hab⟩

theorem forall₂_trans {α : Type} {R : α → α → Prop} (ht : ∀ a b c, R a b → R b c → R a c) {l m n : List α}
    (h : List.Forall₂ R l m) (h' : List.Forall₂ R m n) : List.Forall₂ R l n := by
  induction h generalizing n with
  | nil => exact h'
  | cons hab _ ih =>
    cases h' with
    | cons hbc h' => exact .cons (ht _ _ _ hab hbc) (ih h')

end TuningAdvisor
