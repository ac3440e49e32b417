import Mathlib.Data.List.Infix
import TuningAdvisor.Text.Blank
/-!
# Texts within texts: the options that `jvm_options` joins

A text occurs in another one if it is a stretch of it. **Joining texts with a separator makes no new occurrence of a
text that is free of the separator** (`infix_intercalate_iff`), and a text whose first character comes in it only once
does not overlap itself (`eq_nil_of_occurrence`).
-/

namespace TuningAdvisor

variable {c : Char} {part l m : List Char}

theorem hasInfix_iff {cs : List Char} : hasInfix part cs = true ↔ part <:+: cs := by
  induction cs with
  | nil => simp [hasInfix]
  | cons c rest ih => rw [hasInfix, Bool.or_eq_true, List.isPrefixOf_iff_prefix, ih, List.infix_cons_iff]

/-! ## Separators -/

/-- What occurs in two texts with a separator between them occurs in one of the two. -/
theorem infix_separated_iff (hc : c ∉ part) : part <:+: l ++ c :: m ↔ part <:+: l ∨ part <:+: m := by
  constructor
  · rintro ⟨a, b, h⟩
    rw [List.append_assoc] at h
    rcases List.append_eq_append_iff.1 h with ⟨l', hl, h⟩ | ⟨a', -, h⟩
    · -- the occurrence starts in front of the separator, and so it ends there too
      rcases List.append_eq_append_iff.1 h with ⟨l'', hl', -⟩ | ⟨part', hpart, h⟩
      · exact .inl ⟨a, l'', by rw [hl, hl', List.append_assoc]⟩
      · cases part' with
        | nil => exact .inl ⟨a, [], by rw [hl, hpart]; simp⟩
        | cons d part' =>
          obtain ⟨rfl, -⟩ := List.cons.inj h
          exact absurd (hpart ▸ by simp) hc
    · cases a' with
      | cons d a' =>
        obtain ⟨-, hm⟩ := List.cons.inj h
        exact .inr ⟨a', b, by rw [List.append_assoc]; exact hm.symm⟩
      | nil =>
        cases part with
        | nil => exact .inl List.nil_infix
        | cons d part =>
          obtain ⟨rfl, -⟩ := List.cons.inj h
          exact absurd List.mem_cons_self hc
  · rintro (h | h)
    · exact h.trans (List.prefix_append _ _).isInfix
    · exact h.trans ((List.suffix_cons c m).trans (List.suffix_append l _)).isInfix

theorem infix_intercalate_iff (hne : part ≠ []) (hc : c ∉ part) {texts : List (List Char)} :
    part <:+: [c].intercalate texts ↔ ∃ t ∈ texts, part <:+: t := by
  induction texts with
  | nil => simp [hne]
  | cons t texts ih =>
    cases texts with
    | nil => simp
    | cons u texts =>
      rw [List.intercalate_cons_cons, List.append_assoc, List.singleton_append, infix_separated_iff hc, ih]
      simp

/-! ## Occurrences -/

/-- A text that stands in front and does not occur behind a first stretch occurs in front only, if its first character
does not come again in this stretch. -/
theorem eq_nil_of_occurrence {front rest a b : List Char} (hfront : c ∉ front) (hrest : ¬c :: part <:+: rest)
    (h : a ++ (c :: part) ++ b = c :: (front ++ rest)) : a = [] := by
  cases a with
  | nil => rfl
  | cons d a =>
    have h : a ++ (c :: part ++ b) = front ++ rest := by
      rw [← List.append_assoc]
      exact (List.cons.inj h).2
    rcases List.append_eq_append_iff.1 h with ⟨front', hsplit, h⟩ | ⟨a', -, h⟩
    · cases front' with
      | nil => exact absurd ⟨[], b, h⟩ hrest
      | cons e front' =>
        obtain ⟨rfl, -⟩ := List.cons.inj h
        exact absurd (hsplit ▸ by simp) hfront
    · exact absurd ⟨a', b, by rw [List.append_assoc, h]⟩ hrest

end TuningAdvisor
