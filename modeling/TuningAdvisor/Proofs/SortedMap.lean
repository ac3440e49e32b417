import Mathlib.Data.List.Induction
import TuningAdvisor.SortedMap
/-!
# Entries and look-ups of sorted maps: `IntervalMap` and the stores

The two views of a sorted map: **an entry is in the list exactly when its key looks it up**
(`mem_entries_iff`), and what an insertion does is said in both views.
-/

namespace TuningAdvisor.SortedMap

variable {κ ν : Type} [Ord κ]

theorem contains_eq (m : SortedMap κ ν) (k : κ) : m.contains k = (m.get? k).isSome := rfl

theorem isEmpty_eq (m : SortedMap κ ν) : m.isEmpty = m.last?.isNone := by
  rw [Bool.eq_iff_iff, isEmpty, last?, List.isEmpty_iff, Option.isNone_iff_eq_none, List.getLast?_eq_none_iff]

theorem get?_of_last?_eq_none {m : SortedMap κ ν} (h : m.last? = none) (k : κ) : m.get? k = none := by
  rw [get?, List.getLast?_eq_none_iff.1 h, lookup]

/-- The last entry stays the last one if it is kept. -/
theorem last?_filter {m : SortedMap κ ν} {p : κ → ν → Bool} {k : κ} {v : ν} (h : m.last? = some (k, v))
    (hp : p k v = true) : (m.filter p).last? = some (k, v) := by
  obtain ⟨init, hentries⟩ := List.getLast?_eq_some_iff.1 h
  show (m.entries.filter fun e => p e.1 e.2).getLast? = some (k, v)
  rw [hentries, List.filter_append]
  simp [hp]

section
variable [Std.TransOrd κ] [Std.LawfulEqOrd κ]

@[simp] theorem get?_insert_self (m : SortedMap κ ν) (k : κ) (v : ν) : (m.insert k v).get? k = some v := by
  simp

theorem get?_insert_of_ne (m : SortedMap κ ν) {k q : κ} (v : ν) (h : q ≠ k) :
    (m.insert k v).get? q = m.get? q := by
  have hq : compare q k ≠ .eq := fun e => h (Std.LawfulEqOrd.eq_of_compare e)
  simp [hq]

/-- What is found behind an insertion is what was inserted, or was there under another key. -/
theorem get?_insert_cases {m : SortedMap κ ν} {k q : κ} {v w : ν} (h : (m.insert k v).get? q = some w) :
    (q = k ∧ w = v) ∨ (q ≠ k ∧ m.get? q = some w) := by
  by_cases hq : q = k
  · subst hq
    rw [get?_insert_self] at h
    exact .inl ⟨rfl, (Option.some.inj h).symm⟩
  · rw [get?_insert_of_ne _ _ hq] at h
    exact .inr ⟨hq, h⟩

/-- Writing back the value that is there changes nothing. -/
theorem insert_of_get? {m : SortedMap κ ν} {k : κ} {v : ν} (h : m.get? k = some v) : m.insert k v = m := by
  refine ext_get? fun q => ?_
  by_cases hq : q = k
  · subst hq; rw [get?_insert_self, h]
  · exact get?_insert_of_ne m v hq

/-- Of two values under one key, the second one counts. -/
theorem insert_insert (m : SortedMap κ ν) (k : κ) (v w : ν) : (m.insert k v).insert k w = m.insert k w := by
  refine ext_get? fun q => ?_
  by_cases hq : q = k
  · subst hq
    rw [get?_insert_self, get?_insert_self]
  · rw [get?_insert_of_ne _ _ hq, get?_insert_of_ne _ _ hq, get?_insert_of_ne _ _ hq]

/-- Insertions under different keys commute. -/
theorem insert_comm (m : SortedMap κ ν) {k q : κ} (v w : ν) (h : k ≠ q) :
    (m.insert k v).insert q w = (m.insert q w).insert k v := by
  refine ext_get? fun t => ?_
  by_cases htk : t = k
  · subst htk
    rw [get?_insert_of_ne _ _ h, get?_insert_self, get?_insert_self]
  · rw [get?_insert_of_ne _ _ htk]
    by_cases htq : t = q
    · subst htq
      rw [get?_insert_self, get?_insert_self]
    · rw [get?_insert_of_ne _ _ htq, get?_insert_of_ne _ _ htq, get?_insert_of_ne _ _ htk]

omit [Std.TransOrd κ] in
theorem mem_of_lookup {k : κ} {v : ν} : ∀ {l : List (κ × ν)}, lookup k l = some v → (k, v) ∈ l
  | [], h => by simp [lookup] at h
  | (k', v') :: rest, h => by
    unfold lookup at h
    split at h
    · rename_i e
      cases Std.LawfulEqOrd.eq_of_compare e; cases h
      exact List.mem_cons_self
    · exact List.mem_cons_of_mem _ (mem_of_lookup h)

theorem lookup_of_mem {k : κ} {v : ν} :
    ∀ {l : List (κ × ν)}, l.Pairwise (fun a b => compare a.1 b.1 = .lt) → (k, v) ∈ l → lookup k l = some v
  | [], _, h => by simp at h
  | (k', v') :: rest, hs, h => by
    obtain ⟨hlt, hs⟩ := List.pairwise_cons.1 hs
    rcases List.mem_cons.1 h with e | h
    · cases e; simp [lookup]
    · have hk : compare k k' ≠ .eq := by
        have := Std.OrientedCmp.gt_of_lt (hlt _ h)
        simp [this]
      simp [lookup, hk, lookup_of_mem hs h]

theorem mem_entries_iff {m : SortedMap κ ν} {k : κ} {v : ν} : (k, v) ∈ m.entries ↔ m.get? k = some v :=
  ⟨lookup_of_mem m.sorted, mem_of_lookup⟩

theorem mem_keys_iff {m : SortedMap κ ν} {k : κ} : k ∈ m.keys ↔ (m.get? k).isSome = true := by
  simp only [keys, List.mem_map, Prod.exists, exists_and_right, exists_eq_right, mem_entries_iff, Option.isSome_iff_exists]

omit [Std.LawfulEqOrd κ] in
theorem nodup_keys (m : SortedMap κ ν) : m.keys.Nodup := by
  refine List.Pairwise.map _ (fun a b hlt heq => ?_) m.sorted
  simp [heq] at hlt

/-- A value is in the list exactly when some key looks it up. -/
theorem mem_values_iff {m : SortedMap κ ν} {v : ν} : v ∈ m.values ↔ ∃ k, m.get? k = some v := by
  simp only [values, List.mem_map, Prod.exists, exists_eq_right, mem_entries_iff]

omit [Std.TransOrd κ] [Std.LawfulEqOrd κ] in
/-- A new key adds one entry. -/
theorem perm_put (k : κ) (v : ν) :
    ∀ {l : List (κ × ν)}, lookup k l = none → (put k v l).Perm ((k, v) :: l)
  | [], _ => List.Perm.refl _
  | (k', v') :: rest, h => by
    unfold put
    split
    · exact List.Perm.refl _
    · rename_i e; simp [lookup, e] at h
    · rename_i e
      have hrest : lookup k rest = none := by simpa [lookup, e] using h
      exact ((perm_put k v hrest).cons _).trans (List.Perm.swap ..)

theorem get?_filter (m : SortedMap κ ν) (p : κ → ν → Bool) (k : κ) :
    (m.filter p).get? k = (m.get? k).filter (p k) := by
  ext v
  rw [← mem_entries_iff, Option.filter_eq_some_iff, ← mem_entries_iff]
  exact List.mem_filter

theorem get?_mapValues {ω : Type} (m : SortedMap κ ν) (f : κ → ν → ω) (k : κ) :
    (m.mapValues f).get? k = (m.get? k).map (f k) := by
  ext w
  rw [← mem_entries_iff, Option.map_eq_some_iff]
  constructor
  · intro h
    obtain ⟨⟨k', v⟩, hv, he⟩ := List.mem_map.1 h
    cases he
    exact ⟨v, mem_entries_iff.1 hv, rfl⟩
  · rintro ⟨v, hv, rfl⟩
    exact List.mem_map.2 ⟨(k, v), mem_entries_iff.2 hv, rfl⟩

theorem perm_insert {m : SortedMap κ ν} {k : κ} {v : ν} (h : m.get? k = none) :
    (m.insert k v).entries.Perm ((k, v) :: m.entries) := perm_put k v h

theorem get?_erase_self (m : SortedMap κ ν) (k : κ) : (m.erase k).get? k = none := by
  rw [erase, get?_filter]
  simp

theorem get?_erase_of_ne (m : SortedMap κ ν) {k q : κ} (h : q ≠ k) : (m.erase k).get? q = m.get? q := by
  rw [erase, get?_filter]
  cases m.get? q <;> simp [Ne.symm h]

/-- An insertion puts the entry to those with other keys. -/
theorem perm_insert_erase (m : SortedMap κ ν) (k : κ) (v : ν) :
    (m.insert k v).entries.Perm ((k, v) :: (m.erase k).entries) := by
  have hsame : (m.erase k).insert k v = m.insert k v := by
    refine ext_get? fun q => ?_
    by_cases hq : q = k
    · subst hq
      rw [get?_insert_self, get?_insert_self]
    · rw [get?_insert_of_ne _ _ hq, get?_insert_of_ne _ _ hq, get?_erase_of_ne m hq]
  rw [← hsame]
  exact perm_insert (get?_erase_self m k)

theorem size_insert_of_new {m : SortedMap κ ν} {k : κ} (v : ν) (h : m.get? k = none) :
    (m.insert k v).size = m.size + 1 := (perm_insert h).length_eq

theorem size_insert_of_get? {m : SortedMap κ ν} {k : κ} {old : ν} (v : ν) (h : m.get? k = some old) :
    (m.insert k v).size = m.size := by
  have hnew := (m.perm_insert_erase k v).length_eq
  have hold := (m.perm_insert_erase k old).length_eq
  rw [insert_of_get? h] at hold
  exact hnew.trans hold.symm

/-- The last entry is the one with the largest key. -/
theorem of_last?_eq_some {m : SortedMap κ ν} {k : κ} {v : ν} (h : m.last? = some (k, v)) :
    m.get? k = some v ∧ ∀ q w, m.get? q = some w → compare k q ≠ .lt := by
  obtain ⟨init, hentries⟩ := List.getLast?_eq_some_iff.1 h
  refine ⟨mem_entries_iff.1 (hentries ▸ List.mem_append_right _ List.mem_cons_self), ?_⟩
  intro q w hq
  have hmem := mem_entries_iff.2 hq
  have hsorted := m.sorted
  rw [hentries] at hmem hsorted
  rcases List.mem_append.1 hmem with hmem | hmem
  · have hlt := (List.pairwise_append.1 hsorted).2.2 _ hmem _ List.mem_cons_self
    simp [Std.OrientedCmp.gt_of_lt hlt]
  · cases List.mem_singleton.1 hmem
    simp

/-- Of the entries with a key, the last one counts. -/
theorem get?_ofList [BEq κ] [LawfulBEq κ] (l : List (κ × ν)) (k : κ) :
    (ofList l).get? k = (l.reverse.find? (·.1 == k)).map (·.2) := by
  induction l using List.reverseRecOn with
  | nil => rfl
  | append_singleton l e ih =>
    have hstep : ofList (l ++ [e]) = (ofList l).insert e.1 e.2 := by simp [ofList]
    rw [hstep]
    by_cases hk : e.1 = k
    · subst hk
      simp
    · rw [get?_insert_of_ne _ _ (Ne.symm hk), ih]
      simp [hk]

theorem mem_of_mem_ofList [BEq κ] [LawfulBEq κ] {l : List (κ × ν)} {e : κ × ν} (h : e ∈ (ofList l).entries) : e ∈ l := by
  obtain ⟨k, v⟩ := e
  rw [mem_entries_iff, get?_ofList, Option.map_eq_some_iff] at h
  obtain ⟨⟨k', w⟩, hfound, rfl⟩ := h
  have hkey := List.find?_some hfound
  rw [beq_iff_eq] at hkey
  subst hkey
  exact List.mem_reverse.1 (List.mem_of_find?_eq_some hfound)

theorem ofList_entries [BEq κ] [LawfulBEq κ] (m : SortedMap κ ν) : ofList m.entries = m := by
  refine ext_get? fun k => ?_
  ext v
  rw [← mem_entries_iff, ← mem_entries_iff]
  refine ⟨mem_of_mem_ofList, fun hv => ?_⟩
  rw [mem_entries_iff, get?_ofList, Option.map_eq_some_iff]
  cases hfound : m.entries.reverse.find? (·.1 == k) with
  | none => simpa using List.find?_eq_none.1 hfound (k, v) (List.mem_reverse.2 hv)
  | some e =>
    obtain ⟨k', w⟩ := e
    have hkey := List.find?_some hfound
    rw [beq_iff_eq] at hkey
    subst hkey
    have hw := mem_entries_iff.1 (List.mem_reverse.1 (List.mem_of_find?_eq_some hfound))
    rw [mem_entries_iff.1 hv] at hw
    exact ⟨_, rfl, (Option.some.inj hw).symm⟩

end

end TuningAdvisor.SortedMap
