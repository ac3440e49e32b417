/-!
# Sorted maps: `IntervalMap`, `DependencyValues` and the stores

A finite map as the list of its entries with strictly increasing keys. **A sorted map is determined
by its look-ups** (`SortedMap.ext_get?`), so two maps that were filled in different orders are equal
as soon as they hold the same entries.
-/

namespace TuningAdvisor

/-- Entries with strictly increasing keys. -/
structure SortedMap (κ : Type) (ν : Type) [Ord κ] where
  entries : List (κ × ν)
  sorted : entries.Pairwise (fun a b => compare a.1 b.1 = .lt)

namespace SortedMap

variable {κ ν : Type} [Ord κ]

@[ext] theorem ext {m n : SortedMap κ ν} (h : m.entries = n.entries) : m = n := by
  cases m
  cases n
  simp_all

def empty : SortedMap κ ν := ⟨[], .nil⟩

instance : EmptyCollection (SortedMap κ ν) := ⟨empty⟩

instance : Inhabited (SortedMap κ ν) := ⟨empty⟩

def keys (m : SortedMap κ ν) : List κ := m.entries.map (·.1)

def values (m : SortedMap κ ν) : List ν := m.entries.map (·.2)

def size (m : SortedMap κ ν) : Nat := m.entries.length

def isEmpty (m : SortedMap κ ν) : Bool := m.entries.isEmpty

def lookup (k : κ) : List (κ × ν) → Option ν
  | [] => none
  | (k', v) :: rest => if compare k k' = .eq then some v else lookup k rest

def get? (m : SortedMap κ ν) (k : κ) : Option ν := lookup k m.entries

def contains (m : SortedMap κ ν) (k : κ) : Bool := (m.get? k).isSome

/-- The entry with the largest key. -/
def last? (m : SortedMap κ ν) : Option (κ × ν) := m.entries.getLast?

/-- A list of entries with the value under a key set. -/
def put (k : κ) (v : ν) : List (κ × ν) → List (κ × ν)
  | [] => [(k, v)]
  | (k', v') :: rest =>
    match compare k k' with
    | .lt => (k, v) :: (k', v') :: rest
    | .eq => (k, v) :: rest
    | .gt => (k', v') :: put k v rest

theorem mem_put {k : κ} {v : ν} {e : κ × ν} {l : List (κ × ν)} (h : e ∈ put k v l) :
    e = (k, v) ∨ e ∈ l := by
  induction l with
  | nil => simpa [put] using h
  | cons hd tl ih =>
    obtain ⟨k', v'⟩ := hd
    unfold put at h
    split at h
    · simpa using h
    · rcases List.mem_cons.1 h with h | h
      · exact .inl h
      · exact .inr (List.mem_cons_of_mem _ h)
    · rcases List.mem_cons.1 h with h | h
      · exact .inr (h ▸ List.mem_cons_self)
      · exact (ih h).imp_right (List.mem_cons_of_mem _)

variable [Std.TransOrd κ] [Std.LawfulEqOrd κ]

theorem put_sorted {k : κ} {v : ν} {l : List (κ × ν)}
    (h : l.Pairwise (fun a b => compare a.1 b.1 = .lt)) :
    (put k v l).Pairwise (fun a b => compare a.1 b.1 = .lt) := by
  induction l with
  | nil => simp [put]
  | cons hd tl ih =>
    obtain ⟨k', v'⟩ := hd
    have hd_lt := (List.pairwise_cons.1 h).1
    have tl_sorted := (List.pairwise_cons.1 h).2
    unfold put
    split
    · rename_i hlt
      refine List.pairwise_cons.2 ⟨fun e he => ?_, h⟩
      rcases List.mem_cons.1 he with rfl | he
      · exact hlt
      · exact Std.TransCmp.lt_trans hlt (hd_lt e he)
    · rename_i heq
      cases Std.LawfulEqOrd.eq_of_compare heq
      exact List.pairwise_cons.2 ⟨hd_lt, tl_sorted⟩
    · rename_i hgt
      refine List.pairwise_cons.2 ⟨fun e he => ?_, ih tl_sorted⟩
      rcases mem_put he with rfl | he
      · exact Std.OrientedCmp.lt_of_gt hgt
      · exact hd_lt e he

def insert (m : SortedMap κ ν) (k : κ) (v : ν) : SortedMap κ ν :=
  ⟨put k v m.entries, put_sorted m.sorted⟩

def filter (m : SortedMap κ ν) (p : κ → ν → Bool) : SortedMap κ ν :=
  ⟨m.entries.filter fun e => p e.1 e.2, m.sorted.sublist List.filter_sublist⟩

def erase (m : SortedMap κ ν) (k : κ) : SortedMap κ ν := m.filter fun k' _ => compare k k' != .eq

def mapValues {ω : Type} (m : SortedMap κ ν) (f : κ → ν → ω) : SortedMap κ ω :=
  ⟨m.entries.map fun e => (e.1, f e.1 e.2), List.pairwise_map.2 m.sorted⟩

/-- The map of a list of entries; of those with one key the last counts. -/
def ofList (l : List (κ × ν)) : SortedMap κ ν := l.foldl (fun m e => m.insert e.1 e.2) empty

/-! ## Look-ups -/

theorem lookup_put (k q : κ) (v : ν) (l : List (κ × ν)) :
    lookup q (put k v l) = if compare q k = .eq then some v else lookup q l := by
  induction l with
  | nil => simp [put, lookup]
  | cons hd tl ih =>
    obtain ⟨k', v'⟩ := hd
    unfold put
    split
    · rfl
    · rename_i heq
      cases Std.LawfulEqOrd.eq_of_compare heq
      by_cases h : compare q k = .eq <;> simp [lookup, h]
    · rename_i hgt
      by_cases h : compare q k' = .eq
      · have hq : compare q k ≠ .eq := by
          cases Std.LawfulEqOrd.eq_of_compare h
          simp [Std.OrientedCmp.lt_of_gt hgt]
        simp [lookup, h, hq]
      · simp [lookup, h, ih]

@[simp] theorem get?_insert (m : SortedMap κ ν) (k q : κ) (v : ν) :
    (m.insert k v).get? q = if compare q k = .eq then some v else m.get? q :=
  lookup_put k q v m.entries

omit [Std.TransOrd κ] [Std.LawfulEqOrd κ] in
@[simp] theorem get?_empty (q : κ) : (empty : SortedMap κ ν).get? q = none := rfl

omit [Std.TransOrd κ] [Std.LawfulEqOrd κ] in
/-- A key below all keys has no value. -/
theorem lookup_eq_none {k : κ} {l : List (κ × ν)} (h : ∀ e ∈ l, compare k e.1 = .lt) :
    lookup k l = none := by
  induction l with
  | nil => rfl
  | cons hd tl ih =>
    have hk : compare k hd.1 ≠ .eq := by simp [h hd List.mem_cons_self]
    simp [lookup, hk, ih fun e he => h e (List.mem_cons_of_mem _ he)]

/-- Sorted lists of entries with the same look-ups are equal. -/
theorem eq_of_lookup_eq {l₁ l₂ : List (κ × ν)}
    (h₁ : l₁.Pairwise (fun a b => compare a.1 b.1 = .lt))
    (h₂ : l₂.Pairwise (fun a b => compare a.1 b.1 = .lt))
    (h : ∀ k, lookup k l₁ = lookup k l₂) : l₁ = l₂ := by
  induction l₁ generalizing l₂ with
  | nil =>
    cases l₂ with
    | nil => rfl
    | cons e _ => simpa [lookup] using h e.1
  | cons e₁ t₁ ih =>
    obtain ⟨k₁, v₁⟩ := e₁
    have below₁ := (List.pairwise_cons.1 h₁).1
    cases l₂ with
    | nil => simpa [lookup] using h k₁
    | cons e₂ t₂ =>
      obtain ⟨k₂, v₂⟩ := e₂
      have below₂ := (List.pairwise_cons.1 h₂).1
      cases hk : compare k₁ k₂ with
      | lt =>
        have absent : lookup k₁ t₂ = none :=
          lookup_eq_none fun e he => Std.TransCmp.lt_trans hk (below₂ e he)
        have := h k₁
        simp [lookup, hk, absent] at this
      | gt =>
        have hk' : compare k₂ k₁ = .lt := Std.OrientedCmp.lt_of_gt hk
        have absent : lookup k₂ t₁ = none :=
          lookup_eq_none fun e he => Std.TransCmp.lt_trans hk' (below₁ e he)
        have := h k₂
        simp [lookup, hk', absent] at this
      | eq =>
        cases Std.LawfulEqOrd.eq_of_compare hk
        have hv : v₁ = v₂ := by simpa [lookup] using h k₁
        have ht : t₁ = t₂ := by
          refine ih (List.pairwise_cons.1 h₁).2 (List.pairwise_cons.1 h₂).2 fun k => ?_
          by_cases hkk : compare k k₁ = .eq
          · cases Std.LawfulEqOrd.eq_of_compare hkk
            rw [lookup_eq_none below₁, lookup_eq_none below₂]
          · simpa [lookup, hkk] using h k
        rw [hv, ht]

/-- Maps with the same look-ups are equal. -/
theorem ext_get? {m n : SortedMap κ ν} (h : ∀ k, m.get? k = n.get? k) : m = n :=
  ext (eq_of_lookup_eq m.sorted n.sorted h)

end SortedMap

end TuningAdvisor
