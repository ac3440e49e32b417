import Mathlib
import TuningAdvisor.Document.Located
import TuningAdvisor.Proofs.Decoding
import TuningAdvisor.Proofs.FloatBits
/-!
# Whole numbers that fit: what `load_profiles_from_dir` and `parse_documents` read

A document keeps a whole number exactly, but only one that fits 64 bits, with its sign or without one (`Doc.Sized`).
**Every document that a text is read as is of that kind**, since other numbers are read as floats, and from such a document
**a number is read as a finite one**.
-/

namespace TuningAdvisor

/-! ## Documents -/

/-- Every whole number in the document fits 64 bits. -/
inductive Doc.Sized : Doc → Prop where
  | null : Sized .null
  | bool (b : Bool) : Sized (.bool b)
  | int {n : Int} (low : minInt64 ≤ n) (high : n ≤ maxNat64) : Sized (.int n)
  | float (x : Float) : Sized (.float x)
  | str (s : String) : Sized (.str s)
  | arr {items : List Doc} (h : ∀ d ∈ items, Sized d) : Sized (.arr items)
  | obj {fields : List (String × Doc)} (h : ∀ f ∈ fields, Sized f.2) : Sized (.obj fields)

instance : Doc.Hereditary Doc.Sized where
  items h := by
    cases h
    assumption
  fields h := by
    cases h
    assumption

namespace Doc

@[simp] theorem sized_null : null.Sized := .null

@[simp] theorem sized_bool (b : Bool) : (bool b).Sized := .bool b

@[simp] theorem sized_float (x : Float) : (float x).Sized := .float x

@[simp] theorem sized_str (s : String) : (str s).Sized := .str s

@[simp] theorem sized_int {n : Int} : (int n).Sized ↔ minInt64 ≤ n ∧ n ≤ maxNat64 :=
  ⟨fun | .int low high => ⟨low, high⟩, fun h => .int h.1 h.2⟩

@[simp] theorem sized_arr {items : List Doc} : (arr items).Sized ↔ ∀ d ∈ items, d.Sized :=
  ⟨Hereditary.items, .arr⟩

@[simp] theorem sized_obj {fields : List (String × Doc)} : (obj fields).Sized ↔ ∀ f ∈ fields, f.2.Sized :=
  ⟨Hereditary.fields, .obj⟩

end Doc

/-! ## Texts -/

theorem Numeral.appendDigits_le (cs : List Char) (significand count : Nat) (h : significand ≤ maxSignificand) :
    (appendDigits significand count cs).1.1 ≤ maxSignificand := by
  induction cs generalizing significand count with
  | nil => exact h
  | cons c rest ih =>
    unfold appendDigits
    dsimp only
    split
    · split
      · exact h
      · exact ih _ _ (by omega)
    · exact h

theorem Numeral.sized_whole (negative : Bool) {significand : Nat} (h : significand ≤ maxSignificand) :
    (whole negative significand).Sized := by
  have hmax : (significand : Int) ≤ maxNat64 := Int.ofNat_le.2 h
  have hmin : minInt64 ≤ 0 := by decide
  unfold whole
  split
  · split
    · exact .float _
    · exact .int (by omega) (by omega)
  · exact .int (by omega) hmax

namespace Reader

/-- A value that is read is sized. -/
def SizedRead (read : Except Misread (Doc × Cursor)) : Prop := ∀ d next, read = .ok (d, next) → d.Sized

theorem SizedRead.error (why : Misread) : SizedRead (.error why) := fun _ _ h => by cases h

theorem SizedRead.ok {d : Doc} (h : d.Sized) (next : Cursor) : SizedRead (.ok (d, next)) := by
  rintro _ _ ⟨⟩
  exact h

theorem SizedRead.map {α : Type} {f : α → Doc × Cursor} (h : ∀ a, (f a).1.Sized) (read : Except Misread α) :
    SizedRead (f <$> read) := by
  cases read with
  | error why => exact .error why
  | ok a => exact .ok (h a) _

theorem sized_numberOf (negative : Bool) (significand : Nat) (exponent : Int) (next : Cursor) :
    SizedRead (numberOf negative significand exponent next) := by
  unfold numberOf
  split
  · exact .ok (.float _) _
  · exact .error _

theorem sized_exponentPart (negative : Bool) (significand : Nat) (exponent : Int) (c : Cursor) :
    SizedRead (exponentPart negative significand exponent c) := by
  unfold exponentPart
  dsimp only
  -- the sign of the exponent does not matter
  split
  all_goals
    dsimp only
    split
    · exact .error _
    · split
      · exact .error _
      · split
        · split
          · exact .error _
          · exact .ok (.float _) _
        · exact sized_numberOf _ _ _ _

theorem sized_afterDigits (negative : Bool) (significand : Nat) (exponent : Int) (c : Cursor) :
    SizedRead (afterDigits negative significand exponent c) := by
  unfold afterDigits
  split
  · exact sized_exponentPart _ _ _ _
  · exact sized_exponentPart _ _ _ _
  · exact sized_numberOf _ _ _ _

theorem sized_fractionPart (negative : Bool) (significand : Nat) (exponent : Int) (c : Cursor) :
    SizedRead (fractionPart negative significand exponent c) := by
  unfold fractionPart
  dsimp only
  split
  · exact .error _
  · exact sized_afterDigits _ _ _ _

theorem sized_number (negative : Bool) (c : Cursor) : SizedRead (number negative c) := by
  unfold number
  split
  · exact .error _
  · split_ifs
    · exact .error _
    · exact .error _
    · dsimp only
      split
      · exact sized_fractionPart _ _ _ _
      · exact sized_exponentPart _ _ _ _
      · exact sized_exponentPart _ _ _ _
      · split
        · exact .ok (Numeral.sized_whole _ (Numeral.appendDigits_le _ 0 0 (Nat.zero_le _))) _
        · exact sized_numberOf _ _ _ _

theorem sized_scalar (c : Cursor) : SizedRead (scalar c) := by
  unfold scalar
  split
  · exact .error _
  · exact .map (fun _ => .null) _
  · exact .map (fun _ => .bool _) _
  · exact .map (fun _ => .bool _) _
  · exact .map (fun _ => .str _) _
  · exact sized_number _ _
  · split
    · exact sized_number _ _
    · exact .error _

/-! ### Layouts -/

theorem sized_reading {read : Except Misread (Doc × Cursor)} (h : SizedRead read) (start : Cursor) :
    (Reading.scalar start read).layout.toDoc.Sized := by
  unfold Reading.scalar
  split
  · exact h _ _ rfl
  · exact .float _

theorem sized_itemDocs {items : List Layout} (h : ∀ l ∈ items, l.toDoc.Sized) :
    ∀ d ∈ Layout.itemDocs items, d.Sized := by
  induction items with
  | nil => simp [Layout.itemDocs]
  | cons l rest ih =>
    rw [List.forall_mem_cons] at h
    rw [Layout.itemDocs, List.forall_mem_cons]
    exact ⟨h.1, ih h.2⟩

theorem sized_entryDocs {entries : List (FieldName × Layout)} (h : ∀ e ∈ entries, e.2.toDoc.Sized) :
    ∀ f ∈ Layout.entryDocs entries, f.2.Sized := by
  induction entries with
  | nil => simp [Layout.entryDocs]
  | cons e rest ih =>
    rw [List.forall_mem_cons] at h
    rw [Layout.entryDocs, List.forall_mem_cons]
    exact ⟨h.1, ih h.2⟩

/-- What is read with some fuel is sized, in each of the four ways of reading. -/
structure Fits (fuel : Nat) : Prop where
  value : ∀ depth shape c, (value fuel depth shape c).layout.toDoc.Sized
  enclosedName : ∀ depth c, ∀ e ∈ (enclosedName fuel depth c).1, e.2.toDoc.Sized
  items : ∀ depth shape i c, ∀ l ∈ (items fuel depth shape i c).1, l.toDoc.Sized
  entries : ∀ depth shape first c, ∀ e ∈ (entries fuel depth shape first c).1, e.2.toDoc.Sized

theorem fits_zero : Fits 0 where
  value _ _ _ := by
    unfold Reader.value
    exact .float _
  enclosedName _ _ := by simp [Reader.enclosedName]
  items _ _ _ _ := by simp [Reader.items]
  entries _ _ _ _ := by simp [Reader.entries]

/-- A value that was skipped stands for no number. -/
theorem sized_unread : Layout.unread.toDoc.Sized := .float _

theorem Fits.succ {fuel : Nat} (h : Fits fuel) : Fits (fuel + 1) where
  value depth shape c := by
    unfold Reader.value
    dsimp only
    split
    · exact sized_unread
    · exact sized_reading (sized_scalar _) _
    · exact h.value ..
    · exact sized_reading (sized_scalar _) _
    · exact .obj (sized_entryDocs (h.enclosedName _ _))
    · exact sized_unread
    · exact sized_unread
    · split
      · exact sized_unread
      · exact .arr (sized_itemDocs (h.items _ _ _ _))
    · split
      · exact sized_unread
      · exact .obj (sized_entryDocs (h.entries _ _ _ _))
    · exact sized_reading (sized_scalar _) _
  enclosedName depth c := by
    unfold Reader.enclosedName
    split
    · simp
    · split
      · simp
      · simpa using sized_unread
      · simpa using h.value ..
  items depth shape i c := by
    unfold Reader.items
    split
    · simp
    · split
      · simp
      · simp
      · dsimp only
        split
        · simpa using h.value ..
        · rw [List.forall_mem_cons]
          exact ⟨h.value .., h.items _ _ _ _⟩
  entries depth shape first c := by
    unfold Reader.entries
    split
    · simp
    · simp
    · split
      · simp
      · simpa using sized_unread
      · dsimp only
        split
        · simpa using h.value ..
        · rw [List.forall_mem_cons]
          exact ⟨h.value .., h.entries _ _ _ _⟩

theorem fits (fuel : Nat) : Fits fuel := by
  induction fuel with
  | zero => exact fits_zero
  | succ fuel ih => exact ih.succ

end Reader

/-- **What is read of a text is sized**, however far it is read. -/
theorem Layout.sized_ofText (shape : Shape) (text : String) : (Layout.ofText shape text).1.toDoc.Sized := by
  unfold Layout.ofText
  dsimp only
  split <;> exact (Reader.fits _).value ..

/-- A value from a text is one from a sized document. -/
theorem Decoder.exists_sized_of_ofText {α : Type} {decoder : Decoder α} {text : String} {v : α}
    (h : decoder.ofText text = .ok v) : ∃ d : Doc, d.Sized ∧ decoder d = .ok v := by
  have hsized := Layout.sized_ofText decoder.shape text
  unfold Decoder.ofText at h
  dsimp only at h
  split at h
  · cases h
  · rename_i w hw
    split at h
    · cases h
    · cases h
      exact ⟨_, hsized, hw⟩

/-! ## Numbers -/

namespace Decode

/-- A number from a sized document is finite. -/
theorem yields_float : float.Yields (fun x => x.isFinite = true) Doc.Sized := by
  intro d hd x hx
  unfold float at hx
  dsimp only at hx
  split at hx
  · rename_i n
    cases hx
    cases hd with
    | int low high =>
      have hsmall : |n| < 2 ^ 64 := by
        rw [abs_lt]
        unfold minInt64 at low
        unfold maxNat64 at high
        omega
      obtain ⟨v, -, hv⟩ := Rounding.exists_nearest_ofInt hsmall
      exact hv.isFinite
  · split at hx
    · rename_i hfinite
      cases hx
      exact hfinite
    · cases hx
  · cases hx

variable {S : Doc → Prop}

theorem yields_whole (name : String) (low high : Int) :
    (whole name low high).Yields (fun n => low ≤ n ∧ n ≤ high) S := by
  intro d _ n hn
  unfold whole at hn
  dsimp only at hn
  split at hn
  · split at hn
    · rename_i hrange
      cases hn
      exact hrange
    · cases hn
  · cases hn

theorem yields_nat32 : nat32.Yields (fun n => n ≤ maxNat32) S :=
  (yields_whole "u32" 0 maxNat32).image fun n hn => by omega

theorem yields_nat16 : nat16.Yields (fun n => n ≤ maxNat16) S :=
  (yields_whole "u16" 0 maxNat16).image fun n hn => by omega

end Decode

end TuningAdvisor
