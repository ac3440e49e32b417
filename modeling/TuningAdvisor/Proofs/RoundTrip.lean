import Mathlib
import TuningAdvisor.Layer.Document
import TuningAdvisor.Proofs.SortedMap
/-!
# Documents that read as a value: the records of `LayerDefinition` and `Experiment`

A decoder reads a document as a value whether the fields of its objects stand as they were written or sorted by name,
as they do in a document that is kept as a value (`Decoder.Reads`). **Reading follows the way a decoder is put
together**: a record reads the fields that are there, one by one, and a list, a map or a union whatever its parts
read. What each encoder writes is brought into the form of fields that are there or not (`Doc.present`), so that
a round trip only has to name the fields.
-/

namespace TuningAdvisor

/-! ## Fields in either order -/

section
variable {ν : Type} {l m : List (String × ν)} {k : String} {v : ν}

/-- Where names are distinct, a field is found exactly if it is there. -/
theorem lookup_eq_some_iff_mem (h : (l.map (·.1)).Nodup) : l.lookup k = some v ↔ (k, v) ∈ l := by
  induction l with
  | nil => simp
  | cons e rest ih =>
    obtain ⟨name, w⟩ := e
    rw [List.map_cons, List.nodup_cons] at h
    by_cases hk : k = name
    · subst hk
      have hnone : (k, v) ∉ rest := fun hv => h.1 (List.mem_map_of_mem (f := (·.1)) hv)
      simp [List.lookup, hnone, eq_comm]
    · have hne : (k == name) = false := by simpa using hk
      simp [List.lookup, hne, hk, ih h.2]

theorem lookup_eq_of_perm (h : l.Perm m) (hl : (l.map (·.1)).Nodup) : l.lookup k = m.lookup k := by
  ext v
  rw [lookup_eq_some_iff_mem hl, lookup_eq_some_iff_mem ((h.map _).nodup_iff.1 hl), h.mem_iff]

theorem lookup_map_snd {ω : Type} (f : ν → ω) : (l.map fun e => (e.1, f e.2)).lookup k = (l.lookup k).map f := by
  induction l with
  | nil => rfl
  | cons e rest ih =>
    rw [List.map_cons, List.lookup_cons, List.lookup_cons, ih]
    split <;> rfl

end

namespace Doc

/-- How the fields of objects are ordered. -/
inductive FieldOrder where
  /-- As they were written. -/
  | written
  /-- By their names. -/
  | sorted
deriving DecidableEq, Repr

/-- A document with the fields of its objects in an order. -/
def arranged : FieldOrder → Doc → Doc
  | .written, d => d
  | .sorted, d => d.canonical

/-- The fields of an object in an order. -/
def arrangedFields : FieldOrder → List (String × Doc) → List (String × Doc)
  | .written, fields => fields
  | .sorted, fields => canonicalFields fields []

section
variable (o : FieldOrder)

@[simp] theorem arranged_null : null.arranged o = null := by cases o <;> rfl

@[simp] theorem arranged_bool (b : Bool) : (bool b).arranged o = bool b := by cases o <;> rfl

@[simp] theorem arranged_int (n : Int) : (int n).arranged o = int n := by cases o <;> rfl

@[simp] theorem arranged_float (x : Float) : (float x).arranged o = float x := by cases o <;> rfl

@[simp] theorem arranged_str (s : String) : (str s).arranged o = str s := by cases o <;> rfl

theorem canonicalItems_eq (items : List Doc) : canonicalItems items = items.map canonical := by
  induction items with
  | nil => rfl
  | cons d rest ih => rw [canonicalItems, ih, List.map_cons]

@[simp] theorem arranged_arr (items : List Doc) : (arr items).arranged o = arr (items.map (arranged o)) := by
  cases o with
  | written => exact congrArg arr (List.map_id _).symm
  | sorted => rw [arranged, canonical, canonicalItems_eq]; rfl

@[simp] theorem arranged_obj (fields : List (String × Doc)) :
    (obj fields).arranged o = obj (arrangedFields o fields) := by
  cases o with
  | written => rfl
  | sorted => rw [arranged, canonical, arrangedFields]

end

/-! ### Sorting -/

/-- A field of a new name is added. -/
theorem putField_perm {name : String} (d : Doc) {fields : List (String × Doc)} (h : name ∉ fields.map (·.1)) :
    (putField name d fields).Perm ((name, d) :: fields) := by
  induction fields with
  | nil => rfl
  | cons f rest ih =>
    obtain ⟨other, e⟩ := f
    rw [List.map_cons, List.mem_cons, not_or] at h
    unfold putField
    split
    · exact .refl _
    · rename_i heq
      exact absurd (Std.LawfulEqOrd.eq_of_compare heq) h.1
    · exact ((ih h.2).cons _).trans (.swap ..)

theorem canonicalFields_perm {fields : List (String × Doc)} (sorted : List (String × Doc))
    (h : ((fields ++ sorted).map (·.1)).Nodup) :
    (canonicalFields fields sorted).Perm ((fields.map fun f => (f.1, f.2.canonical)) ++ sorted) := by
  induction fields generalizing sorted with
  | nil => rw [canonicalFields]; exact .refl _
  | cons f rest ih =>
    obtain ⟨name, d⟩ := f
    simp only [List.cons_append, List.map_cons, List.nodup_cons, List.map_append, List.mem_append, not_or] at h
    obtain ⟨⟨hrest, hsorted⟩, hnodup⟩ := h
    have hput := putField_perm d.canonical hsorted
    have hput' : (rest ++ putField name d.canonical sorted).Perm ((name, d.canonical) :: (rest ++ sorted)) :=
      (hput.append_left rest).trans List.perm_middle
    rw [canonicalFields]
    refine (ih _ ?_).trans ((hput.append_left _).trans List.perm_middle)
    rw [(hput'.map _).nodup_iff]
    simp [hrest, hsorted, hnodup]

theorem putField_of_last {name : String} (d : Doc) {fields : List (String × Doc)}
    (h : ∀ f ∈ fields, compare name f.1 = .gt) : putField name d fields = fields ++ [(name, d)] := by
  induction fields with
  | nil => rfl
  | cons f rest ih =>
    obtain ⟨other, e⟩ := f
    rw [List.forall_mem_cons] at h
    simp [putField, h.1, ih h.2]

/-- Sorted fields stay where they are. -/
theorem canonicalFields_of_sorted {fields : List (String × Doc)} (sorted : List (String × Doc))
    (h : (sorted ++ fields).Pairwise fun a b => compare a.1 b.1 = .lt) :
    canonicalFields fields sorted = sorted ++ fields.map fun f => (f.1, f.2.canonical) := by
  induction fields generalizing sorted with
  | nil => rw [canonicalFields]; simp
  | cons f rest ih =>
    obtain ⟨name, d⟩ := f
    have hlast : ∀ g ∈ sorted, compare name g.1 = .gt := fun g hg =>
      Std.OrientedCmp.gt_of_lt ((List.pairwise_append.1 h).2.2 g hg (name, d) List.mem_cons_self)
    have hnext : (sorted ++ [(name, d.canonical)] ++ rest).Pairwise fun a b => compare a.1 b.1 = .lt := by
      rw [List.append_assoc, List.singleton_append]
      rw [List.pairwise_append, List.pairwise_cons] at h ⊢
      simpa using h
    rw [canonicalFields, putField_of_last d.canonical hlast, ih _ hnext, List.append_assoc]
    rfl

section
variable {o : FieldOrder} {fields : List (String × Doc)}

theorem arrangedFields_perm (h : (fields.map (·.1)).Nodup) :
    (arrangedFields o fields).Perm (fields.map fun f => (f.1, f.2.arranged o)) := by
  cases o with
  | written => simp [arrangedFields, arranged]
  | sorted =>
    have hperm := canonicalFields_perm [] (by simpa using h)
    rwa [List.append_nil] at hperm

theorem arrangedFields_of_sorted (h : fields.Pairwise fun a b => compare a.1 b.1 = .lt) :
    arrangedFields o fields = fields.map fun f => (f.1, f.2.arranged o) := by
  cases o with
  | written => simp [arrangedFields, arranged]
  | sorted => exact canonicalFields_of_sorted [] (by simpa using h)

theorem nodup_arrangedFields (h : (fields.map (·.1)).Nodup) : ((arrangedFields o fields).map (·.1)).Nodup := by
  rw [((arrangedFields_perm h).map _).nodup_iff, List.map_map]
  exact h

theorem lookup_arrangedFields (h : (fields.map (·.1)).Nodup) (name : String) :
    (arrangedFields o fields).lookup name = (fields.lookup name).map (arranged o) := by
  rw [lookup_eq_of_perm (arrangedFields_perm h) (nodup_arrangedFields h), lookup_map_snd]

end

/-! ### Fields that are there or not -/

/-- The fields that are there. -/
def present (fields : List (String × Option Doc)) : List (String × Doc) :=
  fields.flatMap fun f => optionalField f.1 f.2

@[simp] theorem present_nil : present [] = [] := rfl

@[simp] theorem present_cons (name : String) (value : Option Doc) (rest : List (String × Option Doc)) :
    present ((name, value) :: rest) = optionalField name value ++ present rest := rfl

/-- The items of a list, if it has any. -/
def someItems {α : Type} (encode : α → Doc) (items : List α) : Option Doc :=
  if items.isEmpty then none else some (.arr (items.map encode))

/-- The entries of a map, if it has any. -/
def someEntries {α : Type} (encode : α → Doc) (m : SortedMap String α) : Option Doc :=
  if m.isEmpty then none else some (.obj (m.entries.map fun e => (e.1, encode e.2)))

/-- A text, unless it is empty. -/
def someText (s : String) : Option Doc := if s = "" then none else some (.str s)

theorem itemsField_eq {α : Type} (name : String) (encode : α → Doc) (items : List α) :
    itemsField name encode items = optionalField name (someItems encode items) := by
  unfold itemsField someItems
  split <;> rfl

theorem textField_eq (name text : String) : textField name text = optionalField name (someText text) := by
  unfold textField someText
  split <;> rfl

theorem textsField_eq (name : String) (m : SortedMap String String) :
    textsField name m = optionalField name (someEntries .str m) := by
  unfold textsField someEntries
  split <;> rfl

theorem map_fst_present_sublist (fields : List (String × Option Doc)) :
    ((present fields).map (·.1)).Sublist (fields.map (·.1)) := by
  induction fields with
  | nil => exact .refl _
  | cons f rest ih =>
    obtain ⟨name, value⟩ := f
    cases value with
    | none => exact ih.cons _
    | some d => exact ih.cons_cons _

theorem mem_present {fields : List (String × Option Doc)} {name : String} {d : Doc} :
    (name, d) ∈ present fields ↔ (name, some d) ∈ fields := by
  rw [present, List.mem_flatMap]
  constructor
  · rintro ⟨⟨other, value⟩, hf, hd⟩
    cases value with
    | none => cases hd
    | some e =>
      cases List.mem_singleton.1 hd
      exact hf
  · exact fun hf => ⟨_, hf, List.mem_singleton.2 rfl⟩

theorem lookup_present {fields : List (String × Option Doc)} (h : (fields.map (·.1)).Nodup) (name : String) :
    (present fields).lookup name = (fields.lookup name).join := by
  ext d
  rw [lookup_eq_some_iff_mem (h.sublist (map_fst_present_sublist fields)), mem_present, Option.join_eq_some_iff,
    lookup_eq_some_iff_mem h]

end Doc

/-! ## Decoders -/

section
variable {α β : Type} {decoder : Decoder α} {d : Doc} {v : α}

/-- The document is read as the value, in either order of its fields. -/
def Decoder.Reads (decoder : Decoder α) (d : Doc) (v : α) : Prop := ∀ o, decoder (d.arranged o) = .ok v

theorem Decoder.Reads.map (h : decoder.Reads d v) (f : α → β) : (f <$> decoder).Reads d (f v) := by
  intro o
  show f <$> decoder (d.arranged o) = .ok (f v)
  rw [h o]
  rfl

namespace Decode

theorem reads_text (s : String) : text.Reads (.str s) s := fun o => by rw [Doc.arranged_str]; rfl

theorem reads_bool (b : Bool) : bool.Reads (.bool b) b := fun o => by rw [Doc.arranged_bool]; rfl

theorem reads_float {x : Float} (h : x.isFinite = true) : float.Reads (.ofFloat x) x := by
  intro o
  simp [Doc.ofFloat, float, h]

theorem reads_whole (name : String) {low high n : Int} (h : low ≤ n ∧ n ≤ high) : (whole name low high).Reads (.int n) n := by
  intro o
  simp [whole, h]

theorem reads_nat32 {n : Nat} (h : n ≤ maxNat32) : nat32.Reads (.ofNat n) n := by
  have hwhole : (whole "u32" 0 maxNat32).Reads (.int n) n := reads_whole _ (by omega)
  exact hwhole.map Int.toNat

theorem reads_nat16 {n : Nat} (h : n ≤ maxNat16) : nat16.Reads (.ofNat n) n := by
  have hwhole : (whole "u16" 0 maxNat16).Reads (.int n) n := reads_whole _ (by omega)
  exact hwhole.map Int.toNat

theorem reads_optional (hd : d ≠ .null) (h : decoder.Reads d v) : (optional decoder).Reads d (some v) := by
  intro o
  have hne : d.arranged o ≠ .null := by cases d <;> simp_all
  unfold optional
  dsimp only
  split
  · rename_i hnull
    exact absurd hnull hne
  · rw [h o]
    rfl

theorem reads_null : (optional decoder).Reads .null none := fun o => by rw [Doc.arranged_null]; rfl

theorem reads_variant {names : List (String × α)} {s : String} (h : names.lookup s = some v) :
    (variant names).Reads (.str s) v := by
  intro o
  simp [variant, h]

theorem reads_refine {rule : α → Except String β} {w : β} (h : decoder.Reads d v) (hw : rule v = .ok w) :
    (refine decoder rule).Reads d w := by
  intro o
  simp [refine, h o, hw]

theorem reads_oneOf_head {union : String} {forms : List (Decoder α)} (h : decoder.Reads d v) :
    (oneOf union (decoder :: forms)).Reads d v := by
  intro o
  simp [oneOf, h o, Except.toOption]

/-- A form that is refused leaves the document to those behind it. -/
theorem reads_oneOf_tail {union : String} {forms : List (Decoder α)} {form : Decoder α}
    (hform : ∀ o, ∃ f, form (d.arranged o) = .error f) (h : (oneOf union forms).Reads d v) :
    (oneOf union (form :: forms)).Reads d v := by
  intro o
  obtain ⟨f, hf⟩ := hform o
  have hrest := h o
  simp only [oneOf, List.findSome?_cons, hf] at hrest ⊢
  exact hrest

/-- The items may be read as less than was written. -/
theorem reads_list_image {encode : β → Doc} {f : β → α} {vs : List β} (h : ∀ v ∈ vs, decoder.Reads (encode v) (f v)) :
    (list decoder).Reads (.arr (vs.map encode)) (vs.map f) := by
  intro o
  have hitems : ∀ (vs : List β) (i : Nat), (∀ v ∈ vs, decoder.Reads (encode v) (f v)) →
      itemsFrom decoder i ((vs.map encode).map (Doc.arranged o)) = .ok (vs.map f) := by
    intro vs
    induction vs with
    | nil => exact fun _ _ => rfl
    | cons v vs ih =>
      intro i h
      rw [List.forall_mem_cons] at h
      simp only [List.map_cons, itemsFrom, h.1 o, ih (i + 1) h.2]
  rw [Doc.arranged_arr]
  exact hitems vs 0 h

theorem reads_list {encode : α → Doc} {vs : List α} (h : ∀ v ∈ vs, decoder.Reads (encode v) v) :
    (list decoder).Reads (.arr (vs.map encode)) vs := by
  have himage := reads_list_image (f := fun v => v) h
  rwa [List.map_id'] at himage

theorem reads_map {encode : α → Doc} {m : SortedMap String α} (h : ∀ e ∈ m.entries, decoder.Reads (encode e.2) e.2) :
    (map decoder).Reads (.obj (m.entries.map fun e => (e.1, encode e.2))) m := by
  intro o
  have hfields : ∀ (entries : List (String × α)) (i : Nat), (∀ e ∈ entries, decoder.Reads (encode e.2) e.2) →
      fieldsFrom decoder i ((entries.map fun e => (e.1, encode e.2)).map fun f => (f.1, f.2.arranged o)) =
        .ok entries := by
    intro entries
    induction entries with
    | nil => exact fun _ _ => rfl
    | cons e entries ih =>
      intro i h
      rw [List.forall_mem_cons] at h
      simp only [List.map_cons, fieldsFrom, h.1 o, ih (i + 1) h.2]
  rw [Doc.arranged_obj, Doc.arrangedFields_of_sorted (List.pairwise_map.2 m.sorted)]
  simp only [map, hfields m.entries 0 h, SortedMap.ofList_entries]

end Decode

/-! ## Records -/

namespace Record

variable {r : Record α} {fields : List (String × Option Doc)} {name : String}

/-- The record is built from the fields that are there, in either order of the fields in them. -/
def Reads (r : Record α) (fields : List (String × Option Doc)) (v : α) : Prop :=
  ∀ (o : Doc.FieldOrder) (found : List FoundField),
    (∀ name, (found.lookup name).map (·.2) = (fields.lookup name).join.map (Doc.arranged o)) → r.build found = .ok v

theorem Reads.map (h : r.Reads fields v) (f : α → β) : (f <$> r).Reads fields (f v) := by
  intro o found hfound
  show f <$> r.build found = .ok (f v)
  rw [h o found hfound]
  rfl

theorem Reads.seq {f : Record (α → β)} {g : α → β} (hf : f.Reads fields g) (h : r.Reads fields v) :
    (f <*> r).Reads fields (g v) := by
  intro o found hfound
  show (f.build found >>= fun g => r.build found >>= fun v => pure (g v)) = .ok (g v)
  rw [hf o found hfound, h o found hfound]
  rfl

theorem reads_field_some {absence : Absence} {absent : Option α} (hfield : fields.lookup name = some (some d))
    (h : decoder.Reads d v) : (field name absence decoder absent).Reads fields v := by
  intro o found hfound
  have hname : (found.lookup name).map (·.2) = some (d.arranged o) := by
    rw [hfound name, hfield]
    rfl
  obtain ⟨⟨i, e⟩, hlookup, rfl⟩ := Option.map_eq_some_iff.1 hname
  have hread := h o
  simp_all [field, Except.mapError]

theorem reads_field_none {absence : Absence} (hfield : fields.lookup name = some none) :
    (field name absence decoder (some v)).Reads fields v := by
  intro o found hfound
  have hname := hfound name
  rw [hfield] at hname
  simp only [field, Option.map_eq_none_iff.1 hname]

theorem reads_required (hfield : fields.lookup name = some (some d)) (h : decoder.Reads d v) :
    (required name decoder).Reads fields v := reads_field_some hfield h

/-- A field that is always written. -/
theorem reads_defaulted {default : α} (hfield : fields.lookup name = some (some d)) (h : decoder.Reads d v) :
    (defaulted name decoder default).Reads fields v := reads_field_some hfield h

/-- A field of which less is read than was written. -/
theorem reads_optional_image {β : Type} {encode : β → Doc} {f : β → α} {x : Option β}
    (hfield : fields.lookup name = some (x.map encode)) (h : ∀ v, x = some v → encode v ≠ .null ∧ decoder.Reads (encode v) (f v)) :
    (optional name decoder).Reads fields (x.map f) := by
  cases x with
  | none => exact reads_field_none hfield
  | some v => exact reads_field_some hfield (Decode.reads_optional (h v rfl).1 (h v rfl).2)

theorem reads_optional {encode : α → Doc} {x : Option α} (hfield : fields.lookup name = some (x.map encode))
    (h : ∀ v, x = some v → encode v ≠ .null ∧ decoder.Reads (encode v) v) : (optional name decoder).Reads fields x := by
  have himage := reads_optional_image (f := fun v => v) hfield h
  rwa [Option.map_id'] at himage

theorem reads_optional_text {x : Option String} (hfield : fields.lookup name = some (x.map .str)) :
    (optional name Decode.text).Reads fields x :=
  reads_optional hfield fun s _ => ⟨by simp, Decode.reads_text s⟩

theorem reads_optional_float {x : Option Float} (hfield : fields.lookup name = some (x.map .ofFloat))
    (h : ∀ v ∈ x, v.isFinite = true) : (optional name Decode.float).Reads fields x :=
  reads_optional hfield fun v hv => ⟨by simp [Doc.ofFloat, h v hv], Decode.reads_float (h v hv)⟩

/-- A text that is left out where it is empty. -/
theorem reads_someText {s : String} (hfield : fields.lookup name = some (Doc.someText s)) :
    (defaulted name Decode.text "").Reads fields s := by
  by_cases hs : s = ""
  · rw [Doc.someText, if_pos hs] at hfield
    exact hs ▸ reads_field_none hfield
  · rw [Doc.someText, if_neg hs] at hfield
    exact reads_field_some hfield (Decode.reads_text s)

/-- A list that is left out where it is empty. -/
theorem reads_someItems {encode : α → Doc} {vs : List α} (hfield : fields.lookup name = some (Doc.someItems encode vs))
    (h : ∀ v ∈ vs, decoder.Reads (encode v) v) : (defaulted name (Decode.list decoder) []).Reads fields vs := by
  cases vs with
  | nil => exact reads_field_none hfield
  | cons v vs => exact reads_field_some hfield (Decode.reads_list h)

/-- A map that is left out where it is empty. -/
theorem reads_someEntries {encode : α → Doc} {m : SortedMap String α}
    (hfield : fields.lookup name = some (Doc.someEntries encode m))
    (h : ∀ e ∈ m.entries, decoder.Reads (encode e.2) e.2) : (defaulted name (Decode.map decoder) ∅).Reads fields m := by
  by_cases hempty : m.isEmpty = true
  · rw [Doc.someEntries, if_pos hempty] at hfield
    have hm : m = ∅ := SortedMap.ext (List.isEmpty_iff.1 hempty)
    exact hm ▸ reads_field_none hfield
  · rw [Doc.someEntries, if_neg hempty] at hfield
    exact reads_field_some hfield (Decode.reads_map h)

end Record

end

/-! ### The fields of an object -/

namespace Record

section
variable {α : Type} {r : Record α} {fields : List (String × Option Doc)} {v : α}

theorem lookup_numbered (l : List (String × Doc)) (name : String) :
    ((numbered l).lookup name).map (·.2) = l.lookup name := by
  have hfrom : ∀ (l : List (String × Doc)) (i : Nat),
      (((l.zipIdx i).map fun e => (e.1.1, e.2, e.1.2)).lookup name).map (·.2) = l.lookup name := by
    intro l
    induction l with
    | nil => exact fun _ => rfl
    | cons e rest ih =>
      intro i
      rw [List.zipIdx_cons, List.map_cons, List.lookup_cons, List.lookup_cons, ← ih (i + 1)]
      cases name == e.1 <;> rfl
  exact hfrom l 0

theorem map_fst_numbered (l : List (String × Doc)) : (numbered l).map (·.1) = l.map (·.1) := by
  rw [numbered, List.map_map]
  exact (List.map_map (f := Prod.fst) (g := Prod.fst)).symm.trans (by rw [List.zipIdx_map_fst])

theorem ofFields_numbered {l : List (String × Doc)} (hnames : (l.map (·.1)).Nodup)
    (hbuild : r.build (numbered l) = .ok v) : r.ofFields (numbered l) = .ok v := by
  have honce : hasDuplicate r.rules (numbered l) = false := by
    rw [hasDuplicate, List.any_eq_false]
    intro rule _
    have hcount := List.nodup_iff_count_le_one.1 hnames rule.name
    rw [← map_fst_numbered, List.count_eq_countP, List.countP_map, List.countP_eq_length_filter] at hcount
    rw [decide_eq_true_iff, not_lt]
    exact hcount
  simp [ofFields, hbuild, honce]

theorem Reads.ofFields (h : r.Reads fields v) (hnames : (fields.map (·.1)).Nodup) (o : Doc.FieldOrder) :
    r.ofFields (numbered (Doc.arrangedFields o (Doc.present fields))) = .ok v := by
  have hpresent := hnames.sublist (Doc.map_fst_present_sublist fields)
  refine ofFields_numbered (Doc.nodup_arrangedFields hpresent) (h o _ fun name => ?_)
  rw [lookup_numbered, Doc.lookup_arrangedFields hpresent, Doc.lookup_present hnames]

/-- **A record is read from an object with its fields.** -/
theorem Reads.decoder (h : r.Reads fields v) (hnames : (fields.map (·.1)).Nodup) (name : String) :
    (r.decoder name).Reads (.obj (Doc.present fields)) v := by
  intro o
  rw [Doc.arranged_obj]
  exact h.ofFields hnames o

/-- A record is refused where its field is missing. -/
theorem refuses_missing {β : Type} {f : α → β} {name : String} {decoder : Decoder α} {found : List (String × Doc)}
    (hnames : (found.map (·.1)).Nodup) (hmissing : found.lookup name = none) (record : String) (o : Doc.FieldOrder) :
    ∃ fault, (f <$> required name decoder).objectDecoder record ((Doc.obj found).arranged o) = .error fault := by
  have hnone : (numbered (Doc.arrangedFields o found)).lookup name = none := by
    have hlookup := lookup_numbered (Doc.arrangedFields o found) name
    rw [Doc.lookup_arrangedFields hnames, hmissing] at hlookup
    simpa using hlookup
  have hbuild : (f <$> required name decoder).build (numbered (Doc.arrangedFields o found)) =
      .error (.here (.missingField name)) := by
    show f <$> (required name decoder).build _ = _
    simp only [required, field, hnone]
    rfl
  rw [Doc.arranged_obj]
  simp only [objectDecoder, ofFields, hbuild]
  exact ⟨_, rfl⟩

theorem Reads.objectDecoder (h : r.Reads fields v) (hnames : (fields.map (·.1)).Nodup) (name : String) :
    (r.objectDecoder name).Reads (.obj (Doc.present fields)) v := by
  intro o
  rw [Doc.arranged_obj]
  exact h.ofFields hnames o

end

end Record

end TuningAdvisor
