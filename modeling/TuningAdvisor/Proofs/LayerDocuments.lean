import Mathlib
import TuningAdvisor.Proofs.RoundTrip
import TuningAdvisor.Proofs.SizedDocuments
/-!
# Layers and tunables that are read back: `RawTunable` and `LayerDefinition`

A tunable is written with the fields of its kind of domain alone, and under the first name of its type. Reading it
applies the rules of the domain once more: **what is written of a tunable that was read keeps to them, and reads as
that tunable** (`Layer.read_back_of_sized`). The rule by which a container has a layer is told by the one field that it has.
-/

namespace TuningAdvisor

open Record (reads_required reads_defaulted reads_optional_text reads_optional_float reads_someText reads_someItems reads_someEntries)
open Doc (someText someItems someEntries present)
open Rounding (holds_of_isFinite not_le_of_lt)

/-! ## Domains -/

namespace TunableDomain

/-- A domain fits a type: choices for the categorical one, and a range with a step for the others. -/
inductive Fits : ValueType → TunableDomain → Prop where
  | numeric {type : ValueType} {lower upper step : Float} (htype : type.isNumeric = true) (hstep : (step == 0.0) = false)
      (hbounds : lower ≤ upper) : Fits type (.numeric lower upper step)
  | categorical {choices : List String} (hchoices : choices ≠ []) : Fits .categorical (.categorical choices)

/-- The numbers of the domain are finite. -/
def Finite : TunableDomain → Prop
  | .numeric lower upper step => lower.isFinite = true ∧ upper.isFinite = true ∧ step.isFinite = true
  | .categorical _ => True

end TunableDomain

/-- A tunable with a domain of its type. -/
structure Tunable.Valid (t : Tunable) : Prop where
  fits : t.domain.Fits t.valueType
  finite : t.domain.Finite

/-- A layer whose level has 32 bits, with tunables that are valid. -/
structure Layer.Valid (l : Layer) : Prop where
  level : l.level ≤ maxNat32
  tunables : ∀ t ∈ l.tunables, t.Valid

/-! ## What is read -/

namespace WrittenTunable

/-- The numbers that were written are finite. -/
structure Finite (w : WrittenTunable) : Prop where
  upper : ∀ x ∈ w.upper, x.isFinite = true
  lower : ∀ x ∈ w.lower, x.isFinite = true
  step : ∀ x ∈ w.step, x.isFinite = true

theorem yields_finite (name : String) : (record.decoder name).Yields Finite Doc.Sized := by
  refine Record.Yields.decoder ?_ _
  -- the numbers are the third, fourth and fifth of eleven fields
  refine .seq_any (.seq_any (.seq_any (.seq_any (.seq_any (.seq_any ?_ _) _) _) _) _) _
  have hnumber (field : String) := Record.yields_optional field Decode.yields_float
  refine .seq (.seq (.seq (.seq_any (Record.yields_map _ ?_) _) (hnumber _)) (hnumber _)) (hnumber _)
  exact fun _ _ _ hupper _ hlower _ hstep _ _ _ _ _ _ => ⟨hupper, hlower, hstep⟩

theorem fits_of_range? {name : String} {type : ValueType} {lower upper step : Float} {domain : TunableDomain}
    (htype : type.isNumeric = true) (hlower : lower.isFinite = true) (hupper : upper.isFinite = true)
    (hstep : step.isFinite = true) (h : TunableDomain.range? name lower upper step = .ok domain) :
    domain.Fits type ∧ domain.Finite := by
  unfold TunableDomain.range? at h
  split_ifs at h with hzero hinverted
  cases h
  have hbounds : lower ≤ upper :=
    ((holds_of_isFinite hlower).le_iff (holds_of_isFinite hupper)).2
      (not_lt.1 fun hlt => hinverted (((holds_of_isFinite hupper).lt_iff (holds_of_isFinite hlower)).2 hlt))
  exact ⟨.numeric htype (by simpa using hzero) hbounds, hlower, hupper, hstep⟩

theorem fits_of_choice? {name : String} {choices : List String} {domain : TunableDomain}
    (h : TunableDomain.choice? name choices = .ok domain) : domain.Fits .categorical ∧ domain.Finite := by
  unfold TunableDomain.choice? at h
  split_ifs at h with hempty
  cases h
  exact ⟨.categorical (by simpa using hempty), trivial⟩

/-- The rules that a domain has to keep to are those of its type. -/
theorem fits_of_domain? {w : WrittenTunable} {type : ValueType} {domain : TunableDomain} (hw : w.Finite)
    (h : w.domain? type = .ok domain) : domain.Fits type ∧ domain.Finite := by
  unfold domain? at h
  dsimp only at h
  split at h
  · rename_i htype
    obtain ⟨lower, hlower, h⟩ := of_except_bind_ok h
    obtain ⟨upper, hupper, h⟩ := of_except_bind_ok h
    obtain ⟨step, hstep, h⟩ := of_except_bind_ok h
    refine fits_of_range? htype (hw.lower _ ?_) (hw.upper _ ?_) (hw.step _ ?_) h
    · cases hl : w.lower <;> simp_all
    · cases hu : w.upper <;> simp_all
    · cases hs : w.step <;> simp_all
  · rename_i htype
    have hcategorical : type = .categorical := by
      cases type <;> simp_all [ValueType.isNumeric]
    exact hcategorical ▸ fits_of_choice? h

theorem valid_of_tunable? {w : WrittenTunable} {t : Tunable} (hw : w.Finite) (h : w.tunable? = .ok t) : t.Valid := by
  unfold tunable? at h
  split at h
  · obtain ⟨domain, hdomain, h⟩ := of_except_bind_ok h
    cases h
    obtain ⟨hfits, hfinite⟩ := fits_of_domain? hw hdomain
    exact ⟨hfits, hfinite⟩
  · cases h

end WrittenTunable

theorem Tunable.yields_valid : Tunable.decode.Yields Tunable.Valid Doc.Sized := by
  refine (WrittenTunable.yields_finite _).refine fun w t hw ht => WrittenTunable.valid_of_tunable? hw ?_
  exact of_mapError_ok ht

theorem Layer.yields_valid : Layer.decode.Yields Layer.Valid Doc.Sized := by
  refine Record.Yields.decoder ?_ _
  refine .seq (.seq_any (.seq_any (.seq ?_ (Record.yields_required _ Decode.yields_nat32)) _) _)
    (Record.yields_required _ Tunable.yields_valid.list)
  exact Record.yields_map _ fun _ _ hlevel _ _ _ htunables => ⟨hlevel, htunables⟩

/-- Whatever text a layer is read from, its tunables keep to their rules. -/
theorem Layer.valid_of_text {text : String} {l : Layer} (h : Layer.decode.ofText text = .ok l) : l.Valid := by
  obtain ⟨d, hd, hl⟩ := Decoder.exists_sized_of_ofText h
  exact Layer.yields_valid d hd l hl

/-! ## What is written -/

theorem TunableId.reads_encode (id : TunableId) : TunableId.decode.Reads id.encode id := by
  have h : TunableId.record.Reads [("layer_name", some (.str id.layer)), ("tunable_name", some (.str id.name))] id :=
    ((reads_required rfl (Decode.reads_text id.layer)).map TunableId.mk).seq
      (reads_required rfl (Decode.reads_text id.name))
  exact h.decoder (by simp) _

namespace WrittenTunable

/-- The fields of a tunable that was written. -/
def fields (w : WrittenTunable) : List (String × Option Doc) :=
  [("name", some (.str w.name)), ("value_type", some (.str w.valueType)), ("upper_bound", w.upper.map .ofFloat),
    ("lower_bound", w.lower.map .ofFloat), ("step", w.step.map .ofFloat), ("choices", someItems .str w.choices),
    ("slo_class", some (.ofTexts w.sloClasses)), ("layer_name", someText w.layer),
    ("description", w.description.map .str), ("queries", someEntries .str w.queries),
    ("depends_on", someItems TunableId.encode w.dependsOn)]

theorem reads_fields {w : WrittenTunable} (h : w.Finite) : record.Reads w.fields w :=
  (reads_required rfl (Decode.reads_text w.name)).map WrittenTunable.mk
    |>.seq (reads_required rfl (Decode.reads_text w.valueType))
    |>.seq (reads_optional_float rfl h.upper)
    |>.seq (reads_optional_float rfl h.lower)
    |>.seq (reads_optional_float rfl h.step)
    |>.seq (reads_someItems rfl fun s _ => Decode.reads_text s)
    |>.seq (reads_defaulted rfl (Decode.reads_list fun s _ => Decode.reads_text s))
    |>.seq (reads_someText rfl)
    |>.seq (reads_optional_text rfl)
    |>.seq (reads_someEntries rfl fun e _ => Decode.reads_text e.2)
    |>.seq (reads_someItems rfl fun id _ => id.reads_encode)

end WrittenTunable

namespace Tunable

/-- A tunable as it is written: with the numbers or the choices of its domain. -/
def written (t : Tunable) : WrittenTunable :=
  let w : WrittenTunable :=
    { name := t.name, valueType := t.valueType.name, upper := none, lower := none, step := none, choices := [],
      sloClasses := t.sloClasses, layer := t.layer, description := t.description, queries := t.queries,
      dependsOn := t.dependsOn }
  match t.domain with
  | .numeric lower upper step => { w with upper := some upper, lower := some lower, step := some step }
  | .categorical choices => { w with choices }

theorem encode_eq (t : Tunable) : t.encode = .obj (present t.written.fields) := by
  unfold encode written
  rw [Doc.textField_eq, Doc.textsField_eq, Doc.itemsField_eq]
  cases t.domain <;> simp [WrittenTunable.fields, domainFields, Doc.itemsField_eq, someItems, Doc.optionalField]

theorem finite_written {t : Tunable} (h : t.domain.Finite) : t.written.Finite := by
  unfold written
  cases hdomain : t.domain with
  | numeric lower upper step =>
    rw [hdomain] at h
    exact ⟨by simpa using h.2.1, by simpa using h.1, by simpa using h.2.2⟩
  | categorical choices => exact ⟨by simp, by simp, by simp⟩

theorem ofName?_name (type : ValueType) : ValueType.ofName? type.name = some type := by
  cases type <;> decide +kernel

/-- The rules of the domain are kept by what is written of it. -/
theorem domain?_written {t : Tunable} (h : t.domain.Fits t.valueType) : t.written.domain? t.valueType = .ok t.domain := by
  obtain ⟨name, type, domain, sloClasses, layer, description, queries, dependsOn⟩ := t
  cases h with
  | @numeric _ lower upper step htype hstep hbounds =>
    have hinverted : ¬upper < lower := fun hlt => not_le_of_lt hlt hbounds
    have hrange : TunableDomain.range? name lower upper step = .ok (.numeric lower upper step) := by
      simp [TunableDomain.range?, hstep, hinverted]
    show (if type.isNumeric then TunableDomain.range? name lower upper step else _) = _
    rw [if_pos htype, hrange]
  | @categorical choices hchoices =>
    show TunableDomain.choice? name choices = _
    simp [TunableDomain.choice?, hchoices]

theorem tunable?_written {t : Tunable} (h : t.domain.Fits t.valueType) : t.written.tunable? = .ok t := by
  have hname : ValueType.ofName? t.written.valueType = some t.valueType := by
    unfold written
    cases t.domain <;> exact ofName?_name t.valueType
  unfold WrittenTunable.tunable?
  rw [hname]
  dsimp only
  rw [domain?_written h]
  unfold written
  cases t with
  | mk _ _ domain => cases domain <;> rfl

/-- **What is written of a valid tunable reads as the tunable.** -/
theorem reads_encode {t : Tunable} (h : t.Valid) : Tunable.decode.Reads t.encode t := by
  have hfields := WrittenTunable.reads_fields (finite_written h.finite)
  rw [encode_eq]
  refine Decode.reads_refine (hfields.decoder (by simp [WrittenTunable.fields]) _) ?_
  rw [tunable?_written h.fits]
  rfl

end Tunable

/-! ## Presence rules -/

theorem LayerQuery.reads_encode (q : LayerQuery) : LayerQuery.decode.Reads q.encode q := by
  have h : LayerQuery.record.Reads
      [("datasource", some (.str q.datasource)), ("query", some (.str q.query)), ("key", some (.str q.key))] q :=
    (reads_defaulted rfl (Decode.reads_text q.datasource)).map LayerQuery.mk
      |>.seq (reads_defaulted rfl (Decode.reads_text q.query))
      |>.seq (reads_required rfl (Decode.reads_text q.key))
  exact h.decoder (by simp) _

theorem LayerLabel.reads_encode (l : LayerLabel) : LayerLabel.decode.Reads l.encode l := by
  have h : LayerLabel.record.Reads [("name", some (.str l.name)), ("value", some (.str l.value))] l :=
    ((reads_required rfl (Decode.reads_text l.name)).map LayerLabel.mk).seq
      (reads_required rfl (Decode.reads_text l.value))
  exact h.decoder (by simp) _

namespace Presence

/-- A rule is read by the one form that asks for its field, since the forms before it miss theirs. -/
theorem reads_encode (p : Presence) : Presence.decode.Reads p.encode p := by
  cases p with
  | always presence =>
    have h : (Presence.always <$> Record.required "presence" Decode.text).Reads
        [("presence", some (.str presence))] (.always presence) :=
      (reads_required rfl (Decode.reads_text presence)).map _
    exact Decode.reads_oneOf_head (h.objectDecoder (by simp) _)
  | reported queries =>
    have h : (Presence.reported <$> Record.required "queries" (Decode.list LayerQuery.decode)).Reads
        [("queries", some (.arr (queries.map LayerQuery.encode)))] (.reported queries) :=
      (reads_required rfl (Decode.reads_list fun q _ => q.reads_encode)).map _
    refine Decode.reads_oneOf_tail (Record.refuses_missing (by simp) rfl _) ?_
    exact Decode.reads_oneOf_head (h.objectDecoder (by simp) _)
  | labelled labels =>
    have h : (Presence.labelled <$> Record.required "label" (Decode.list LayerLabel.decode)).Reads
        [("label", some (.arr (labels.map LayerLabel.encode)))] (.labelled labels) :=
      (reads_required rfl (Decode.reads_list fun l _ => l.reads_encode)).map _
    refine Decode.reads_oneOf_tail (Record.refuses_missing (by simp) rfl _) ?_
    refine Decode.reads_oneOf_tail (Record.refuses_missing (by simp) rfl _) ?_
    exact Decode.reads_oneOf_head (h.objectDecoder (by simp) _)

end Presence

/-! ## Layers -/

namespace Layer

/-- The fields of a layer. -/
def fields (l : Layer) : List (String × Option Doc) :=
  [("layer_name", some (.str l.name)), ("layer_level", some (.ofNat l.level)), ("details", l.details.map .str),
    ("layer_presence", some l.presence.encode), ("tunables", some (.arr (l.tunables.map Tunable.encode)))]

theorem encode_eq (l : Layer) : l.encode = .obj (present l.fields) := by
  simp [encode, fields, Doc.optionalField]

theorem reads_fields {l : Layer} (h : l.Valid) : Layer.record.Reads l.fields l :=
  (reads_required rfl (Decode.reads_text l.name)).map Layer.mk
    |>.seq (reads_required rfl (Decode.reads_nat32 h.level))
    |>.seq (reads_optional_text rfl)
    |>.seq (reads_required rfl l.presence.reads_encode)
    |>.seq (reads_required rfl (Decode.reads_list fun t ht => Tunable.reads_encode (h.tunables t ht)))

theorem reads_encode {l : Layer} (h : l.Valid) : Layer.decode.Reads l.encode l := by
  rw [encode_eq]
  exact (reads_fields h).decoder (by simp [fields]) _

/-- **Tunables and layers are read back from what is written of them**, its fields in the order of writing or sorted,
whatever spelling of its type and whichever rule a document had; and every tunable that is read has a domain of its type. -/
theorem read_back_of_sized {d : Doc} (hd : d.Sized) :
    (∀ t, Tunable.decode d = .ok t → t.Valid ∧ ∀ o, Tunable.decode (t.encode.arranged o) = .ok t) ∧
      ∀ l, Layer.decode d = .ok l → (∀ t ∈ l.tunables, t.Valid) ∧ ∀ o, Layer.decode (l.encode.arranged o) = .ok l := by
  refine ⟨fun t ht => ?_, fun l hl => ?_⟩
  · have hvalid := Tunable.yields_valid d hd t ht
    exact ⟨hvalid, Tunable.reads_encode hvalid⟩
  · have hvalid := Layer.yields_valid d hd l hl
    exact ⟨hvalid.tunables, reads_encode hvalid⟩

/-- A layer that is found by a label, with a range, its type in another spelling, and choices. -/
def exampleDocument : Doc :=
  .obj [("layer_name", .str "jvm"), ("layer_level", .int 2),
    ("layer_presence", .obj [("label", .arr [.obj [("name", .str "app"), ("value", .str "java")]])]),
    ("tunables", .arr [
      .obj [("name", .str "heap"), ("value_type", .str "LONG"), ("lower_bound", .int 10), ("upper_bound", .float 80.5),
        ("step", .int 1)],
      .obj [("name", .str "collector"), ("value_type", .str "categorical"), ("choices", .ofTexts ["serial", "parallel"])]])]

theorem exampleDocument_read_back : exampleDocument.Sized ∧ ∃ l, Layer.decode exampleDocument = .ok l ∧
    (∀ t ∈ l.tunables, t.Valid) ∧ ∀ o, Layer.decode (l.encode.arranged o) = .ok l := by
  have hsized : exampleDocument.Sized := by simp [exampleDocument, Doc.ofTexts, minInt64, maxNat64]
  have hread : (Layer.decode exampleDocument).toOption.isSome = true := by decide +kernel
  obtain ⟨l, hl⟩ := Option.isSome_iff_exists.1 hread
  have hl := of_toOption_eq_some hl
  exact ⟨hsized, l, hl, (read_back_of_sized hsized).2 l hl⟩

end Layer

end TuningAdvisor
