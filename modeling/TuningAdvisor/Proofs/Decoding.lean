import TuningAdvisor.Document.Decoder
import TuningAdvisor.Proofs.Ingestion
import TuningAdvisor.Proofs.SortedMap
/-!
# What decoders yield: the rules of `RawTunable` and `number_or_string`

A property of all the values that a decoder can yield follows the way the decoder is put together: through the
fields of a record, the items of a list. **Only the fields that matter to the property have to be looked at.** Where the
documents keep to something that their parts keep to as well, the parts may be taken to.
-/

namespace TuningAdvisor

/-- What holds of a document holds of its items and its fields. -/
class Doc.Hereditary (S : Doc → Prop) : Prop where
  items {items : List Doc} : S (.arr items) → ∀ d ∈ items, S d
  fields {fields : List (String × Doc)} : S (.obj fields) → ∀ f ∈ fields, S f.2

variable {α β : Type} {P : α → Prop} {Q : β → Prop} {S : Doc → Prop}

/-- Every value that is yielded by documents that keep to `S` has a property. -/
def Decoder.Yields (decoder : Decoder α) (P : α → Prop) (S : Doc → Prop) : Prop :=
  ∀ d, S d → ∀ v, decoder d = .ok v → P v

namespace Record

/-- Every value that is built from documents that keep to `S` has a property. -/
def Yields (r : Record α) (P : α → Prop) (S : Doc → Prop) : Prop :=
  ∀ fields, (∀ f ∈ fields, S f.2.2) → ∀ v, r.build fields = .ok v → P v

/-- A first field that does not matter to the property. -/
theorem yields_map (r : Record α) {f : α → β} (hf : ∀ a, Q (f a)) : (f <$> r).Yields Q S := by
  intro fields _ b hb
  obtain ⟨a, -, rfl⟩ := of_except_map_ok (x := r.build fields) hb
  exact hf a

theorem Yields.seq {f : Record (α → β)} {r : Record α} (hf : f.Yields (fun g => ∀ a, P a → Q (g a)) S)
    (h : r.Yields P S) : (f <*> r).Yields Q S := by
  intro fields hfields b hb
  change (f.build fields >>= fun g => r.build fields >>= fun a => pure (g a)) = .ok b at hb
  obtain ⟨g, hg, hb⟩ := of_except_bind_ok hb
  obtain ⟨a, ha, hb⟩ := of_except_bind_ok hb
  cases hb
  exact hf fields hfields g hg a (h fields hfields a ha)

/-- A further field that does not matter to the property. -/
theorem Yields.seq_any {f : Record (α → β)} (hf : f.Yields (fun g => ∀ a, Q (g a)) S) (r : Record α) :
    (f <*> r).Yields Q S :=
  .seq (P := fun _ => True) (fun fields hfields g hg a _ => hf fields hfields g hg a) fun _ _ _ _ => trivial

theorem yields_field {decoder : Decoder α} (name : String) (absence : Absence) {absent : Option α}
    (h : decoder.Yields P S) (habsent : ∀ v ∈ absent, P v) : (field name absence decoder absent).Yields P S := by
  intro fields hfields v hv
  unfold field at hv
  dsimp only at hv
  split at hv
  · rename_i hfound
    obtain ⟨before, after, rfl, -⟩ := List.lookup_eq_some_iff.1 hfound
    exact h _ (hfields _ (List.mem_append_right _ List.mem_cons_self)) v (of_mapError_ok hv)
  · cases hv
    exact habsent _ rfl
  · cases hv

theorem yields_required {decoder : Decoder α} (name : String) (h : decoder.Yields P S) :
    (required name decoder).Yields P S := yields_field name _ h (by simp)

theorem yields_defaulted {decoder : Decoder α} (name : String) {default : α} (h : decoder.Yields P S)
    (hdefault : P default) : (defaulted name decoder default).Yields P S :=
  yields_field name _ h (by simpa using hdefault)

theorem mem_numbered {fields : List (String × Doc)} {f : FoundField} (h : f ∈ numbered fields) :
    (f.1, f.2.2) ∈ fields := by
  obtain ⟨⟨e, i⟩, he, rfl⟩ := List.mem_map.1 h
  exact List.fst_mem_of_mem_zipIdx he

/-- A record decoder yields what the record builds. -/
theorem Yields.decoder [Doc.Hereditary S] {r : Record α} (h : r.Yields P S) (name : String) :
    (r.decoder name).Yields P S := by
  intro d hd v hv
  unfold Record.decoder at hv
  dsimp only at hv
  split at hv
  · unfold ofFields at hv
    split at hv
    · rename_i hbuild
      split at hv
      · cases hv
      · cases hv
        exact h _ (fun f hf => Doc.Hereditary.fields hd _ (mem_numbered hf)) v hbuild
    · cases hv
  · unfold ofItems at hv
    split at hv
    · cases hv
    · split at hv
      · cases hv
      · exact h _ (fun f hf => Doc.Hereditary.items hd _ (List.of_mem_zip (mem_numbered hf)).2) v hv
  · cases hv

end Record

namespace Decode

theorem of_refine_ok {decoder : Decoder α} {rule : α → Except String β} {d : Doc} {b : β}
    (h : refine decoder rule d = .ok b) : ∃ a, decoder d = .ok a ∧ rule a = .ok b := by
  unfold refine at h
  dsimp only at h
  split at h
  · cases h
  · rename_i a ha
    split at h
    · rename_i hrefined
      cases h
      exact ⟨a, ha, hrefined⟩
    · cases h

theorem yields_itemsFrom {decoder : Decoder α} (h : decoder.Yields P S) :
    ∀ (docs : List Doc) (i : Nat) (vs : List α), (∀ d ∈ docs, S d) → itemsFrom decoder i docs = .ok vs → ∀ v ∈ vs, P v
  | [], _, _, _, hvs => by cases hvs; simp
  | d :: docs, i, vs, hdocs, hvs => by
    rw [List.forall_mem_cons] at hdocs
    unfold itemsFrom at hvs
    split at hvs
    · cases hvs
    · rename_i v hv
      split at hvs
      · cases hvs
      · rename_i rest hrest
        cases hvs
        rw [List.forall_mem_cons]
        exact ⟨h d hdocs.1 v hv, yields_itemsFrom h docs (i + 1) rest hdocs.2 hrest⟩

theorem yields_fieldsFrom {decoder : Decoder α} (h : decoder.Yields P S) :
    ∀ (fields : List (String × Doc)) (i : Nat) (entries : List (String × α)), (∀ f ∈ fields, S f.2) →
      fieldsFrom decoder i fields = .ok entries → ∀ e ∈ entries, P e.2
  | [], _, _, _, hentries => by cases hentries; simp
  | (name, d) :: fields, i, entries, hfields, hentries => by
    rw [List.forall_mem_cons] at hfields
    unfold fieldsFrom at hentries
    split at hentries
    · cases hentries
    · rename_i v hv
      split at hentries
      · cases hentries
      · rename_i rest hrest
        cases hentries
        rw [List.forall_mem_cons]
        exact ⟨h d hfields.1 v hv, yields_fieldsFrom h fields (i + 1) rest hfields.2 hrest⟩

end Decode

namespace Decoder.Yields

variable {decoder : Decoder α}

theorem list [Doc.Hereditary S] (h : decoder.Yields P S) : (Decode.list decoder).Yields (fun vs => ∀ v ∈ vs, P v) S := by
  intro d hd vs hvs
  unfold Decode.list at hvs
  dsimp only at hvs
  split at hvs
  · exact Decode.yields_itemsFrom h _ 0 vs (Doc.Hereditary.items hd) hvs
  · cases hvs

theorem map [Doc.Hereditary S] (h : decoder.Yields P S) :
    (Decode.map decoder).Yields (fun m => ∀ e ∈ m.entries, P e.2) S := by
  intro d hd m hm
  unfold Decode.map at hm
  dsimp only at hm
  split at hm
  · split at hm
    · cases hm
    · rename_i entries hentries
      cases hm
      exact fun e he => Decode.yields_fieldsFrom h _ 0 entries (Doc.Hereditary.fields hd) hentries e
        (SortedMap.mem_of_mem_ofList he)
  · cases hm

theorem image (h : decoder.Yields P S) {f : α → β} (hf : ∀ a, P a → Q (f a)) : (f <$> decoder).Yields Q S := by
  intro d hd b hb
  obtain ⟨a, ha, rfl⟩ := of_except_map_ok (x := decoder d) hb
  exact hf a (h d hd a ha)

theorem optional (h : decoder.Yields P S) : (Decode.optional decoder).Yields (fun x => ∀ v ∈ x, P v) S := by
  intro d hd x hx
  unfold Decode.optional at hx
  dsimp only at hx
  split at hx
  · cases hx
    simp
  · cases hv : decoder d with
    | error f => rw [hv] at hx; cases hx
    | ok v =>
      rw [hv] at hx
      cases hx
      rintro _ ⟨⟩
      exact h d hd v hv

theorem refine {rule : α → Except String β} (h : decoder.Yields P S) (hrule : ∀ a b, P a → rule a = .ok b → Q b) :
    (Decode.refine decoder rule).Yields Q S := by
  intro d hd b hb
  obtain ⟨a, ha, hrefined⟩ := Decode.of_refine_ok hb
  exact hrule a b (h d hd a ha) hrefined

end Decoder.Yields

theorem Record.yields_optional {decoder : Decoder α} (name : String) (h : decoder.Yields P S) :
    (optional name decoder).Yields (fun x => ∀ v ∈ x, P v) S := yields_defaulted name h.optional (by simp)

end TuningAdvisor
