import Mathlib.Data.String.Basic
import TuningAdvisor.Proofs.RequestOrder
import TuningAdvisor.Proofs.Texts
/-!
# Detection of layers: `LayerCatalog::detect_layers`

A rule is said of a history by the metrics and the labels that there are in its intervals (`Presence.Matches`). **The
layers of a container are those whose rule matches, each once, by level and then by name, but for the layers that a
label on their level puts aside** (`Catalog.detect_layers`). For a catalog that was filled one definition after the
other, only the last definition of each name counts.
-/

namespace TuningAdvisor

/-! ## Rules -/

namespace History

/-- Some interval has the metric. -/
def Measures (h : History) (metric : String) : Prop :=
  ∃ finish i, h.get? finish = some i ∧ (i.metric? metric).isSome = true

theorem measures_iff {h : History} {metric : String} :
    (h.values.any fun i => (i.metric? metric).isSome) = true ↔ h.Measures metric := by
  simp only [List.any_eq_true, SortedMap.mem_values_iff, Measures]
  constructor
  · rintro ⟨i, ⟨finish, hi⟩, hmetric⟩
    exact ⟨finish, i, hi, hmetric⟩
  · rintro ⟨finish, i, hi, hmetric⟩
    exact ⟨i, ⟨finish, hi⟩, hmetric⟩

instance (h : History) (metric : String) : Decidable (h.Measures metric) := decidable_of_iff _ measures_iff

/-- In some interval the metric has the label, its value containing the wanted part in any letter case. -/
def LabelledOn (h : History) (metric : String) (l : LayerLabel) : Prop :=
  ∃ finish i m value, h.get? finish = some i ∧ i.metric? metric = some m ∧ m.metadata.get? l.name = some value ∧
    (lowerText l.value).toList <:+: (lowerText value).toList

theorem LabelledOn.measures {h : History} {metric : String} {l : LayerLabel} (hlabel : h.LabelledOn metric l) :
    h.Measures metric := by
  obtain ⟨finish, i, m, value, hi, hm, -⟩ := hlabel
  exact ⟨finish, i, hi, by rw [hm]; rfl⟩

end History

namespace Presence

/-- What a rule asks of a history: nothing, the metric of one of the queries, or one of the labels on any metric. -/
def Matches (p : Presence) (h : History) : Prop :=
  match p with
  | .always _ => True
  | .reported queries => ∃ q ∈ queries, h.Measures q.key
  | .labelled labels => ∃ l ∈ labels, ∃ metric, h.LabelledOn metric l

theorem reported_holds_iff {queries : List LayerQuery} {h : History} :
    (Presence.reported queries).holds h = true ↔ ∃ q ∈ queries, h.Measures q.key := by
  simp only [holds, List.any_eq_true, ← History.measures_iff]
  constructor
  · rintro ⟨i, hi, q, hq, hmetric⟩
    exact ⟨q, hq, i, hi, hmetric⟩
  · rintro ⟨q, hq, i, hi, hmetric⟩
    exact ⟨i, hi, q, hq, hmetric⟩

theorem label_holds_iff {l : LayerLabel} {m : Measurement} : l.holds m = true ↔
    ∃ value, m.metadata.get? l.name = some value ∧ (lowerText l.value).toList <:+: (lowerText value).toList := by
  simp only [LayerLabel.holds, Option.any_eq_true, hasInfix_iff]

theorem labelled_holds_iff {labels : List LayerLabel} {h : History} :
    (Presence.labelled labels).holds h = true ↔ ∃ l ∈ labels, ∃ metric, h.LabelledOn metric l := by
  simp only [holds, List.any_eq_true, Option.any_eq_true, SortedMap.mem_values_iff, label_holds_iff, History.LabelledOn]
  constructor
  · rintro ⟨i, ⟨finish, hi⟩, metrics, hmetrics, m, ⟨metric, hm⟩, l, hl, value, hvalue, hpart⟩
    refine ⟨l, hl, metric, finish, i, m, value, hi, ?_, hvalue, hpart⟩
    rw [Interval.metric?, hmetrics]
    exact hm
  · rintro ⟨l, hl, metric, finish, i, m, value, hi, hm, hvalue, hpart⟩
    obtain ⟨metrics, hmetrics, hm⟩ := Option.bind_eq_some_iff.1 hm
    exact ⟨i, ⟨finish, hi⟩, metrics, hmetrics, m, ⟨metric, hm⟩, l, hl, value, hvalue, hpart⟩

theorem holds_iff {p : Presence} {h : History} : p.holds h = true ↔ p.Matches h := by
  cases p with
  | always _ => exact iff_of_true rfl trivial
  | reported queries => exact reported_holds_iff
  | labelled labels => exact labelled_holds_iff

instance (p : Presence) (h : History) : Decidable (p.Matches h) := decidable_of_iff _ holds_iff

theorem match?_eq_some_iff {p : Presence} {h : History} {k : PresenceMatch} :
    p.match? h = some k ↔ p.Matches h ∧ k = p.kind := by
  unfold match?
  rw [← holds_iff]
  by_cases hp : p.holds h = true
  · rw [if_pos hp]
    simp [hp, eq_comm]
  · rw [if_neg hp]
    simp [hp]

end Presence

/-! ## What is found among layers -/

namespace Layer

variable {layers others : List Layer} {h : History} {l : Layer}

theorem inFront_iff {a b : Layer} :
    a.inFront b = true ↔ a.level < b.level ∨ (a.level = b.level ∧ a.name ≤ b.name) := by
  simp [inFront]

theorem inFront_trans (a b c : Layer) (hab : a.inFront b = true) (hbc : b.inFront c = true) : a.inFront c = true := by
  rw [inFront_iff] at *
  rcases hab with hab | ⟨hab, habName⟩ <;> rcases hbc with hbc | ⟨hbc, hbcName⟩
  · exact .inl (hab.trans hbc)
  · exact .inl (hbc ▸ hab)
  · exact .inl (hab ▸ hbc)
  · exact .inr ⟨hab.trans hbc, habName.trans hbcName⟩

theorem inFront_total (a b : Layer) : (a.inFront b || b.inFront a) = true := by
  rw [Bool.or_eq_true, inFront_iff, inFront_iff]
  rcases Nat.lt_trichotomy a.level b.level with hlt | heq | hlt
  · exact .inl (.inl hlt)
  · exact (le_total a.name b.name).imp (fun hle => .inr ⟨heq, hle⟩) fun hle => .inr ⟨heq.symm, hle⟩
  · exact .inr (.inl hlt)

theorem mem_matching {e : Layer × PresenceMatch} :
    e ∈ matching layers h ↔ e.1 ∈ layers ∧ e.1.presence.Matches h ∧ e.2 = e.1.presence.kind := by
  obtain ⟨l, k⟩ := e
  simp only [matching, List.mem_filterMap, Option.map_eq_some_iff, Prod.mk.injEq, Presence.match?_eq_some_iff]
  constructor
  · rintro ⟨l, hl, k, ⟨hmatches, rfl⟩, rfl, rfl⟩
    exact ⟨hl, hmatches, rfl⟩
  · rintro ⟨hl, hmatches, rfl⟩
    exact ⟨l, hl, _, ⟨hmatches, rfl⟩, rfl, rfl⟩

/-- A layer found by a query gives way to one of its level that is found by a label. -/
def Shadowed (layers : List Layer) (h : History) (l : Layer) : Prop :=
  l.presence.kind = .query ∧
    ∃ other ∈ layers, other.level = l.level ∧ other.presence.kind = .label ∧ other.presence.Matches h

theorem shadowed_iff {e : Layer × PresenceMatch} (he : e ∈ matching layers h) :
    shadowed (matching layers h) e = true ↔ Shadowed layers h e.1 := by
  obtain ⟨-, -, hkind⟩ := mem_matching.1 he
  simp only [shadowed, Bool.and_eq_true, beq_iff_eq, List.any_eq_true, hkind, Shadowed]
  refine and_congr_right fun _ => ⟨?_, ?_⟩
  · rintro ⟨other, hother, hlevel, hlabel⟩
    obtain ⟨hlayer, hmatches, hkind'⟩ := mem_matching.1 hother
    exact ⟨other.1, hlayer, hlevel, hkind' ▸ hlabel, hmatches⟩
  · rintro ⟨other, hlayer, hlevel, hlabel, hmatches⟩
    exact ⟨(other, .label), mem_matching.2 ⟨hlayer, hmatches, hlabel.symm⟩, hlevel, rfl⟩

theorem mem_detected : l ∈ detected layers h ↔ l ∈ layers ∧ l.presence.Matches h ∧ ¬Shadowed layers h l := by
  simp only [detected, List.mem_mergeSort, List.mem_map, List.mem_filter, Bool.not_eq_true']
  constructor
  · rintro ⟨e, ⟨he, hshown⟩, rfl⟩
    obtain ⟨hlayer, hmatches, -⟩ := mem_matching.1 he
    refine ⟨hlayer, hmatches, fun hway => ?_⟩
    rw [(shadowed_iff he).2 hway] at hshown
    cases hshown
  · rintro ⟨hlayer, hmatches, hstays⟩
    have he : (l, l.presence.kind) ∈ matching layers h := mem_matching.2 ⟨hlayer, hmatches, rfl⟩
    refine ⟨_, ⟨he, ?_⟩, rfl⟩
    rw [← Bool.not_eq_true, shadowed_iff he]
    exact hstays

theorem nodup_names_detected (hnames : (layers.map (·.name)).Nodup) (h : History) :
    ((detected layers h).map (·.name)).Nodup := by
  have hmatching : (matching layers h).Pairwise fun a b => a.1.name ≠ b.1.name := by
    refine List.Pairwise.filterMap _ (fun a b hab e he e' he' => ?_) (List.pairwise_map.1 hnames)
    obtain ⟨-, -, rfl⟩ := Option.map_eq_some_iff.1 he
    obtain ⟨-, -, rfl⟩ := Option.map_eq_some_iff.1 he'
    exact hab
  refine ((List.mergeSort_perm _ inFront).map _).nodup_iff.2 ?_
  exact List.pairwise_map.2 (List.pairwise_map.2 (hmatching.sublist List.filter_sublist))

/-- Layers of different names are found in a strict order. -/
theorem pairwise_detected (hnames : (layers.map (·.name)).Nodup) (h : History) :
    (detected layers h).Pairwise fun a b => a.level < b.level ∨ (a.level = b.level ∧ a.name < b.name) := by
  have hsorted : (detected layers h).Pairwise fun a b => a.inFront b = true :=
    List.pairwise_mergeSort inFront_trans inFront_total _
  refine (hsorted.and (List.pairwise_map.1 (nodup_names_detected hnames h))).imp fun {a b} hab => ?_
  obtain ⟨hfront, hname⟩ := hab
  exact (inFront_iff.1 hfront).imp_right fun hle => ⟨hle.1, lt_of_le_of_ne hle.2 hname⟩

/-- The order in which layers are looked at does not matter. -/
theorem detected_perm (hperm : others.Perm layers) (hnames : (layers.map (·.name)).Nodup) (h : History) :
    detected others h = detected layers h := by
  have hothers : (others.map (·.name)).Nodup := (hperm.map _).nodup_iff.2 hnames
  have hmem (l : Layer) : l ∈ detected others h ↔ l ∈ detected layers h := by
    simp only [mem_detected, Shadowed, hperm.mem_iff]
  have hfound : (detected others h).Perm (detected layers h) :=
    (List.perm_ext_iff_of_nodup (nodup_names_detected hothers h).of_map (nodup_names_detected hnames h).of_map).2 hmem
  refine hfound.eq_of_pairwise (fun a b _ _ hab hba => ?_) (pairwise_detected hothers h) (pairwise_detected hnames h)
  rcases hab with hlt | ⟨heq, hlt⟩ <;> rcases hba with hgt | ⟨_, hgt⟩
  · exact absurd hgt hlt.asymm
  · omega
  · omega
  · exact absurd hgt hlt.asymm

end Layer

/-! ## Definitions in turn -/

namespace Catalog

variable {layers : List Layer} {h : History} {l d : Layer}

/-- The catalog of definitions that were inserted one after the other. -/
def ofLayers (layers : List Layer) : Catalog := layers.foldl insert {}

/-- The last definition of a name. -/
def lastNamed? (layers : List Layer) (name : String) : Option Layer := layers.reverse.find? (·.name == name)

theorem name_of_lastNamed? {name : String} (hd : lastNamed? layers name = some d) : d.name = name := by
  simpa using List.find?_some hd

theorem get?_ofLayers (layers : List Layer) (name : String) :
    (ofLayers layers).get? name = (lastNamed? layers name).map Layer.adopted := by
  induction layers using List.reverseRecOn with
  | nil => rfl
  | append_singleton layers l ih =>
    have hstep : ofLayers (layers ++ [l]) = (ofLayers layers).insert l := by simp [ofLayers]
    rw [hstep, get?_insert, ih, lastNamed?, lastNamed?, List.reverse_append, List.reverse_singleton,
      List.singleton_append, List.find?_cons]
    by_cases hname : name = l.name
    · simp [hname]
    · rw [if_neg hname, beq_eq_false_iff_ne.2 (Ne.symm hname)]

/-- Only the last definitions count. -/
theorem ofLayers_congr {others : List Layer} (hlast : ∀ name, lastNamed? others name = lastNamed? layers name) :
    ofLayers others = ofLayers layers := by
  have hlayers : (ofLayers others).layers = (ofLayers layers).layers := by
    refine SortedMap.ext_get? fun name => ?_
    have hothers := get?_ofLayers others name
    rw [hlast, ← get?_ofLayers] at hothers
    exact hothers
  exact congrArg Catalog.mk hlayers

/-- The layers of the catalog are the last definitions, with their tunables adopted. -/
theorem mem_values_ofLayers : l ∈ (ofLayers layers).layers.values ↔
    ∃ d, lastNamed? layers d.name = some d ∧ l = d.adopted := by
  rw [SortedMap.mem_values_iff]
  constructor
  · rintro ⟨name, hl⟩
    rw [show (ofLayers layers).layers.get? name = _ from get?_ofLayers layers name] at hl
    obtain ⟨d, hd, rfl⟩ := Option.map_eq_some_iff.1 hl
    exact ⟨d, by rwa [name_of_lastNamed? hd], rfl⟩
  · rintro ⟨d, hd, rfl⟩
    refine ⟨d.name, ?_⟩
    rw [show (ofLayers layers).layers.get? d.name = _ from get?_ofLayers layers d.name, hd]
    rfl

theorem nodup_names_values (layers : List Layer) : ((ofLayers layers).layers.values.map (·.name)).Nodup := by
  have hnamed : ∀ e ∈ (ofLayers layers).layers.entries, e.2.name = e.1 := by
    rintro ⟨name, l⟩ he
    have hl := SortedMap.mem_entries_iff.1 he
    rw [show (ofLayers layers).layers.get? name = _ from get?_ofLayers layers name] at hl
    obtain ⟨d, hd, rfl⟩ := Option.map_eq_some_iff.1 hl
    show d.name = name
    exact name_of_lastNamed? hd
  have hkeys : (ofLayers layers).layers.values.map (·.name) = (ofLayers layers).layers.keys := by
    rw [SortedMap.values, SortedMap.keys, List.map_map]
    exact List.map_congr_left hnamed
  rw [hkeys]
  exact SortedMap.nodup_keys _

/-! ## What is found -/

/-- A layer found by a query gives way to one of its level that is found by a label. -/
def GivesWay (layers : List Layer) (h : History) (d : Layer) : Prop :=
  d.presence.kind = .query ∧ ∃ other, lastNamed? layers other.name = some other ∧ other.level = d.level ∧
    other.presence.kind = .label ∧ other.presence.Matches h

/-- What is found in a history, of layers that were defined one after the other. -/
structure Detects (layers : List Layer) (h : History) (found : List Layer) : Prop where
  /-- Each once, by level and then by name. -/
  ascend : found.Pairwise fun a b => a.level < b.level ∨ (a.level = b.level ∧ a.name < b.name)
  names : (found.map (·.name)).Nodup
  /-- The last definition of a name, if its rule matches and it does not give way. -/
  mem_iff : ∀ l, l ∈ found ↔
    ∃ d, lastNamed? layers d.name = some d ∧ l = d.adopted ∧ d.presence.Matches h ∧ ¬GivesWay layers h d

theorem shadowed_ofLayers_iff : Layer.Shadowed (ofLayers layers).layers.values h d.adopted ↔ GivesWay layers h d := by
  refine and_congr_right fun _ => ⟨?_, ?_⟩
  · rintro ⟨l, hl, hlevel, hlabel, hmatches⟩
    obtain ⟨other, hother, rfl⟩ := mem_values_ofLayers.1 hl
    exact ⟨other, hother, hlevel, hlabel, hmatches⟩
  · rintro ⟨other, hother, hlevel, hlabel, hmatches⟩
    exact ⟨other.adopted, mem_values_ofLayers.2 ⟨other, hother, rfl⟩, hlevel, hlabel, hmatches⟩

theorem mem_detect : l ∈ (ofLayers layers).detect h ↔
    ∃ d, lastNamed? layers d.name = some d ∧ l = d.adopted ∧ d.presence.Matches h ∧ ¬GivesWay layers h d := by
  rw [detect, Layer.mem_detected, mem_values_ofLayers]
  constructor
  · rintro ⟨⟨d, hd, rfl⟩, hmatches, hstays⟩
    exact ⟨d, hd, rfl, hmatches, shadowed_ofLayers_iff.not.1 hstays⟩
  · rintro ⟨d, hd, rfl, hmatches, hstays⟩
    exact ⟨⟨d, hd, rfl⟩, hmatches, shadowed_ofLayers_iff.not.2 hstays⟩

/-- **Detection is exact, and goes by the last definitions.** Of layers that were defined one after the other, those are
found whose rule matches the history, as the last definition of their name has it, but for a layer with queries where a
layer of its level is matched by a label. They come once each, by level and then by name; and definitions in another
order, or among others that are replaced later, lead to the same list. -/
theorem detect_layers (layers : List Layer) (h : History) :
    Detects layers h ((ofLayers layers).detect h) ∧
      ∀ others : List Layer, (∀ name, lastNamed? others name = lastNamed? layers name) →
        (ofLayers others).detect h = (ofLayers layers).detect h := by
  have hnames := nodup_names_values layers
  refine ⟨⟨Layer.pairwise_detected hnames h, Layer.nodup_names_detected hnames h, fun l => mem_detect⟩,
    fun others hlast => ?_⟩
  rw [ofLayers_congr hlast]

/-- A history with one interval, and one metric with one label in it. -/
def labelHistory (metric label value : String) : History :=
  .ofList [(⟨1664000900, 0, by decide⟩, ⟨⟨1664000000, 0, by decide⟩, ⟨1664000900, 0, by decide⟩,
    some (.ofList [(metric, { metadata := .ofList [(label, value)] })])⟩)]

/-- The layer for the runtime of one vendor, as it was defined before. -/
def earlierSemeru : Layer := { Layer.semeru with level := 3 }

/-- The runtime that is told by a label puts the other one aside, which is told by a query, on the level that the last
definition gives it. -/
theorem earlierSemeru_replaced :
    (∀ name, lastNamed? [Layer.semeru, Layer.hotspot] name = lastNamed? [earlierSemeru, Layer.hotspot, Layer.semeru] name) ∧
    (ofLayers [Layer.semeru, Layer.hotspot]).detect (labelHistory "jvmInfo" "runtime" "IBM Semeru") =
      (ofLayers [earlierSemeru, Layer.hotspot, Layer.semeru]).detect (labelHistory "jvmInfo" "runtime" "IBM Semeru") ∧
    ((ofLayers [earlierSemeru, Layer.hotspot, Layer.semeru]).detect
      (labelHistory "jvmInfo" "runtime" "IBM Semeru")).map (·.name) = ["semeru"] := by
  have hlast : ∀ name,
      lastNamed? [Layer.semeru, Layer.hotspot] name = lastNamed? [earlierSemeru, Layer.hotspot, Layer.semeru] name := by
    intro name
    by_cases hsemeru : LayerName.semeru = name
    · subst hsemeru
      rfl
    · have hother : (Layer.semeru.name == name) = false := beq_eq_false_iff_ne.2 hsemeru
      have hearlier : (earlierSemeru.name == name) = false := hother
      simp [lastNamed?, List.find?_cons, hother, hearlier]
  exact ⟨hlast, (detect_layers _ (labelHistory "jvmInfo" "runtime" "IBM Semeru")).2 _ hlast, by decide +kernel⟩

/-! ## The built-in layers -/

theorem lastNamed?_of_nodup (hnodup : (layers.map (·.name)).Nodup) :
    lastNamed? layers d.name = some d ↔ d ∈ layers := by
  unfold lastNamed?
  constructor
  · intro hd
    exact List.mem_reverse.1 (List.mem_of_find?_eq_some hd)
  · intro hd
    cases hfind : layers.reverse.find? (·.name == d.name) with
    | none =>
      have hnone := List.find?_eq_none.1 hfind d (List.mem_reverse.2 hd)
      simp at hnone
    | some d' =>
      have hmem := List.mem_reverse.1 (List.mem_of_find?_eq_some hfind)
      have hname : d'.name = d.name := by simpa using List.find?_some hfind
      rw [List.inj_on_of_nodup_map hnodup hmem hd hname]

theorem mem_detect_of_nodup (hnodup : (layers.map (·.name)).Nodup) (hd : d ∈ layers) :
    d.adopted ∈ (ofLayers layers).detect h ↔ d.presence.Matches h ∧ ¬GivesWay layers h d := by
  rw [mem_detect]
  constructor
  · rintro ⟨d', hd', hadopted, hfound⟩
    have hname : d.adopted.name = d'.adopted.name := congrArg Layer.name hadopted
    rw [show d'.name = d.name from hname.symm, (lastNamed?_of_nodup hnodup).2 hd] at hd'
    cases hd'
    exact hfound
  · intro hfound
    exact ⟨d, (lastNamed?_of_nodup hnodup).2 hd, rfl, hfound⟩

theorem nodup_builtin : (Layer.builtin.map (·.name)).Nodup := by decide

theorem givesWay_builtin_iff :
    GivesWay Layer.builtin h d ↔ d.presence.kind = .query ∧ d.level = 1 ∧ Layer.semeru.presence.Matches h := by
  refine and_congr_right fun _ => ⟨?_, ?_⟩
  · rintro ⟨other, hother, hlevel, hlabel, hmatches⟩
    rw [lastNamed?_of_nodup nodup_builtin] at hother
    simp only [Layer.builtin, List.mem_cons, List.not_mem_nil, or_false] at hother
    rcases hother with rfl | rfl | rfl | rfl
    · cases hlabel
    · cases hlabel
    · exact ⟨hlevel.symm, hmatches⟩
    · cases hlabel
  · rintro ⟨hlevel, hmatches⟩
    exact ⟨Layer.semeru, rfl, hlevel.symm, rfl, hmatches⟩

end Catalog

namespace History

/-- A label of the metric that the vendor's runtime is known by. -/
def LabelledSemeru (h : History) (metric : String) : Prop :=
  h.LabelledOn metric ⟨"runtime", "semeru"⟩ ∨ h.LabelledOn metric ⟨"vendor", "openj9"⟩ ∨
    h.LabelledOn metric ⟨"vendor", "ibm"⟩

theorem LabelledSemeru.measures {h : History} {metric : String} (hlabel : h.LabelledSemeru metric) :
    h.Measures metric := by
  rcases hlabel with hlabel | hlabel | hlabel <;> exact hlabel.measures

end History

namespace Catalog

/-- The built-in layers that are found where the vendor's runtime and the framework are known by the two conditions. -/
structure DetectsBuiltin (h : History) (semeru quarkus : Prop) (found : List Layer) : Prop where
  container : Layer.container.adopted ∈ found
  semeru_iff : Layer.semeru.adopted ∈ found ↔ semeru
  hotspot_iff : Layer.hotspot.adopted ∈ found ↔ h.Measures "jvmInfo" ∧ Layer.semeru.adopted ∉ found
  quarkus_iff : Layer.quarkus.adopted ∈ found ↔ quarkus
  builtin : ∀ l ∈ found, l ∈ Layer.builtin.map Layer.adopted

theorem matches_semeru_iff : Layer.semeru.presence.Matches h ↔ ∃ metric, h.LabelledSemeru metric := by
  unfold History.LabelledSemeru
  simp only [Layer.semeru, Layer.javaRuntime, Presence.Matches, List.mem_cons, List.not_mem_nil, or_false,
    exists_eq_or_imp, exists_eq_left, exists_or]

theorem matches_hotspot_iff : Layer.hotspot.presence.Matches h ↔ h.Measures "jvmInfo" := by
  simp [Layer.hotspot, Layer.javaRuntime, Presence.Matches]

theorem matches_quarkus_iff : Layer.quarkus.presence.Matches h ↔ h.Measures "quarkusThreadPoolActive" := by
  simp [Layer.quarkus, Presence.Matches]

theorem detectsBuiltin (h : History) :
    DetectsBuiltin h (∃ metric, h.LabelledSemeru metric) (h.Measures "quarkusThreadPoolActive") (builtin.detect h) := by
  have hmem {d : Layer} (hd : d ∈ Layer.builtin) := mem_detect_of_nodup (h := h) nodup_builtin hd
  have hsemeru : Layer.semeru.adopted ∈ builtin.detect h ↔ ∃ metric, h.LabelledSemeru metric := by
    refine (hmem (by simp [Layer.builtin])).trans ?_
    rw [givesWay_builtin_iff, matches_semeru_iff]
    refine and_iff_left fun hway => ?_
    cases hway.1
  constructor
  · refine (hmem (by simp [Layer.builtin])).2 ⟨trivial, fun hway => ?_⟩
    cases hway.1
  · exact hsemeru
  · rw [hsemeru]
    refine (hmem (by simp [Layer.builtin])).trans ?_
    rw [givesWay_builtin_iff, matches_hotspot_iff, matches_semeru_iff]
    exact and_congr_right fun _ => not_congr ⟨fun hway => hway.2.2, fun hlabelled => ⟨rfl, rfl, hlabelled⟩⟩
  · refine (hmem (by simp [Layer.builtin])).trans ?_
    rw [givesWay_builtin_iff, matches_quarkus_iff]
    refine and_iff_left fun hway => ?_
    cases hway.2.1
  · intro l hl
    obtain ⟨d, hd, rfl, -⟩ := mem_detect.1 hl
    exact List.mem_map.2 ⟨d, (lastNamed?_of_nodup nodup_builtin).1 hd, rfl⟩

/-- **The built-in layers by what tells them.** The container is always found; the vendor's runtime where any metric has
one of its labels; the other runtime where there is Java and the first one is not found; the framework where the active
threads of its pool are measured. They would be found by the labels of the Java metric alone, and by any metric of the
framework, exactly if no other metric has such a label without that one having it, and no other metric of the framework
is measured without the threads. -/
theorem detect_builtin (h : History) :
    DetectsBuiltin h (∃ metric, h.LabelledSemeru metric) (h.Measures "quarkusThreadPoolActive") (builtin.detect h) ∧
    (DetectsBuiltin h (h.LabelledSemeru "jvmInfo") (∃ metric, "quarkus".toList <+: metric.toList ∧ h.Measures metric)
        (builtin.detect h) ↔
      ((∃ metric, h.LabelledSemeru metric) → h.LabelledSemeru "jvmInfo") ∧
      ((∃ metric, "quarkus".toList <+: metric.toList ∧ h.Measures metric) → h.Measures "quarkusThreadPoolActive")) := by
  have hfound := detectsBuiltin h
  refine ⟨hfound, ?_, ?_⟩
  · intro hasDocumented
    exact ⟨fun hlabel => hasDocumented.semeru_iff.1 (hfound.semeru_iff.2 hlabel),
      fun hmeasured => hfound.quarkus_iff.1 (hasDocumented.quarkus_iff.2 hmeasured)⟩
  · rintro ⟨hlabels, hmetrics⟩
    refine ⟨hfound.container, hfound.semeru_iff.trans ⟨hlabels, fun hlabel => ⟨_, hlabel⟩⟩, hfound.hotspot_iff,
      hfound.quarkus_iff.trans ⟨fun hthreads => ⟨_, ?_, hthreads⟩, hmetrics⟩, hfound.builtin⟩
    decide

/-- Another metric of the framework does not tell it; and a label that stands with another metric does tell a runtime,
where there is no Java at all. -/
theorem strayMetrics_detected :
    ((labelHistory "quarkusHttpActive" "unit" "requests").Measures "quarkusHttpActive" ∧
      Layer.quarkus.adopted ∉ builtin.detect (labelHistory "quarkusHttpActive" "unit" "requests")) ∧
    (¬(labelHistory "cpu" "vendor" "IBM").LabelledSemeru "jvmInfo" ∧
      Layer.semeru.adopted ∈ builtin.detect (labelHistory "cpu" "vendor" "IBM")) := by
  obtain ⟨-, -, -, hquarkus, -⟩ := (detect_builtin (labelHistory "quarkusHttpActive" "unit" "requests")).1
  obtain ⟨-, hsemeru, -⟩ := (detect_builtin (labelHistory "cpu" "vendor" "IBM")).1
  refine ⟨⟨by decide +kernel, fun hfound => ?_⟩, fun hjava => ?_, hsemeru.2 ⟨"cpu", .inr (.inr ?_)⟩⟩
  · exact absurd (hquarkus.1 hfound) (by decide +kernel)
  · exact absurd hjava.measures (by decide +kernel)
  · exact ⟨⟨1664000900, 0, by decide⟩, _, _, "IBM", rfl, rfl, rfl, by decide +kernel⟩

end Catalog

end TuningAdvisor
