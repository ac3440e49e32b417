import Mathlib
import TuningAdvisor.Proofs.History
import TuningAdvisor.Proofs.RoundTrip
import TuningAdvisor.Proofs.SizedDocuments
/-!
# Experiments that are read back: `Experiment`, `number_or_string`

A definition is written with everything that a document can hold of it, and its histories are not read. **An
experiment that was read is read back from what is written of it, but for a threshold that is no finite number**
(`Experiment.reads_back_iff`): a text may stand for infinity or for no number at all, and a document has no such numbers.
-/

namespace TuningAdvisor

open Record (reads_required reads_defaulted reads_optional reads_optional_image reads_optional_text reads_someItems
  reads_someEntries reads_field_none reads_field_some)
open Doc (someItems someEntries present)

/-! ## Service levels -/

namespace SloFunction

/-- The fields of an aggregation function. -/
def fields (f : SloFunction) : List (String × Option Doc) :=
  [("function", some (.str f.name)), ("query", f.query.map .str), ("version", f.version.map .str)]

theorem encode_eq (f : SloFunction) : f.encode = .obj (present f.fields) := by simp [encode, fields, Doc.optionalField]

theorem reads_encode (f : SloFunction) : SloFunction.decode.Reads f.encode f := by
  have h : record.Reads f.fields f :=
    (reads_required rfl (Decode.reads_text f.name)).map SloFunction.mk
      |>.seq (reads_optional_text rfl)
      |>.seq (reads_optional_text rfl)
  rw [encode_eq]
  exact h.decoder (by simp [fields]) _

end SloFunction

namespace SloMetric

/-- The fields of a metric. -/
def fields (m : SloMetric) : List (String × Option Doc) :=
  [("name", some (.str m.name)), ("datasource", some (.str m.datasource)), ("value_type", some (.str m.valueType)),
    ("kubernetes_object", m.kubernetesObject.map .str), ("query", m.query.map .str),
    ("aggregation_functions", someItems SloFunction.encode m.functions)]

theorem encode_eq (m : SloMetric) : m.encode = .obj (present m.fields) := by
  simp [encode, fields, Doc.optionalField, Doc.itemsField_eq]

theorem reads_encode (m : SloMetric) : SloMetric.decode.Reads m.encode m := by
  have h : record.Reads m.fields m :=
    (reads_required rfl (Decode.reads_text m.name)).map SloMetric.mk
      |>.seq (reads_defaulted rfl (Decode.reads_text m.datasource))
      |>.seq (reads_defaulted rfl (Decode.reads_text m.valueType))
      |>.seq (reads_optional_text rfl)
      |>.seq (reads_optional_text rfl)
      |>.seq (reads_someItems rfl fun f _ => f.reads_encode)
  rw [encode_eq]
  exact h.decoder (by simp [fields]) _

end SloMetric

namespace Objective

/-- The fields of an objective. -/
def fields (o : Objective) : List (String × Option Doc) :=
  [("function_type", some (.str o.kind)), ("expression", o.expression.map .str)]

theorem encode_eq (o : Objective) : o.encode = .obj (present o.fields) := by simp [encode, fields, Doc.optionalField]

theorem reads_encode (o : Objective) : Objective.decode.Reads o.encode o := by
  have h : record.Reads o.fields o :=
    ((reads_required rfl (Decode.reads_text o.kind)).map Objective.mk).seq (reads_optional_text rfl)
  rw [encode_eq]
  exact h.decoder (by simp [fields]) _

end Objective

theorem Direction.reads_name (d : Direction) : Direction.decode.Reads (.str d.name) d :=
  Decode.reads_variant (by cases d <;> rfl)

namespace Slo

/-- The fields of a service level. -/
def fields (s : Slo) : List (String × Option Doc) :=
  [("slo_class", s.sloClass.map .str), ("direction", some (.str s.direction.name)),
    ("objective_function", s.objective.map Objective.encode),
    ("function_variables", some (.arr (s.metrics.map SloMetric.encode)))]

theorem encode_eq (s : Slo) : s.encode = .obj (present s.fields) := by simp [encode, fields, Doc.optionalField]

theorem reads_encode (s : Slo) : Slo.decode.Reads s.encode s := by
  have h : record.Reads s.fields s :=
    (reads_optional_text rfl).map Slo.mk
      |>.seq (reads_defaulted rfl s.direction.reads_name)
      |>.seq (reads_optional rfl fun o _ => ⟨by simp [Objective.encode], o.reads_encode⟩)
      |>.seq (reads_defaulted rfl (Decode.reads_list fun m _ => m.reads_encode))
  rw [encode_eq]
  exact h.decoder (by simp [fields]) _

end Slo

/-! ## Parts of a definition -/

namespace Verdict

/-- The fields of a verdict. -/
def fields (v : Verdict) : List (String × Option Doc) :=
  [("success", some (.bool v.success)), ("message", v.message.map .str), ("http_status_code", some (.ofNat v.status))]

theorem encode_eq (v : Verdict) : v.encode = .obj (present v.fields) := by simp [encode, fields, Doc.optionalField]

theorem reads_encode {v : Verdict} (h : v.status ≤ maxNat16) : Verdict.decode.Reads v.encode v := by
  have hfields : record.Reads v.fields v :=
    (reads_required rfl (Decode.reads_bool v.success)).map Verdict.mk
      |>.seq (reads_optional_text rfl)
      |>.seq (reads_required rfl (Decode.reads_nat16 h))
  rw [encode_eq]
  exact hfields.decoder (by simp [fields]) _

theorem yields_status {S : Doc → Prop} [Doc.Hereditary S] : Verdict.decode.Yields (fun v => v.status ≤ maxNat16) S := by
  refine Record.Yields.decoder (.seq (.seq_any (Record.yields_map _ ?_) _) (Record.yields_required _ Decode.yields_nat16)) _
  exact fun _ _ _ hstatus => hstatus

end Verdict

namespace Selector

/-- The fields of a selector. -/
def fields (s : Selector) : List (String × Option Doc) :=
  [("matchLabel", s.matchLabel.map .str), ("matchLabelValue", s.matchLabelValue.map .str),
    ("matchRoute", s.matchRoute.map .str), ("matchUri", s.matchUri.map .str), ("matchService", s.matchService.map .str)]

theorem encode_eq (s : Selector) : s.encode = .obj (present s.fields) := by simp [encode, fields]

theorem reads_encode (s : Selector) : Selector.decode.Reads s.encode s := by
  have h : record.Reads s.fields s :=
    (reads_optional_text rfl).map Selector.mk
      |>.seq (reads_optional_text rfl)
      |>.seq (reads_optional_text rfl)
      |>.seq (reads_optional_text rfl)
      |>.seq (reads_optional_text rfl)
  rw [encode_eq]
  exact h.decoder (by simp [fields]) _

end Selector

theorem TrialSettings.reads_encode (s : TrialSettings) : TrialSettings.decode.Reads s.encode s := by
  have h : TrialSettings.record.Reads [("measurement_duration", some (.str s.measurementDuration))] s :=
    (reads_required rfl (Decode.reads_text s.measurementDuration)).map TrialSettings.mk
  exact h.decoder (by simp) _

/-! ## Thresholds -/

theorem reads_threshold {x : Float} (h : x.isFinite = true) : decodeThreshold.Reads (.ofFloat x) x :=
  Decode.reads_refine (Decode.reads_oneOf_head ((Decode.reads_float h).map Sum.inl)) rfl

namespace RecommendationSettings

/-- The settings without a threshold that is not finite. -/
def printable (s : RecommendationSettings) : RecommendationSettings :=
  { s with threshold := s.threshold.filter Float.isFinite }

/-- The fields of recommendation settings. -/
def fields (s : RecommendationSettings) : List (String × Option Doc) :=
  [("threshold", s.threshold.map .ofFloat), ("terms", someEntries encodeTerm s.terms)]

theorem encode_eq (s : RecommendationSettings) : s.encode = .obj (present s.fields) := by
  unfold encode fields someEntries
  split <;> simp [Doc.optionalField]

theorem reads_encodeTerm {days : Float} (h : days.isFinite = true) :
    (termRecord.decoder "TermSettings").Reads (encodeTerm days) days := by
  have hfields : termRecord.Reads [("duration_in_days", some (.ofFloat days))] days :=
    reads_required rfl (Decode.reads_float h)
  exact hfields.decoder (by simp) _

/-- A threshold that is not finite is written as null, and null is read as none. -/
theorem reads_field_threshold (s : RecommendationSettings) :
    (Record.optional "threshold" decodeThreshold).Reads s.fields (s.threshold.filter Float.isFinite) := by
  cases hthreshold : s.threshold with
  | none => exact reads_field_none (by simp [fields, hthreshold])
  | some x =>
    have hfield : s.fields.lookup "threshold" = some (some (.ofFloat x)) := by simp [fields, hthreshold]
    cases hx : x.isFinite with
    | true =>
      have hne : Doc.ofFloat x ≠ .null := by simp [Doc.ofFloat, hx]
      rw [Option.filter_some, if_pos hx]
      exact reads_field_some hfield (Decode.reads_optional hne (reads_threshold hx))
    | false =>
      rw [Doc.ofFloat, if_neg (by simp [hx])] at hfield
      rw [Option.filter_some, if_neg (by simp [hx])]
      exact reads_field_some hfield Decode.reads_null

theorem reads_encode {s : RecommendationSettings} (h : ∀ e ∈ s.terms.entries, e.2.isFinite = true) :
    RecommendationSettings.decode.Reads s.encode s.printable := by
  have hfields : record.Reads s.fields s.printable :=
    (s.reads_field_threshold.map RecommendationSettings.mk).seq
      (reads_someEntries rfl fun e he => reads_encodeTerm (h e he))
  rw [encode_eq]
  exact hfields.decoder (by simp [fields]) _

theorem yields_terms : RecommendationSettings.decode.Yields (fun s => ∀ e ∈ s.terms.entries, e.2.isFinite = true)
    Doc.Sized := by
  have hterm : (termRecord.decoder "TermSettings").Yields (fun days => days.isFinite = true) Doc.Sized :=
    Record.Yields.decoder (Record.yields_required _ Decode.yields_float) _
  refine Record.Yields.decoder (.seq (Record.yields_map _ ?_) (Record.yields_defaulted _ hterm.map ?_)) _
  · exact fun _ _ hterms => hterms
  · exact fun e he => absurd he List.not_mem_nil

end RecommendationSettings

/-! ## Containers and objects -/

/-- The entries of a map under instants, if it has any. -/
def someInstants {ν : Type} (encode : ν → Doc) (m : SortedMap Instant ν) : Option Doc :=
  if m.isEmpty then none else some (.obj (m.entries.map fun e => (e.1.toZulu, encode e.2)))

theorem instantsField_eq {ν : Type} (name : String) (encode : ν → Doc) (m : SortedMap Instant ν) :
    instantsField name encode m = Doc.optionalField name (someInstants encode m) := by
  unfold instantsField someInstants
  split <;> rfl

namespace Container

/-- The container without its histories. -/
def definition (c : Container) : Container := { c with results := ∅, recommendations := ∅ }

theorem definition_eq {c : Container} (h : c.Fresh) : c.definition = c := by
  obtain ⟨image, name, metrics, results, recommendations⟩ := c
  obtain ⟨rfl, rfl⟩ := h
  rfl

/-- The fields of a container. -/
def fields (c : Container) : List (String × Option Doc) :=
  [("container_image_name", c.image.map .str), ("container_name", some (.str c.name)),
    ("metrics", someItems SloMetric.encode c.metrics), ("results", someInstants Interval.encode c.results),
    ("recommendations", someInstants TermRecommendations.encode c.recommendations)]

theorem encode_eq (c : Container) : c.encode = .obj (present c.fields) := by
  simp [encode, fields, Doc.optionalField, Doc.itemsField_eq, instantsField_eq]

theorem reads_encode (c : Container) : Container.decode.Reads c.encode c.definition := by
  have h : record.Reads c.fields c.definition :=
    ((reads_optional_text rfl).map _).seq (reads_required rfl (Decode.reads_text c.name))
      |>.seq (reads_someItems rfl fun m _ => m.reads_encode)
  rw [encode_eq]
  exact h.decoder (by simp [fields]) _

end Container

namespace KubernetesObject

/-- The object without the histories of its containers. -/
def definition (o : KubernetesObject) : KubernetesObject := { o with containers := o.containers.map Container.definition }

theorem definition_eq {o : KubernetesObject} (h : ∀ k ∈ o.containers, k.Fresh) : o.definition = o := by
  have hcontainers : o.containers.map Container.definition = o.containers :=
    (List.map_congr_left fun k hk => Container.definition_eq (h k hk)).trans (List.map_id' _)
  rw [definition, hcontainers]

/-- The fields of an object. -/
def fields (o : KubernetesObject) : List (String × Option Doc) :=
  [("type", o.kind.map .str), ("name", some (.str o.name)), ("namespace", some (.str o.space)),
    ("containers", some (.arr (o.containers.map Container.encode)))]

theorem encode_eq (o : KubernetesObject) : o.encode = .obj (present o.fields) := by
  simp [encode, fields, Doc.optionalField]

theorem reads_encode (o : KubernetesObject) : KubernetesObject.decode.Reads o.encode o.definition := by
  have h : record.Reads o.fields o.definition :=
    (reads_optional_text rfl).map KubernetesObject.mk
      |>.seq (reads_required rfl (Decode.reads_text o.name))
      |>.seq (reads_defaulted rfl (Decode.reads_text o.space))
      |>.seq (reads_defaulted rfl (Decode.reads_list_image fun c _ => c.reads_encode))
  rw [encode_eq]
  exact h.decoder (by simp [fields]) _

end KubernetesObject

/-! ## Experiments -/

namespace Experiment

/-- The experiment without its histories. -/
def definition (e : Experiment) : Experiment := { e with objects := e.objects.map KubernetesObject.definition, windows := ∅ }

theorem definition_eq {e : Experiment} (h : e.Fresh) : e.definition = e := by
  have hobject : ∀ o ∈ e.objects, o.definition = o := fun o ho =>
    KubernetesObject.definition_eq fun k hk => h.containers k (List.mem_flatMap.2 ⟨o, ho, hk⟩)
  have hobjects : e.objects.map KubernetesObject.definition = e.objects :=
    (List.map_congr_left hobject).trans (List.map_id' _)
  obtain ⟨⟩ := e
  obtain ⟨rfl, -⟩ := h
  rw [definition, hobjects]

/-- The experiment without a threshold that is not finite. -/
def printable (e : Experiment) : Experiment :=
  { e with recommendationSettings := e.recommendationSettings.map RecommendationSettings.printable }

/-- The threshold of the experiment's settings. -/
def threshold? (e : Experiment) : Option Float := e.recommendationSettings.bind (·.threshold)

theorem threshold?_printable (e : Experiment) : e.printable.threshold? = e.threshold?.filter Float.isFinite := by
  unfold printable threshold?
  cases e.recommendationSettings <;> rfl

theorem printable_eq_iff (e : Experiment) : e.printable = e ↔ ∀ x ∈ e.threshold?, x.isFinite = true := by
  obtain ⟨⟩ := e
  rename_i settings _ _
  cases settings with
  | none => simp [printable, threshold?]
  | some s =>
    obtain ⟨threshold, terms⟩ := s
    cases threshold with
    | none => simp [printable, threshold?, RecommendationSettings.printable]
    | some x => simp [printable, threshold?, RecommendationSettings.printable, Option.filter_eq_some_iff]

/-- The numbers of a definition are those of documents. -/
structure Storable (e : Experiment) : Prop where
  terms : ∀ s ∈ e.recommendationSettings, ∀ t ∈ s.terms.entries, t.2.isFinite = true
  status : ∀ v ∈ e.verdict, v.status ≤ maxNat16

theorem yields_storable : Experiment.decode.Yields Experiment.Storable Doc.Sized := by
  refine Record.Yields.decoder ?_ _
  -- the last two of twelve fields
  have hsettings := Record.yields_optional "recommendation_settings" RecommendationSettings.yields_terms
  have hverdict := Record.yields_optional "validation_data" (Verdict.yields_status (S := Doc.Sized))
  refine .seq (.seq (.seq_any (.seq_any (.seq_any ?_ _) _) _) hsettings) hverdict
  refine .seq_any (.seq_any (.seq_any (.seq_any (.seq_any (.seq_any ?_ _) _) _) _) _) _
  exact Record.yields_map _ fun _ _ _ _ _ _ _ _ _ _ _ hterms _ hstatus => ⟨hterms, hstatus⟩

/-- So are those of texts, and a text says nothing of histories. -/
theorem storable_of_text {text : String} {e : Experiment} (h : Experiment.decode.ofText text = .ok e) :
    e.Fresh ∧ e.Storable := by
  obtain ⟨d, hd, he⟩ := Decoder.exists_sized_of_ofText h
  exact ⟨yields_fresh d hd e he, yields_storable d hd e he⟩

/-- The fields of an experiment. -/
def fields (e : Experiment) : List (String × Option Doc) :=
  [("version", e.version.map .str), ("experiment_name", e.declaredName.map .str), ("cluster_name", e.clusterName.map .str),
    ("mode", e.mode.map .str), ("target_cluster", e.targetCluster.map .str), ("performance_profile", e.profile.map .str),
    ("slo", e.slo.map Slo.encode), ("selector", e.selector.map Selector.encode),
    ("kubernetes_objects", some (.arr (e.objects.map KubernetesObject.encode))),
    ("trial_settings", e.trialSettings.map TrialSettings.encode),
    ("recommendation_settings", e.recommendationSettings.map RecommendationSettings.encode),
    ("result_windows", someInstants Instant.encode e.windows), ("validation_data", e.verdict.map Verdict.encode)]

theorem encode_eq (e : Experiment) : e.encode = .obj (present e.fields) := by
  simp [encode, fields, Doc.optionalField, instantsField_eq]

theorem reads_fields {e : Experiment} (h : e.Storable) : record.Reads e.fields e.definition.printable :=
  (reads_optional_text rfl).map _
    |>.seq (reads_optional_text rfl)
    |>.seq (reads_optional_text rfl)
    |>.seq (reads_optional_text rfl)
    |>.seq (reads_optional_text rfl)
    |>.seq (reads_optional_text rfl)
    |>.seq (reads_optional rfl fun s _ => ⟨by simp [Slo.encode], s.reads_encode⟩)
    |>.seq (reads_optional rfl fun s _ => ⟨by simp [Selector.encode], s.reads_encode⟩)
    |>.seq (reads_defaulted rfl (Decode.reads_list_image fun o _ => o.reads_encode))
    |>.seq (reads_optional rfl fun s _ => ⟨by simp [TrialSettings.encode], s.reads_encode⟩)
    |>.seq (reads_optional_image rfl fun s hs =>
      ⟨by simp [RecommendationSettings.encode], RecommendationSettings.reads_encode (h.terms s hs)⟩)
    |>.seq (reads_optional rfl fun v hv => ⟨by simp [Verdict.encode], Verdict.reads_encode (h.status v hv)⟩)

/-- **What is written of an experiment reads as its definition**: the histories that were written are passed over. -/
theorem reads_encode {e : Experiment} (h : e.Storable) : Experiment.decode.Reads e.encode e.definition.printable := by
  rw [encode_eq]
  exact (reads_fields h).decoder (by simp [fields]) _

/-- **An experiment that was read is read back as it was, without its threshold if that is not finite.** It has no
histories that could be lost, and it is the same exactly if its threshold is finite. -/
theorem reads_back_iff {d : Doc} (hd : d.Sized) {e : Experiment} (he : Experiment.decode d = .ok e) :
    e.Fresh ∧ (∀ o, Experiment.decode (e.encode.arranged o) = .ok e.printable) ∧
      ∀ o, Experiment.decode (e.encode.arranged o) = .ok e ↔ ∀ x ∈ e.threshold?, x.isFinite = true := by
  have hfresh := yields_fresh d hd e he
  have hread := reads_encode (yields_storable d hd e he)
  rw [definition_eq hfresh] at hread
  refine ⟨hfresh, hread, fun o => ?_⟩
  rw [hread o, Except.ok.injEq, printable_eq_iff]

/-- An experiment with a term and a container, whose threshold is a text for infinity. -/
def infiniteThreshold : Doc :=
  .obj [("experiment_name", .str "checkout"),
    ("recommendation_settings", .obj [("threshold", .str "inf"),
      ("terms", .obj [("short_term", .obj [("duration_in_days", .int 1)])])]),
    ("kubernetes_objects", .arr [.obj [("name", .str "shop"), ("containers", .arr [.obj [("container_name", .str "web")]])]])]

theorem infiniteThreshold_lost : infiniteThreshold.Sized ∧ ∃ e, Experiment.decode infiniteThreshold = .ok e ∧
    e.threshold? = some (1.0 / 0.0) ∧ (∀ o, Experiment.decode (e.encode.arranged o) = .ok e.printable) ∧
    e.printable.threshold? = none ∧ e.printable ≠ e := by
  have hsized : infiniteThreshold.Sized := by simp [infiniteThreshold, minInt64, maxNat64]
  have hread : ((Experiment.decode infiniteThreshold).toOption.bind threshold?) = some (1.0 / 0.0) := by decide +kernel
  have hinfinite : (1.0 / 0.0 : Float).isFinite = false := by decide +kernel
  obtain ⟨e, he, hthreshold⟩ := Option.bind_eq_some_iff.1 hread
  have he := of_toOption_eq_some he
  have hlost : e.printable.threshold? = none := by
    rw [threshold?_printable, hthreshold, Option.filter_some, if_neg (by simp [hinfinite])]
  refine ⟨hsized, e, he, hthreshold, (reads_back_iff hsized he).2.1, hlost, fun heq => ?_⟩
  rw [heq, hthreshold] at hlost
  cases hlost

end Experiment

end TuningAdvisor
