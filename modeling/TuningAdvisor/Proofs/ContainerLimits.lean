import TuningAdvisor.Proofs.GivenLimits
import TuningAdvisor.Proofs.ReadBack
/-!
# The limits of the container: `ContainerGenerator` and `numeric_value`

A limit is recommended for an observed peak above zero, but rounded: cores to the nearest thousandth, bytes to the nearest
byte. What the other tunables read is the number in its text. **It is above zero where the peak shows in these digits, and
exactly zero where it does not** (`Catalog.limits_by_peaks`): nothing is lost on the way from the rounded number to its
text and back, however large or small the peak is. A limit of zero leaves nothing to recommend for those that depend on it.
-/

namespace TuningAdvisor

namespace Generator

variable {tunable : String} {h : History} {e : EnvEntry} {peak : Float}

/-- Whether a peak is large enough for the digits of its limit: half a thousandth of a core, or more than half a byte. -/
def Shows (tunable : String) (peak : Float) : Prop :=
  if tunable = TunableName.cpuLimit then 0.0005 ≤ peak else 0.5 < peak

instance (tunable : String) (peak : Float) : Decidable (Shows tunable peak) :=
  inferInstanceAs (Decidable (if tunable = TunableName.cpuLimit then 0.0005 ≤ peak else 0.5 < peak))

section

open Rounding

/-! ## Cores -/

theorem holds_half : Holds 0.5 (1 / 2) := by
  have hc : Canonical (2 ^ 52) (-53) := ⟨by norm_num, by norm_num, by norm_num, .inl le_rfl⟩
  have h : Value (.finite .positive (2 ^ 52) (-53) (by norm_num)) (1 / 2) := .of_eq _ hc (by norm_num)
  exact h

/-- The float nearest to half a thousandth is a little above it. -/
theorem holds_halfThousandth : Holds 0.0005 (4611686018427388 / 2 ^ 63) := by
  have hc : Canonical 4611686018427388 (-63) := ⟨by norm_num, by norm_num, by norm_num, .inl (by norm_num)⟩
  have h : Value (.finite .positive 4611686018427388 (-63) (by norm_num)) (4611686018427388 / 2 ^ 63) :=
    .of_eq _ hc (by norm_num)
  exact h

/-- From half a thousandth of a core on, a thousandth at least is read back, but for a half. -/
theorem cores_pos (hpos : 0.0 < peak) (hshows : 0.0005 ≤ peak) (name : String) :
    ∃ y, ({ name, value := plain (Binary64.round (peak * 1000.0) / 1000.0) } : EnvEntry).number? = some y ∧ 0.0 < y := by
  have hpeak : AtLeast peak (4611686018427388 / 2 ^ 63) := by
    obtain hinf | ⟨v, hv, -⟩ := infinite_or_holds holds_zero hpos
    · exact .inl hinf
    · exact .inr ⟨v, hv, (holds_halfThousandth.le_iff hv).1 hshows⟩
  have hmillis : AtLeast (peak * 1000.0) (1 / 2) :=
    hpeak.mul holds_thousand (by norm_num) (by norm_num) (by simpa using onGrid_unit 1 (by norm_num)) (by norm_num)
  have hcores : AtLeast (Binary64.round (peak * 1000.0) / 1000.0) (1 / 2 ^ 10) :=
    hmillis.round.div holds_thousand (by norm_num) (by norm_num) (onGrid_unit 10 (by norm_num)) (by norm_num)
  have hrest : OnGrid (1 / 2 ^ 10 / 2) := by
    rw [div_div, ← pow_succ]
    exact onGrid_unit 11 (by norm_num)
  obtain ⟨y, hy, hbound⟩ := hcores.exists_number?_plain (by norm_num) hrest name
  exact ⟨y, hy, hbound.pos (by norm_num)⟩

/-- Below half a thousandth, a thousand times the peak is below a half, by more than rounding can give. -/
theorem millis_lt_half {v : ℚ} (hgrid : OnGrid v) (hpos : 0 < v) (hlt : v < 4611686018427388 / 2 ^ 63) :
    v * 1000 ≤ ((2 ^ 53 - 1 : ℤ) : ℚ) / 2 ^ 54 := by
  rcases le_total v (2 ^ (52 - (63 : ℕ) : ℤ)) with hsmall | hlarge
  · norm_num at hsmall ⊢
    linarith
  · obtain ⟨j, rfl⟩ := hgrid.units 63 (hlarge.trans (le_abs_self v))
    have hj : j ≤ 4611686018427387 := by
      have : (j : ℚ) < 4611686018427388 := by
        rwa [div_lt_div_iff_of_pos_right (by positivity)] at hlt
      have : j < 4611686018427388 := by exact_mod_cast this
      omega
    have hj : (j : ℚ) ≤ 4611686018427387 := by exact_mod_cast hj
    norm_num
    linarith

theorem cores_zero (hpos : 0.0 < peak) (hshows : ¬0.0005 ≤ peak) :
    plain (Binary64.round (peak * 1000.0) / 1000.0) = "0" := by
  obtain hinf | ⟨v, hv, hv'⟩ := infinite_or_holds holds_zero hpos
  · exact absurd (lt_of_infinite holds_halfThousandth hinf).2 hshows
  · have hlt : v < 4611686018427388 / 2 ^ 63 := not_le.1 (mt (holds_halfThousandth.le_iff hv).2 hshows)
    have hexact := millis_lt_half hv.onGrid hv' hlt
    obtain ⟨r, hr, hmillis⟩ := hv.exists_mul holds_thousand
      (lt_pow_of_lt (k := 1) (by norm_num) (by rw [abs_of_pos (by linarith)]; norm_num at hexact ⊢; linarith))
    have hhigh := hr.ge (onGrid_units 54 (by norm_num) (by norm_num)) hexact
    have hlow := hr.le hv.onGrid (by linarith)
    rw [hmillis.round_eq_zero (hv'.trans_le hlow) (by norm_num at hhigh ⊢; linarith)]
    decide +kernel

/-! ## Bytes -/

/-- Whole bytes are read back as they are written, none up to a half. -/
theorem bytes_read (hpos : 0.0 < peak) (name : String) :
    ∃ y, ({ name, value := fixed 0 peak } : EnvEntry).number? = some y ∧ (0.5 < peak → 0.0 < y) ∧
      (¬0.5 < peak → y = 0.0) := by
  obtain hinf | ⟨v, hv, hv'⟩ := infinite_or_holds holds_zero hpos
  · rw [(written_of_infinite hinf 0).2]
    exact ⟨1.0 / 0.0, EnvEntry.number?_inf name, fun _ => (lt_of_infinite holds_zero rfl).1,
      absurd (lt_of_infinite holds_half hinf).1⟩
  · obtain ⟨n, htext, hn⟩ := exists_fixed hv hv'
    rw [← holds_half.lt_iff hv] at hn
    rw [htext]
    by_cases hshows : 0.5 < peak
    · have hone : (1 : ℚ) ≤ n / 10 ^ 0 := by
        rw [pow_zero, div_one]
        exact_mod_cast hn.2 hshows
      obtain ⟨y, hy, hrounds⟩ := (Numeral.withPoint n 0).exists_number? name
      have hbound := hrounds.atLeast one_pos (by simpa using onGrid_pow 0) hone
      exact ⟨y, hy, fun _ => hbound.pos one_pos, absurd hshows⟩
    · have hzero : n = 0 := Nat.eq_zero_of_not_pos (mt hn.1 hshows)
      rw [hzero, show Written.withPoint 0 0 = "0" by decide]
      exact ⟨0.0, EnvEntry.number?_zero name, fun h => absurd h hshows, fun _ => rfl⟩

end

/-! ## What a limit comes to -/

theorem containerSetting?_by_peak (he : containerSetting? tunable h = some e) :
    ∃ peak, h.latestPeak? tunable = some peak ∧ 0.0 < peak ∧
      ∃ y, e.number? = some y ∧ (Shows tunable peak → 0.0 < y) ∧ (¬Shows tunable peak → y = 0.0) := by
  unfold containerSetting? at he
  cases hpeak : h.latestPeak? tunable with
  | none =>
    rw [hpeak] at he
    cases he
  | some peak =>
    rw [hpeak] at he
    dsimp only at he
    split at he
    · rename_i hpos
      refine ⟨peak, rfl, hpos, ?_⟩
      cases he
      unfold Shows
      by_cases hcores : tunable = TunableName.cpuLimit
      · simp only [if_pos hcores]
        by_cases hshows : 0.0005 ≤ peak
        · obtain ⟨y, hy, hpos'⟩ := cores_pos hpos hshows tunable
          exact ⟨y, hy, fun _ => hpos', absurd hshows⟩
        · rw [cores_zero hpos hshows]
          exact ⟨0.0, EnvEntry.number?_zero tunable, fun h => absurd h hshows, fun _ => rfl⟩
      · simp only [if_neg hcores]
        exact bytes_read hpos tunable
    · cases he

/-! ## Who depends on a limit -/

/-- A limit that is not above zero leaves nothing to recommend for a tunable that depends on it. -/
def StopsAtZero (g : Generator) (tunable : String) (deps : List TunableId) (h : History) : Prop :=
  ∀ (v : Values) (state : RunState), ∀ d ∈ deps, d = .cpuLimit ∨ d = .memoryLimit → ∀ x, v.get? d = some x → x ≤ 0.0 →
    (g.generate tunable v h state).1 = none

variable {v : Values} {d : TunableId} {x : Float}

theorem containerLimits?_eq_none (hd : d = .cpuLimit ∨ d = .memoryLimit) (hx : v.get? d = some x) (hzero : x ≤ 0.0) :
    containerLimits? v = none := by
  unfold containerLimits?
  rcases hd with rfl | rfl
  · rw [hx]
    cases v.get? .memoryLimit <;> simp [hzero]
  · rw [hx]
    cases v.get? .cpuLimit <;> simp [hzero]

theorem java_percentage_stopsAtZero (layer : String) (flag : Collector → String) (sizing : HeapSizing Float) (h : History) :
    (java layer flag sizing).StopsAtZero TunableName.maxRamPercentage [.cpuLimit, .memoryLimit] h := by
  intro v state d _ hlimit x hx hzero
  simp only [java, heapSetting?, containerLimits?_eq_none hlimit hx hzero, if_true, Option.map_none]

theorem java_policy_stopsAtZero (layer : String) (flag : Collector → String) (sizing : HeapSizing Float) (h : History) :
    (java layer flag sizing).StopsAtZero TunableName.gcPolicy
      [.cpuLimit, .memoryLimit, { layer, name := TunableName.maxRamPercentage }] h := by
  intro v state d _ hlimit x hx hzero
  have hname : ¬TunableName.gcPolicy = TunableName.maxRamPercentage := by decide
  simp only [java, collectorSetting?, containerLimits?_eq_none hlimit hx hzero, if_neg hname, if_true]
  rfl

theorem quarkus_stopsAtZero (pool : ThreadPool) (h : History) :
    (quarkus pool).StopsAtZero TunableName.coreThreads [.cpuLimit] h := by
  intro v state d hd _ x hx hzero
  rw [List.mem_singleton] at hd
  rw [hd] at hx
  simp only [quarkus, threadsSetting?, hx, hzero, if_true]

end Generator

namespace Layer

/-- The limits depend on nothing. -/
theorem dependsOn_of_limit : ∀ l ∈ builtin, l.name = LayerName.container → ∀ t ∈ l.adopted.tunables,
    t.dependsOn = [] ∧ t.valueType.isNumeric = true := by decide

end Layer

namespace Node

variable {n : Node}

theorem generate_of_zero (hn : n.Admitted .builtin) (c : Config) (h : History) (run : Run) {d : TunableId}
    (hd : d ∈ n.tunable.dependsOn) (hlimit : d = .cpuLimit ∨ d = .memoryLimit) {x : Float}
    (hx : run.values.get? d = some x) (hzero : x ≤ 0.0) (e : EnvEntry) :
    (run.generate (.builtin c) h n).1 ≠ .ok e := by
  obtain ⟨l, hl, hname, hmem, -⟩ := Catalog.exists_layer_of_tunable? hn.defined
  obtain ⟨g, hg, hstops⟩ := of_builtin (P := fun g name deps _ => g.StopsAtZero name deps h) hn c
    (fun hcontainer => by
      rw [(Layer.dependsOn_of_limit l hl (hname.trans hcontainer) _ hmem).1]
      intro v state d hd
      cases hd)
    (fun layer flag _ => Generator.java_percentage_stopsAtZero layer flag _ h)
    (fun layer flag => Generator.java_policy_stopsAtZero layer flag _ h)
    (fun _ => Generator.quarkus_stopsAtZero _ h)
  have hnone := hstops run.values run.state d hd hlimit x hx hzero
  unfold Run.generate
  rw [hg]
  dsimp only
  split
  · rw [hnone]
    intro hok
    cases hok
  · intro hok
    cases hok

/-- The generator of a limit is that of the container. -/
theorem generate_of_limit (hlimit : n.id = .cpuLimit ∨ n.id = .memoryLimit) (c : Config)
    (h : History) (run : Run) {e : EnvEntry} (he : (run.generate (.builtin c) h n).1 = .ok e) :
    Generator.containerSetting? n.id.name h = some e := by
  have hlayer : n.id.layer = LayerName.container := by rcases hlimit with hlimit | hlimit <;> rw [hlimit] <;> rfl
  have hname : [TunableName.cpuLimit, TunableName.memoryLimit].contains n.id.name = true := by
    rcases hlimit with hlimit | hlimit <;> rw [hlimit] <;> decide
  have hsupports : Generator.container.supports n.id.name = true := hname
  unfold Run.generate at he
  rw [hlayer, (GeneratorRegistry.get?_builtin c).1] at he
  simp only [hsupports, if_true] at he
  simp only [Generator.container, hname, if_true] at he
  split at he
  · rename_i e' he'
    cases he
    exact he'
  · cases he

end Node

/-! ## Reports -/

/-- What a limit was recommended as, in a report, for a peak that was observed. -/
structure Report.LimitByPeak (r : Report) (h : History) (x : Resolved) (peak : Float) : Prop where
  observed : h.latestPeak? x.id.name = some peak
  positive : 0.0 < peak
  /-- A peak that shows gives a number above zero, and so do the values for those who depend on the limit. -/
  shown : Generator.Shows x.id.name peak → (∃ y, x.value = some y ∧ 0.0 < y) ∧ Met r.values x.id
  /-- Another one gives zero, and nothing is recommended for those who depend on the limit. -/
  hidden : ¬Generator.Shows x.id.name peak → x.value = some 0.0 ∧
    ∀ z ∈ r.recommendations, z.seeded = false → ∀ t, Catalog.builtin.tunable? z.id = some t → x.id ∉ t.dependsOn

/-- All limits that were recommended, and not given, go by observed peaks. -/
def Report.LimitsByPeaks (r : Report) (h : History) : Prop :=
  ∀ x ∈ r.recommendations, x.seeded = false → x.id = .cpuLimit ∨ x.id = .memoryLimit →
    ∃ peak, r.LimitByPeak h x peak

namespace Catalog

variable {c : Config} {requested : List TunableId} {seed : Values} {h : History} {x : Resolved}

/-- A recommendation that was made, in the run that made it. -/
theorem exists_made (hx : x ∈ (Catalog.builtin.resolve (.builtin c) requested seed h).recommendations)
    (hmade : x.seeded = false) :
    ∃ n : Node, n.id = x.id ∧ n.Admitted .builtin ∧ ∃ run : Run,
      (∀ d ∈ n.tunable.dependsOn,
        run.values.get? d = (Catalog.builtin.resolve (.builtin c) requested seed h).values.get? d) ∧
      (run.generate (.builtin c) h n).1 = .ok x.entry ∧ x.value = Run.value? n x.entry ∧
      x.value = (Catalog.builtin.resolve (.builtin c) requested seed h).values.get? x.id := by
  obtain ⟨n, hn, ho⟩ := exists_of_forall₂ (settledBy_outcomes .builtin (.builtin c) requested seed h)
    (mem_recommendations.1 hx)
  have hid : x.id = n.id := ho.id
  have hadmitted := (admitted_of_mem_order hn).2
  obtain ⟨run, -, hdeps, hsettle, hfinal⟩ := ho
  obtain ⟨-, hentry, hvalue⟩ := Run.made_of_settled hsettle hmade
  refine ⟨n, hid.symm, hadmitted, run, fun d hd => hdeps d hd ?_, hentry, hvalue, ?_⟩
  · -- a built-in tunable does not depend on itself
    rintro rfl
    obtain ⟨-, t, ht, -, hfewer⟩ := dependency_builtin hadmitted hd
    cases hadmitted.defined.symm.trans ht
    exact lt_irrefl _ hfewer
  · rw [Run.value_of_settled hsettle, hfinal, hid]

/-- **A limit is recommended above zero exactly where its peak shows.** Take the built-in layers and generators, whatever
the configuration, the request, the given values and the history are. Every limit of the container that is recommended,
and not given, goes back to a latest observed peak above zero. If the peak is half a thousandth of a core or more, or
more than half a byte, the number of the recommendation is above zero and meets what depends on it; if not, the number is
zero, and nothing that depends on the limit is recommended unless it is given itself. -/
theorem limits_by_peaks (c : Config) (requested : List TunableId) (seed : Values) (h : History) :
    (Catalog.builtin.resolve (.builtin c) requested seed h).LimitsByPeaks h := by
  intro x hx hmade hlimit
  obtain ⟨n, hid, hn, run, -, hentry, hvalue, hfinal⟩ := exists_made hx hmade
  have hcontainer : n.id.layer = LayerName.container := by
    rw [hid]
    rcases hlimit with hlimit | hlimit <;> rw [hlimit] <;> rfl
  obtain ⟨l, hl, hname, hmem, -⟩ := exists_layer_of_tunable? hn.defined
  have hnumeric := (Layer.dependsOn_of_limit l hl (hname.trans hcontainer) _ hmem).2
  have hsetting := Node.generate_of_limit (hid ▸ hlimit) c h run hentry
  rw [hid] at hsetting
  obtain ⟨peak, hpeak, hpositive, y, hy, hshown, hhidden⟩ := Generator.containerSetting?_by_peak hsetting
  rw [Run.value?, if_pos hnumeric, hy] at hvalue
  refine ⟨peak, hpeak, hpositive, fun hshows => ?_, fun hshows => ?_⟩
  · exact ⟨⟨y, hvalue, hshown hshows⟩, y, hfinal.symm.trans hvalue, fun _ => hshown hshows⟩
  · rw [hhidden hshows] at hvalue
    refine ⟨hvalue, fun z hz hzmade t ht hd => ?_⟩
    obtain ⟨m, hmid, hm, run', hdeps, hzentry, -, -⟩ := exists_made hz hzmade
    rw [← hmid] at ht
    cases hm.defined.symm.trans ht
    have hzero := (hdeps x.id hd).trans (hfinal.symm.trans hvalue)
    exact Node.generate_of_zero hm c h run' hd hlimit hzero (by decide +kernel) z.entry hzentry

/-- An interval with a peak of less than half a thousandth of a core, and one of three quarters of a byte. -/
def slightPeaks : History :=
  let peak (x : Float) : Measurement := { aggregation := { max := some x } }
  let metrics : Metrics := .ofList [(TunableName.cpuLimit, peak 0.0004), (TunableName.memoryLimit, peak 0.75)]
  .ofList [(⟨1668000900, 0, by decide⟩,
    { start := ⟨1668000000, 0, by decide⟩, finish := ⟨1668000900, 0, by decide⟩, metrics := some metrics })]

/-- Both limits are recommended, and one of them is zero. -/
theorem slightPeaks_one_zero :
    ∃ r cores bytes, Catalog.builtin.resolve (.builtin {}) [.cpuLimit, .memoryLimit] ∅ slightPeaks = r ∧
      r.get? .cpuLimit = some cores ∧ cores.seeded = false ∧ cores.value = some 0.0 ∧
      r.get? .memoryLimit = some bytes ∧ bytes.seeded = false ∧ ∃ y, bytes.value = some y ∧ 0.0 < y := by
  have hlimits := limits_by_peaks {} [.cpuLimit, .memoryLimit] ∅ slightPeaks
  have hmade : ∀ id ∈ [TunableId.cpuLimit, .memoryLimit],
      ((Catalog.builtin.resolve (.builtin {}) [.cpuLimit, .memoryLimit] ∅ slightPeaks).get? id).map (·.seeded) =
        some false := by
    decide +kernel
  generalize Catalog.builtin.resolve (.builtin {}) [.cpuLimit, .memoryLimit] ∅ slightPeaks = r at hlimits hmade
  obtain ⟨cores, hcores, hcores'⟩ := Option.map_eq_some_iff.1 (hmade .cpuLimit (by simp))
  obtain ⟨bytes, hbytes, hbytes'⟩ := Option.map_eq_some_iff.1 (hmade .memoryLimit (by simp))
  have hcoresId : cores.id = .cpuLimit := by simpa using List.find?_some hcores
  have hbytesId : bytes.id = .memoryLimit := by simpa using List.find?_some hbytes
  obtain ⟨peak, hpeak, -, -, hhidden⟩ := hlimits cores (List.mem_of_find?_eq_some hcores) hcores' (.inl hcoresId)
  obtain ⟨peak', hpeak', -, hshown, -⟩ := hlimits bytes (List.mem_of_find?_eq_some hbytes) hbytes' (.inr hbytesId)
  rw [hcoresId] at hpeak hhidden
  rw [hbytesId] at hpeak' hshown
  cases (show slightPeaks.latestPeak? TunableId.cpuLimit.name = some 0.0004 from rfl).symm.trans hpeak
  cases (show slightPeaks.latestPeak? TunableId.memoryLimit.name = some 0.75 from rfl).symm.trans hpeak'
  exact ⟨r, cores, bytes, rfl, hcores, hcores', (hhidden (by decide +kernel)).1, hbytes, hbytes',
    (hshown (by decide +kernel)).1⟩

end Catalog

end TuningAdvisor
