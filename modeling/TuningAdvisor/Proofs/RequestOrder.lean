import Mathlib.Data.List.TakeWhile
import TuningAdvisor.Proofs.FinalValues
/-!
# The order of the request does not matter: `DependencyResolver::resolve`

Every built-in generator reads the limits of the container, and the collector of a Java runtime reads the heap
percentage of its own layer too: **nothing but what the tunable declares** (`Node.readsDeclared_builtin`). The server
flag goes to whichever Java entry comes first. It stands in front of an entry, and the number of an entry stands behind
its last equals sign. Of a history the metrics are read and not the windows (`Catalog.resolve_of_sameMetrics`).
-/

namespace TuningAdvisor

/-! ## Entries with the server flag -/

namespace EnvEntry

theorem valueText_append {a b : String} (h : '=' ∈ b.toList) : valueText (a ++ b) = valueText b := by
  have hstop : ¬((b.toList.reverse.takeWhile (· != '=')).length = b.toList.reverse.length) := by
    intro hlength
    have hall := List.takeWhile_eq_self_iff.1 ((List.takeWhile_prefix _).eq_of_length hlength)
    exact absurd (hall '=' (by simpa using h)) (by decide)
  unfold valueText
  rw [String.toList_append, List.reverse_append, List.takeWhile_append, if_neg hstop]

/-- A flag in front does not change the number. -/
theorem number?_withFlag {e : EnvEntry} (h : '=' ∈ e.value.toList) (flag : String) :
    (e.withFlag flag).number? = e.number? := by
  unfold number? withFlag
  rw [valueText_append h]

end EnvEntry

namespace Generator

theorem withServerFlag_cases (labels : JavaLabels) (e : EnvEntry) (state : RunState) :
    (withServerFlag labels e state).1 = e ∨ (withServerFlag labels e state).1 = e.withFlag serverFlag := by
  unfold withServerFlag
  split
  · exact .inr rfl
  · exact .inl rfl

/-- In whatever states it is made, an entry is the same but for the server flag. -/
theorem withServerFlag_alike (labels : JavaLabels) (e : EnvEntry) (state state' : RunState) :
    (withServerFlag labels e state).1.Alike (withServerFlag labels e state').1 := by
  unfold EnvEntry.Alike
  rcases withServerFlag_cases labels e state with h | h <;> rcases withServerFlag_cases labels e state' with h' | h' <;>
    simp [h, h']

theorem number?_withServerFlag {e : EnvEntry} (h : '=' ∈ e.value.toList) (labels : JavaLabels) (state : RunState) :
    (withServerFlag labels e state).1.number? = e.number? := by
  rcases withServerFlag_cases labels e state with h' | h' <;> rw [h']
  exact EnvEntry.number?_withFlag h _

/-! ## What generators read -/

/-- Values that agree on some tunables lead to the same entry, but for the server flag, and to the same number in it if
there is one to be read. -/
def Reads (g : Generator) (tunable : String) (deps : List TunableId) (numeric : Bool) (h : History) : Prop :=
  ∀ (v v' : Values) (state state' : RunState), (∀ d ∈ deps, v'.get? d = v.get? d) →
    Option.Rel (fun a b => a.Alike b ∧ (numeric = true → b.number? = a.number?)) (g.generate tunable v h state).1
      (g.generate tunable v' h state').1

theorem rel_refl (numeric : Bool) : ∀ made? : Option EnvEntry,
    Option.Rel (fun a b : EnvEntry => a.Alike b ∧ (numeric = true → b.number? = a.number?)) made? made?
  | none => .none
  | some _ => .some ⟨.inl rfl, fun _ => rfl⟩

theorem container_reads (tunable : String) (deps : List TunableId) (numeric : Bool) (h : History) :
    container.Reads tunable deps numeric h := by
  intro v v' state state' _
  unfold container
  dsimp only
  split
  · exact rel_refl numeric _
  · exact .none

theorem containerLimits?_congr {v v' : Values} (hcores : v'.get? .cpuLimit = v.get? .cpuLimit)
    (hbytes : v'.get? .memoryLimit = v.get? .memoryLimit) : containerLimits? v' = containerLimits? v := by
  unfold containerLimits?
  rw [hcores, hbytes]

/-- What a Java runtime makes of a setting. -/
theorem rel_withServerFlag {numeric : Bool} (labels : JavaLabels) (state state' : RunState) {made? : Option EnvEntry}
    (hnumber : numeric = true → ∀ e, made? = some e → '=' ∈ e.value.toList) :
    Option.Rel (fun a b : EnvEntry => a.Alike b ∧ (numeric = true → b.number? = a.number?))
      (match made? with
        | some e => (some (withServerFlag labels e state).1, (withServerFlag labels e state).2)
        | none => (none, state)).1
      (match made? with
        | some e => (some (withServerFlag labels e state').1, (withServerFlag labels e state').2)
        | none => (none, state')).1 := by
  cases made? with
  | none => exact .none
  | some e =>
    refine .some ⟨withServerFlag_alike labels e state state', fun hnumeric => ?_⟩
    rw [number?_withServerFlag (hnumber hnumeric e rfl), number?_withServerFlag (hnumber hnumeric e rfl)]

theorem java_reads_percentage (layer : String) (flag : Collector → String) (sizing : HeapSizing Float)
    (numeric : Bool) (h : History) :
    (java layer flag sizing).Reads TunableName.maxRamPercentage [.cpuLimit, .memoryLimit] numeric h := by
  intro v v' state state' hdeps
  have hlimits := containerLimits?_congr (hdeps .cpuLimit (by simp)) (hdeps .memoryLimit (by simp))
  have hsetting : heapSetting? sizing v' h = heapSetting? sizing v h := by
    unfold heapSetting?
    rw [hlimits]
  simp only [java, hsetting, if_true]
  refine rel_withServerFlag _ state state' fun _ e he => ?_
  obtain ⟨limits, -, rfl⟩ := Option.map_eq_some_iff.1 he
  simp

theorem java_reads_policy (layer : String) (flag : Collector → String) (sizing : HeapSizing Float) (h : History) :
    (java layer flag sizing).Reads TunableName.gcPolicy
      [.cpuLimit, .memoryLimit, { layer, name := TunableName.maxRamPercentage }] false h := by
  intro v v' state state' hdeps
  have hlimits := containerLimits?_congr (hdeps .cpuLimit (by simp)) (hdeps .memoryLimit (by simp))
  have hsetting : collectorSetting? layer flag v' (JavaLabels.ofHistory h) =
      collectorSetting? layer flag v (JavaLabels.ofHistory h) := by
    unfold collectorSetting?
    rw [hlimits, hdeps { layer, name := TunableName.maxRamPercentage } (by simp)]
  have hname : ¬TunableName.gcPolicy = TunableName.maxRamPercentage := by decide
  simp only [java, hsetting, if_neg hname, if_true]
  exact rel_withServerFlag _ state state' nofun

theorem quarkus_reads (pool : ThreadPool) (numeric : Bool) (h : History) :
    (quarkus pool).Reads TunableName.coreThreads [.cpuLimit] numeric h := by
  intro v v' state state' hdeps
  have hsetting : threadsSetting? pool v' = threadsSetting? pool v := by
    unfold threadsSetting?
    rw [hdeps .cpuLimit (by simp)]
  simp only [quarkus, hsetting]
  exact rel_refl numeric _

end Generator

/-! ## The built-in layers -/

namespace Layer

/-- The tunables of a built-in layer are its own. -/
theorem layer_of_builtin : ∀ l ∈ builtin, ∀ t ∈ l.adopted.tunables, t.layer = l.name := by decide

/-- The tunables of a Java runtime. -/
theorem tunable_of_java {name : String} {presence : Presence} {flag : Collector → String} {t : Tunable}
    (ht : t ∈ (javaRuntime name presence flag).adopted.tunables) :
    (t.name = TunableName.maxRamPercentage ∧ t.dependsOn = [.cpuLimit, .memoryLimit]) ∨
    (t.name = TunableName.gcPolicy ∧
      t.dependsOn = [.cpuLimit, .memoryLimit, { layer := name, name := TunableName.maxRamPercentage }] ∧
      t.valueType.isNumeric = false) := by
  simp only [adopted, javaRuntime, if_true, List.map_cons, List.map_nil, List.mem_cons, List.not_mem_nil, or_false] at ht
  rcases ht with rfl | rfl
  · exact .inl ⟨rfl, rfl⟩
  · exact .inr ⟨rfl, rfl, rfl⟩

end Layer

namespace Catalog

theorem get?_insert (c : Catalog) (l : Layer) (name : String) :
    (c.insert l).get? name = if name = l.name then some l.adopted else c.get? name := by
  unfold insert get?
  split
  · rename_i h
    simp [h]
  · rename_i h
    exact SortedMap.get?_insert_of_ne _ _ h

theorem get?_insertAll {name : String} {l : Layer} : ∀ {layers : List Layer} {c : Catalog},
    (layers.foldl insert c).get? name = some l →
      (∃ l₀ ∈ layers, l₀.name = name ∧ l = l₀.adopted) ∨ c.get? name = some l
  | [], _, h => .inr h
  | l₀ :: layers, c, h => by
    have h : (layers.foldl insert (c.insert l₀)).get? name = some l := h
    rcases get?_insertAll h with ⟨l₁, hl₁, hname, hl⟩ | h
    · exact .inl ⟨l₁, List.mem_cons_of_mem _ hl₁, hname, hl⟩
    · rw [get?_insert] at h
      split at h
      · rename_i hname
        exact .inl ⟨l₀, List.mem_cons_self, hname.symm, (Option.some.inj h).symm⟩
      · exact .inr h

/-- What the catalog defines stands in a built-in layer. -/
theorem exists_layer_of_tunable? {id : TunableId} {t : Tunable} (ht : Catalog.builtin.tunable? id = some t) :
    ∃ l ∈ Layer.builtin, l.name = id.layer ∧ t ∈ l.adopted.tunables ∧ t.id = id := by
  obtain ⟨l, hl, ht⟩ := Option.bind_eq_some_iff.1 ht
  obtain ⟨l₀, hl₀, hname, rfl⟩ := (get?_insertAll hl).resolve_right nofun
  have hmem := List.mem_of_find?_eq_some ht
  have hlayer := (Layer.layer_of_builtin l₀ hl₀ t hmem).trans hname
  have htunable : t.name = id.name := by simpa using List.find?_some ht
  exact ⟨l₀, hl₀, hname, hmem, by rw [Tunable.id, hlayer, htunable]⟩

end Catalog

/-- The built-in layers have the built-in generators. -/
theorem GeneratorRegistry.get?_builtin (c : Config) :
    (builtin c).get? LayerName.container = some .container ∧
    (builtin c).get? LayerName.hotspot = some (.java LayerName.hotspot Collector.hotspotFlag (.ofConfig c)) ∧
    (builtin c).get? LayerName.semeru = some (.java LayerName.semeru Collector.semeruFlag (.ofConfig c)) ∧
    (builtin c).get? LayerName.quarkus = some (.quarkus (.ofConfig c)) := by
  unfold builtin ofGenerators
  simp only [SortedMap.get?_ofList]
  simp [Generator.container, Generator.java, Generator.quarkus, LayerName.container, LayerName.hotspot,
    LayerName.semeru, LayerName.quarkus]

namespace Node

/-- A built-in tunable, its generator and what it declares: a limit of the container, the percentage or the collector of
a Java runtime, or the size of the thread pool. -/
theorem of_builtin {P : Generator → String → List TunableId → Bool → Prop} {n : Node} (hn : n.Admitted .builtin)
    (c : Config)
    (limit : n.id.layer = LayerName.container →
      P .container n.id.name n.tunable.dependsOn n.tunable.valueType.isNumeric)
    (percentage : ∀ layer flag numeric,
      P (.java layer flag (.ofConfig c)) TunableName.maxRamPercentage [.cpuLimit, .memoryLimit] numeric)
    (policy : ∀ layer flag, P (.java layer flag (.ofConfig c)) TunableName.gcPolicy
      [.cpuLimit, .memoryLimit, { layer, name := TunableName.maxRamPercentage }] false)
    (threads : ∀ numeric, P (.quarkus (.ofConfig c)) TunableName.coreThreads [.cpuLimit] numeric) :
    ∃ g, (GeneratorRegistry.builtin c).get? n.id.layer = some g ∧
      P g n.id.name n.tunable.dependsOn n.tunable.valueType.isNumeric := by
  obtain ⟨l, hl, hlayer, ht, hid⟩ := Catalog.exists_layer_of_tunable? hn.defined
  obtain ⟨hcontainer, hhotspot, hsemeru, hquarkus⟩ := GeneratorRegistry.get?_builtin c
  have hname : n.tunable.name = n.id.name := congrArg TunableId.name hid
  have hjava : ∀ {layer : String} {presence : Presence} (flag : Collector → String),
      n.tunable ∈ (Layer.javaRuntime layer presence flag).adopted.tunables →
      P (.java layer flag (.ofConfig c)) n.id.name n.tunable.dependsOn n.tunable.valueType.isNumeric := by
    intro layer presence flag ht
    rw [← hname]
    rcases Layer.tunable_of_java ht with ⟨htunable, hdeps⟩ | ⟨htunable, hdeps, htype⟩
    · rw [htunable, hdeps]
      exact percentage layer flag _
    · rw [htunable, hdeps, htype]
      exact policy layer flag
  simp only [Layer.builtin, List.mem_cons, List.not_mem_nil, or_false] at hl
  rw [← hlayer]
  rcases hl with rfl | rfl | rfl | rfl
  · exact ⟨_, hcontainer, limit hlayer.symm⟩
  · exact ⟨_, hhotspot, hjava _ ht⟩
  · exact ⟨_, hsemeru, hjava _ ht⟩
  · refine ⟨_, hquarkus, ?_⟩
    simp only [Layer.adopted, Layer.quarkus, if_true, List.map_cons, List.map_nil, List.mem_singleton] at ht
    rw [← hname, ht]
    exact threads _

/-- What the generator of its layer reads is what is read for a tunable. -/
theorem readsDeclared_of_reads {n : Node} {generators : GeneratorRegistry} {g : Generator} {h : History}
    (hg : generators.get? n.id.layer = some g)
    (hreads : g.Reads n.id.name n.tunable.dependsOn n.tunable.valueType.isNumeric h) : n.ReadsDeclared generators h := by
  intro run run' hdeps
  unfold Run.generate
  rw [hg]
  dsimp only
  split
  · have hmade := hreads run.values run'.values run.state run'.state hdeps
    dsimp only
    cases hmade' : (g.generate n.id.name run.values h run.state).1 <;>
      cases hmade'' : (g.generate n.id.name run'.values h run'.state).1 <;> rw [hmade', hmade''] at hmade <;> cases hmade
    · exact .cause _
    · rename_i hboth
      refine .entry hboth.1 ?_
      unfold Run.value?
      split
      · rename_i hnumeric
        exact hboth.2 hnumeric
      · rfl
  · exact .cause _

/-- The built-in generators read nothing but what a tunable declares. -/
theorem readsDeclared_builtin {n : Node} (hn : n.Admitted .builtin) (c : Config) (h : History) :
    n.ReadsDeclared (.builtin c) h := by
  obtain ⟨g, hg, hreads⟩ := of_builtin (P := fun g name deps numeric => g.Reads name deps numeric h) hn c
    (fun _ => Generator.container_reads _ _ _ h)
    (fun layer flag numeric => Generator.java_reads_percentage layer flag _ numeric h)
    (fun layer flag => Generator.java_reads_policy layer flag _ h)
    (fun numeric => Generator.quarkus_reads _ numeric h)
  exact readsDeclared_of_reads hg hreads

end Node

/-! ## The windows of a history -/

namespace History

/-- The same metrics in the same order, whatever the windows are that they were measured in. -/
def SameMetrics (h h' : History) : Prop := h.values.map (·.metrics) = h'.values.map (·.metrics)

namespace SameMetrics

variable {h h' : History}

theorem map (same : h.SameMetrics h') {β : Type} (f : Option Metrics → β) :
    h.values.map (fun i => f i.metrics) = h'.values.map (fun i => f i.metrics) := by
  simpa only [List.map_map, Function.comp_def] using congrArg (List.map f) same

/-- What the most recent interval has that has it. -/
theorem findSome? (same : h.SameMetrics h') {β : Type} (f : Option Metrics → Option β) :
    h.values.reverse.findSome? (fun i => f i.metrics) = h'.values.reverse.findSome? (fun i => f i.metrics) := by
  have hmap := congrArg (fun l => l.reverse.findSome? id) (same.map f)
  simpa only [← List.map_reverse, List.findSome?_map, Function.id_comp] using hmap

theorem latestPeak? (same : h.SameMetrics h') (metric : String) : h.latestPeak? metric = h'.latestPeak? metric :=
  same.findSome? fun m => (m.bind (·.get? metric)).bind (·.peak?)

theorem latestMetadata? (same : h.SameMetrics h') (metric label : String) :
    h.latestMetadata? metric label = h'.latestMetadata? metric label :=
  same.findSome? fun m => (m.bind (·.get? metric)).bind (·.metadata.get? label)

theorem maxPeak? (same : h.SameMetrics h') (metric : String) : h.maxPeak? metric = h'.maxPeak? metric := by
  have hpeaks := congrArg (fun l => l.filterMap id)
    (same.map fun m => (m.bind (·.get? metric)).bind (·.peak?))
  simp only [List.filterMap_map, Function.id_comp] at hpeaks
  exact congrArg (List.foldl _ none) hpeaks

theorem labels (same : h.SameMetrics h') : JavaLabels.ofHistory h = JavaLabels.ofHistory h' := by
  simp only [JavaLabels.ofHistory, same.latestMetadata?]

theorem footprintMb? {α : Type} [Arithmetic α] (same : h.SameMetrics h') (s : HeapSizing α) :
    s.footprintMb? h = s.footprintMb? h' := by
  have hany : h.values.any (·.hasMetrics) = h'.values.any (·.hasMetrics) := by
    have hmap := congrArg (fun l => l.any id) (same.map fun m => m.any fun ms => !ms.isEmpty)
    simp only [List.any_map, Function.id_comp] at hmap
    exact hmap
  simp only [HeapSizing.footprintMb?, hany, same.maxPeak?]

end SameMetrics

end History

/-- A built-in generator looks at the metrics of a history only. -/
theorem GeneratorRegistry.generate_of_sameMetrics {c : Config} {layer : String} {g : Generator}
    (hg : (builtin c).get? layer = some g) {h h' : History} (same : h.SameMetrics h') (tunable : String) (v : Values)
    (state : RunState) : g.generate tunable v h state = g.generate tunable v h' state := by
  have hmem := SortedMap.mem_of_mem_ofList (SortedMap.mem_entries_iff.2 hg)
  simp only [List.map_cons, List.map_nil, List.mem_cons, Prod.mk.injEq, List.not_mem_nil, or_false] at hmem
  have hjava : ∀ (name : String) (flag : Collector → String) (sizing : HeapSizing Float),
      (Generator.java name flag sizing).generate tunable v h state =
        (Generator.java name flag sizing).generate tunable v h' state := by
    intro name flag sizing
    simp only [Generator.java, Generator.heapSetting?, HeapSizing.percentage, same.labels, same.footprintMb?]
  rcases hmem with ⟨-, rfl⟩ | ⟨-, rfl⟩ | ⟨-, rfl⟩ | ⟨-, rfl⟩
  · simp only [Generator.container, Generator.containerSetting?, same.latestPeak?]
  · exact hjava _ _ _
  · exact hjava _ _ _
  · rfl

namespace Run

/-- Runs in which every generation comes out the same settle everything alike. -/
theorem settleAll_congr {generators : GeneratorRegistry} {h h' : History}
    (hgenerate : ∀ run node, generate generators h run node = generate generators h' run node) :
    ∀ nodes run, settleAll generators h nodes run = settleAll generators h' nodes run
  | [], _ => rfl
  | node :: rest, run => by
    have hsettle : run.settle generators h node = run.settle generators h' node := by
      simp only [settle, hgenerate]
    simp only [settleAll, hsettle, settleAll_congr hgenerate rest]

end Run

/-- **The windows of a history do not matter.** Histories with the same metrics in the same order lead to the same
report. -/
theorem Catalog.resolve_of_sameMetrics (catalog : Catalog) (c : Config) (requested : List TunableId) (seed : Values)
    {h h' : History} (same : h.SameMetrics h') :
    catalog.resolve (.builtin c) requested seed h = catalog.resolve (.builtin c) requested seed h' := by
  have hgenerate : ∀ run node, Run.generate (.builtin c) h run node = Run.generate (.builtin c) h' run node := by
    intro run node
    unfold Run.generate
    cases hg : (GeneratorRegistry.builtin c).get? node.id.layer with
    | none => rfl
    | some g => simp only [GeneratorRegistry.generate_of_sameMetrics hg same]
  simp only [resolve, Run.settleAll_congr hgenerate]

/-! ## The order of the request -/

namespace Catalog

/-- **The order of the request does not matter.** Take the built-in layers and generators, whatever the configuration,
the given values and the history are. For permuted requests the values are the same, the notifications are the same but
for their order, and every tunable has a recommendation in both reports or in neither: the same value, given or made in
both, and the same entry but for a server flag in front of one of the two. -/
theorem resolve_of_permuted_request (c : Config) (seed : Values) (h : History) {requested requested' : List TunableId}
    (hperm : requested.Perm requested') :
    (Catalog.builtin.resolve (.builtin c) requested seed h).Alike
      (Catalog.builtin.resolve (.builtin c) requested' seed h) :=
  resolve_alike_of_perm (fun _ hn => Node.readsDeclared_builtin hn c h) seed hperm

/-- The heap percentages of both Java runtimes. -/
def bothPercentages : List TunableId :=
  [⟨LayerName.hotspot, TunableName.maxRamPercentage⟩, ⟨LayerName.semeru, TunableName.maxRamPercentage⟩]

/-- Two cores and two gibibytes. -/
def givenLimits : Values := .ofList [(.cpuLimit, 2.0), (.memoryLimit, 2147483648.0)]

/-- An interval with a Java runtime of version 8. -/
def javaEight : History :=
  let metrics : Metrics := .ofList [(JavaLabels.metric, { metadata := .ofList [("version", "1.8.0_292")] })]
  .ofList [(⟨1700000900, 0, by decide⟩,
    { start := ⟨1700000000, 0, by decide⟩, finish := ⟨1700000900, 0, by decide⟩, metrics := some metrics })]

/-- The first one of the request gets the server flag, and nothing else depends on who is first. -/
theorem bothPercentages_server_flag :
    bothPercentages.Perm bothPercentages.reverse ∧
    ∃ r r' x x', Catalog.builtin.resolve (.builtin {}) bothPercentages givenLimits javaEight = r ∧
      Catalog.builtin.resolve (.builtin {}) bothPercentages.reverse givenLimits javaEight = r' ∧ r.Alike r' ∧
      r.get? ⟨LayerName.hotspot, TunableName.maxRamPercentage⟩ = some x ∧
      r'.get? ⟨LayerName.hotspot, TunableName.maxRamPercentage⟩ = some x' ∧
      x.entry = x'.entry.withFlag Generator.serverFlag := by
  have hperm : bothPercentages.Perm bothPercentages.reverse := bothPercentages.reverse_perm.symm
  have halike := resolve_of_permuted_request {} givenLimits javaEight hperm
  have hflag : (((Catalog.builtin.resolve (.builtin {}) bothPercentages givenLimits javaEight).get?
      ⟨LayerName.hotspot, TunableName.maxRamPercentage⟩).bind fun x =>
        ((Catalog.builtin.resolve (.builtin {}) bothPercentages.reverse givenLimits javaEight).get?
          ⟨LayerName.hotspot, TunableName.maxRamPercentage⟩).map fun x' =>
            decide (x.entry = x'.entry.withFlag Generator.serverFlag)) = some true := by
    decide +kernel
  simp only [Option.bind_eq_some_iff, Option.map_eq_some_iff, decide_eq_true_eq] at hflag
  obtain ⟨x, hx, x', hx', hentry⟩ := hflag
  exact ⟨hperm, _, _, x, x', rfl, rfl, halike, hx, hx', hentry⟩

end Catalog

end TuningAdvisor
