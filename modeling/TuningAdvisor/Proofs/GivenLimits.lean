import TuningAdvisor.Engine
import TuningAdvisor.Proofs.Fixpoint
import TuningAdvisor.Proofs.FloatArithmetic
import TuningAdvisor.Proofs.Numerals
/-!
# With the limits given, a request is answered in full: `TuningEngine::recommend`

Who gives the limits of the container gets every tunable of the built-in layers that are asked for. A request of whole
layers has with every tunable what it depends on; along the dependencies there is always less to depend on, so nothing
waits for ever; and a generator that finds its dependencies always has something to say, **with a number in it that the
next one can read** (`Generator.java_supplies_percentage`). So there is no notification, whatever else is given and
whatever was measured (`Engine.answered_in_full`).
-/

namespace TuningAdvisor

/-! ## What generators supply -/

/-- A dependency has a value, a limit of the container a positive one. -/
def Met (v : Values) (d : TunableId) : Prop :=
  ∃ x, v.get? d = some x ∧ (d.layer = LayerName.container → 0.0 < x)

namespace Generator

/-- Once its dependencies are met, there is an entry for a tunable, and a number in it if there is one to be read. -/
structure Supplies (g : Generator) (tunable : String) (deps : List TunableId) (numeric : Bool) (h : History) : Prop where
  supports : g.supports tunable = true
  made : ∀ (v : Values) (state : RunState), (∀ d ∈ deps, Met v d) →
    ∃ e, (g.generate tunable v h state).1 = some e ∧ (numeric = true → e.number?.isSome = true)

theorem containerLimits?_of_met {v : Values} (hcores : Met v .cpuLimit) (hbytes : Met v .memoryLimit) :
    ∃ limits, containerLimits? v = some limits := by
  obtain ⟨cores, hcores, hcores'⟩ := hcores
  obtain ⟨bytes, hbytes, hbytes'⟩ := hbytes
  have hpositive := Rounding.not_le_of_lt (hcores' rfl)
  have hpositive' := Rounding.not_le_of_lt (hbytes' rfl)
  exact ⟨_, by simp only [containerLimits?, hcores, hbytes, hpositive, hpositive']; rfl⟩

/-- The server flag leaves the number. -/
theorem exists_withServerFlag (labels : JavaLabels) (state : RunState) {e : EnvEntry} {numeric : Bool}
    (hnumber : numeric = true → '=' ∈ e.value.toList ∧ e.number?.isSome = true) :
    ∃ e', some (withServerFlag labels e state).1 = some e' ∧ (numeric = true → e'.number?.isSome = true) := by
  refine ⟨_, rfl, fun hnumeric => ?_⟩
  rw [number?_withServerFlag (hnumber hnumeric).1]
  exact (hnumber hnumeric).2

/-- The heap percentage can be read back from its flag. -/
theorem java_supplies_percentage (layer : String) (flag : Collector → String) (sizing : HeapSizing Float)
    (numeric : Bool) (h : History) :
    (java layer flag sizing).Supplies TunableName.maxRamPercentage [.cpuLimit, .memoryLimit] numeric h where
  supports := rfl
  made v state hdeps := by
    obtain ⟨limits, hlimits⟩ := containerLimits?_of_met (hdeps .cpuLimit (by simp)) (hdeps .memoryLimit (by simp))
    simp only [java, heapSetting?, hlimits, if_true, Option.map_some]
    refine exists_withServerFlag _ state fun _ => ⟨by simp, ?_⟩
    have hread := Readable.fixed 1 (sizing.percentage limits.memoryMb limits.cores h).1
    have hnumber := EnvEntry.number?_flag hread TunableName.maxRamPercentage "-XX:MaxRAMPercentage"
    rw [← String.append_assoc] at hnumber
    exact (congrArg Option.isSome hnumber).trans hread.number

theorem java_supplies_policy (layer : String) (flag : Collector → String) (sizing : HeapSizing Float) (h : History) :
    (java layer flag sizing).Supplies TunableName.gcPolicy
      [.cpuLimit, .memoryLimit, { layer, name := TunableName.maxRamPercentage }] false h where
  supports := rfl
  made v state hdeps := by
    obtain ⟨limits, hlimits⟩ := containerLimits?_of_met (hdeps .cpuLimit (by simp)) (hdeps .memoryLimit (by simp))
    obtain ⟨percent, hpercent, -⟩ := hdeps { layer, name := TunableName.maxRamPercentage } (by simp)
    have hname : ¬TunableName.gcPolicy = TunableName.maxRamPercentage := by decide
    simp only [java, collectorSetting?, hlimits, hpercent, if_neg hname, if_true]
    exact exists_withServerFlag _ state (by simp)

theorem quarkus_supplies (pool : ThreadPool) (numeric : Bool) (h : History) :
    (quarkus pool).Supplies TunableName.coreThreads [.cpuLimit] numeric h where
  supports := rfl
  made v state hdeps := by
    obtain ⟨cores, hcores, hpositive⟩ := hdeps .cpuLimit (by simp)
    have hpositive := Rounding.not_le_of_lt (hpositive rfl)
    simp only [quarkus, threadsSetting?, hcores, hpositive, if_true, if_false]
    refine ⟨_, rfl, fun _ => ?_⟩
    have hread := Readable.nat (pool.threads cores)
    have hnumber := EnvEntry.number?_flag hread TunableName.coreThreads ("-D" ++ TunableName.coreThreads)
    rw [← String.append_assoc] at hnumber
    exact (congrArg Option.isSome hnumber).trans hread.number

end Generator

namespace Node

/-- Once its dependencies are met, there is an entry for the tunable, with its number. -/
def Supplied (n : Node) (generators : GeneratorRegistry) (h : History) : Prop :=
  ∀ run : Run, (∀ d ∈ n.tunable.dependsOn, Met run.values d) →
    ∃ e state, run.generate generators h n = (.ok e, state) ∧
      (n.tunable.valueType.isNumeric = true → (Run.value? n e).isSome = true)

theorem supplied_of_supplies {n : Node} {generators : GeneratorRegistry} {g : Generator} {h : History}
    (hg : generators.get? n.id.layer = some g)
    (hsupplies : g.Supplies n.id.name n.tunable.dependsOn n.tunable.valueType.isNumeric h) : n.Supplied generators h := by
  intro run hdeps
  obtain ⟨e, he, hnumber⟩ := hsupplies.made run.values run.state hdeps
  refine ⟨e, (g.generate n.id.name run.values h run.state).2, ?_, fun hnumeric => ?_⟩
  · simp only [Run.generate, hg, hsupplies.supports, if_true, he]
  · rw [Run.value?, if_pos hnumeric]
    exact hnumber hnumeric

/-- Above the container, every built-in tunable is supplied. -/
theorem supplied_builtin {n : Node} (hn : n.Admitted .builtin) (habove : n.id.layer ≠ LayerName.container) (c : Config)
    (h : History) : n.Supplied (.builtin c) h := by
  obtain ⟨g, hg, hsupplies⟩ := of_builtin (P := fun g name deps numeric => g.Supplies name deps numeric h) hn c
    (fun hcontainer => absurd hcontainer habove)
    (fun layer flag numeric => Generator.java_supplies_percentage layer flag _ numeric h)
    (fun layer flag => Generator.java_supplies_policy layer flag _ h)
    (fun numeric => Generator.quarkus_supplies _ numeric h)
  exact supplied_of_supplies hg hsupplies

end Node

/-! ## The built-in tunables -/

namespace Layer

/-- The container has its limits only. -/
theorem limit_of_builtin : ∀ l ∈ builtin, l.name = LayerName.container → ∀ t ∈ l.adopted.tunables,
    t.id = .cpuLimit ∨ t.id = .memoryLimit := by decide

/-- A built-in tunable depends on numbers of the container and of its own layer, and these depend on fewer. -/
theorem dependsOn_of_builtin : ∀ l ∈ builtin, ∀ t ∈ l.adopted.tunables, ∀ d ∈ t.dependsOn,
    (d.layer = LayerName.container ∨ d.layer = l.name) ∧ (Catalog.builtin.tunable? d).any (fun m =>
      m.valueType.isNumeric && decide (m.dependsOn.length < t.dependsOn.length)) = true := by decide +kernel

/-- Nothing depends on a higher level. -/
theorem admit?_of_builtin : ∀ l ∈ builtin, ∀ t ∈ l.adopted.tunables, (Node.admit? .builtin t.id).isOk = true := by
  decide +kernel

end Layer

namespace Catalog

variable {id d : TunableId} {t : Tunable} {requested : List TunableId} {n : Node}

theorem get?_builtin {l : Layer} (hl : l ∈ Layer.builtin) : Catalog.builtin.get? l.name = some l.adopted := by
  simp only [Layer.builtin, List.mem_cons, List.not_mem_nil, or_false] at hl
  rcases hl with rfl | rfl | rfl | rfl <;> rfl

theorem exists_admitted {l : Layer} (hl : l ∈ Layer.builtin) (ht : t ∈ l.adopted.tunables) :
    ∃ n, Node.admit? .builtin t.id = .ok n := by
  have hok := Layer.admit?_of_builtin l hl t ht
  cases hverdict : Node.admit? .builtin t.id with
  | ok n => exact ⟨n, rfl⟩
  | error cause =>
    rw [hverdict] at hok
    cases hok

/-- The tunables of a built-in layer are those that the catalog defines for it. -/
theorem mem_ids_builtin {l : Layer} (hl : l ∈ Layer.builtin) :
    id ∈ l.adopted.tunables.map Tunable.id ↔ id.layer = l.name ∧ (Catalog.builtin.tunable? id).isSome = true := by
  rw [List.mem_map]
  constructor
  · rintro ⟨t, ht, rfl⟩
    obtain ⟨n, hn⟩ := exists_admitted hl ht
    obtain ⟨hid, hn⟩ := Node.admitted_of_admit? hn
    exact ⟨Layer.layer_of_builtin l hl t ht, by rw [← hid, hn.defined]; rfl⟩
  · rintro ⟨hlayer, hdefined⟩
    obtain ⟨t, ht⟩ := Option.isSome_iff_exists.1 hdefined
    obtain ⟨l', hl', hname, hmem, hid⟩ := exists_layer_of_tunable? ht
    have hsame := get?_builtin hl
    rw [← hlayer, ← hname, get?_builtin hl'] at hsame
    exact ⟨t, Option.some.inj hsame ▸ hmem, hid⟩

theorem dependency_builtin (hn : n.Admitted .builtin) (hd : d ∈ n.tunable.dependsOn) :
    (d.layer = LayerName.container ∨ d.layer = n.id.layer) ∧ ∃ m, Catalog.builtin.tunable? d = some m ∧
      m.valueType.isNumeric = true ∧ m.dependsOn.length < n.tunable.dependsOn.length := by
  obtain ⟨l, hl, hname, hmem, -⟩ := exists_layer_of_tunable? hn.defined
  obtain ⟨hlayer, hany⟩ := Layer.dependsOn_of_builtin l hl _ hmem d hd
  obtain ⟨m, hm, hboth⟩ := Option.any_eq_true _ _ |>.1 hany
  simp only [Bool.and_eq_true, decide_eq_true_eq] at hboth
  exact ⟨hname ▸ hlayer, m, hm, hboth⟩

/-- Nothing waits for ever: what a built-in tunable depends on depends on fewer. -/
theorem stuck_builtin (requested : List TunableId) : Catalog.builtin.stuck requested = [] := by
  refine List.eq_nil_iff_forall_not_mem.2 fun n hn => ?_
  induction hk : n.tunable.dependsOn.length using Nat.strong_induction_on generalizing n with
  | _ k ih =>
    obtain ⟨m, hm, -, hdepends⟩ := (sound_pending .builtin requested).stuck_waits n hn
    obtain ⟨-, t, ht, -, hfewer⟩ := dependency_builtin (admitted_of_mem_stuck hn).2 hdepends
    cases (admitted_of_mem_stuck hm).2.defined.symm.trans ht
    exact ih _ (hk ▸ hfewer) m hm rfl

/-- Whatever is defined is placed when it is requested. -/
theorem exists_placed_builtin (hid : id ∈ requested) (hdefined : (Catalog.builtin.tunable? id).isSome = true) :
    ∃ n ∈ (Catalog.builtin.order requested).nodes, n.id = id := by
  obtain ⟨t, ht⟩ := Option.isSome_iff_exists.1 hdefined
  obtain ⟨l, hl, -, hmem, rfl⟩ := exists_layer_of_tunable? ht
  obtain ⟨n, hn⟩ := exists_admitted hl hmem
  have hplaced := mem_order_or_stuck.2 (Intake.mem_nodes_iff.2 ⟨_, hid, hn⟩)
  rw [stuck_builtin] at hplaced
  exact ⟨n, hplaced.resolve_right (by simp), (Node.admitted_of_admit? hn).1⟩

end Catalog

/-! ## Along the order -/

namespace Run

variable {generators : GeneratorRegistry} {h : History} {n : Node} {seed final : Values} {o : Outcome}

theorem SettledBy.of_met (ho : SettledBy generators h seed final n o) (hnone : seed.get? n.id = none)
    (hsupplied : n.Supplied generators h) (hself : n.id ∉ n.tunable.dependsOn)
    (hdeps : ∀ d ∈ n.tunable.dependsOn, Met final d) :
    (∃ r, o = .settled r) ∧ (n.tunable.valueType.isNumeric = true → (final.get? n.id).isSome = true) := by
  obtain ⟨run, hstart, hrun, rfl, hfinal⟩ := ho
  have hmet : ∀ d ∈ n.tunable.dependsOn, Met run.values d := by
    intro d hd
    obtain ⟨x, hx, hpositive⟩ := hdeps d hd
    exact ⟨x, (hrun d hd fun he => hself (he ▸ hd)).trans hx, hpositive⟩
  have hmissing : run.missing n = [] := by
    refine List.filter_eq_nil_iff.2 fun d hd => ?_
    obtain ⟨x, hx, -⟩ := hmet d hd
    simp [SortedMap.contains_eq, hx]
  obtain ⟨e, state, hmade, hnumber⟩ := hsupplied run hmet
  rw [settle_of_made (hstart.trans hnone) hmissing hmade] at hfinal ⊢
  refine ⟨⟨_, rfl⟩, fun hnumeric => ?_⟩
  obtain ⟨x, hx⟩ := Option.isSome_iff_exists.1 (hnumber hnumeric)
  rw [← hfinal, get?_record, hx]
  rfl

end Run

namespace Catalog

/-- With every tunable there is what it depends on. -/
def ClosedRequest (c : Catalog) (requested : List TunableId) : Prop :=
  ∀ n ∈ (c.order requested).nodes, ∀ d ∈ n.tunable.dependsOn, d ∈ requested

variable {c : Config} {h : History} {requested : List TunableId} {seed : Values}

/-- Every tunable of a closed request is settled, and the numbers are there for those behind it. -/
theorem settled_of_placed (hcores : Met seed .cpuLimit) (hbytes : Met seed .memoryLimit)
    (hclosed : Catalog.builtin.ClosedRequest requested) {n : Node} (hn : n ∈ (Catalog.builtin.order requested).nodes)
    {o : Outcome} (ho : Run.SettledBy (.builtin c) h seed
      (Catalog.builtin.resolve (.builtin c) requested seed h).values n o) :
    (∃ r, o = .settled r) ∧ (n.tunable.valueType.isNumeric = true →
      Met (Catalog.builtin.resolve (.builtin c) requested seed h).values n.id) := by
  induction hk : n.tunable.dependsOn.length using Nat.strong_induction_on generalizing n o with
  | _ k ih =>
    have hadmitted := (admitted_of_mem_order hn).2
    have hlimit : n.id.layer = LayerName.container → Met seed n.id := by
      intro hcontainer
      obtain ⟨l, hl, hname, hmem, hid⟩ := exists_layer_of_tunable? hadmitted.defined
      rcases Layer.limit_of_builtin l hl (hname.trans hcontainer) _ hmem with heq | heq <;> rw [← hid, heq] <;> assumption
    cases hgiven : seed.get? n.id with
    | some x =>
      obtain ⟨hsettled, hvalue⟩ := ho.of_given hgiven
      refine ⟨⟨_, hsettled⟩, fun _ => ⟨x, hvalue, fun hcontainer => ?_⟩⟩
      obtain ⟨y, hy, hpositive⟩ := hlimit hcontainer
      cases hgiven.symm.trans hy
      exact hpositive hcontainer
    | none =>
      have habove : n.id.layer ≠ LayerName.container := by
        intro hcontainer
        obtain ⟨y, hy, -⟩ := hlimit hcontainer
        cases hgiven.symm.trans hy
      -- what it depends on is requested too, and depends on fewer
      have hdeps : ∀ d ∈ n.tunable.dependsOn, Met (Catalog.builtin.resolve (.builtin c) requested seed h).values d := by
        intro d hd
        obtain ⟨-, t, ht, hnumeric, hfewer⟩ := dependency_builtin hadmitted hd
        obtain ⟨m, hm, rfl⟩ := exists_placed_builtin (hclosed n hn d hd) (by rw [ht]; rfl)
        cases (admitted_of_mem_order hm).2.defined.symm.trans ht
        obtain ⟨o', -, ho'⟩ := exists_of_forall₂ (settledBy_outcomes .builtin (.builtin c) requested seed h).flip hm
        exact (ih _ (hk ▸ hfewer) hm ho' rfl).2 hnumeric
      have hself : n.id ∉ n.tunable.dependsOn := by
        intro hd
        obtain ⟨-, t, ht, -, hfewer⟩ := dependency_builtin hadmitted hd
        cases hadmitted.defined.symm.trans ht
        exact lt_irrefl _ hfewer
      obtain ⟨hsettled, hvalue⟩ := ho.of_met hgiven (Node.supplied_builtin hadmitted habove c h) hself hdeps
      refine ⟨hsettled, fun hnumeric => ?_⟩
      obtain ⟨x, hx⟩ := Option.isSome_iff_exists.1 (hvalue hnumeric)
      exact ⟨x, hx, fun hcontainer => absurd hcontainer habove⟩

/-- A closed request of tunables that are defined leads to no notification. -/
theorem notifications_of_closed (hcores : Met seed .cpuLimit) (hbytes : Met seed .memoryLimit)
    (hclosed : Catalog.builtin.ClosedRequest requested)
    (hdefined : ∀ id ∈ requested, (Catalog.builtin.tunable? id).isSome = true) :
    (Catalog.builtin.resolve (.builtin c) requested seed h).notifications = [] := by
  refine List.eq_nil_iff_forall_not_mem.2 fun m hm => ?_
  rcases mem_notifications.1 hm with ⟨id, hid, cause, hcause, -⟩ | ⟨n, hn, -⟩ | ho
  · obtain ⟨n, hn, rfl⟩ := exists_placed_builtin hid (hdefined id hid)
    cases hcause.symm.trans (Node.admit?_eq_ok_iff.2 ⟨rfl, (admitted_of_mem_order hn).2⟩)
  · rw [stuck_builtin] at hn
    cases hn
  · obtain ⟨n, hn, hsettled⟩ := exists_of_forall₂ (settledBy_outcomes .builtin (.builtin c) requested seed h) ho
    obtain ⟨⟨r, hr⟩, -⟩ := settled_of_placed hcores hbytes hclosed hn hsettled
    cases hr

end Catalog

/-! ## Recommendations -/

/-- A tunable of the container or of one of the other layers. -/
def Catalog.Offers (c : Catalog) (layers : List String) (id : TunableId) : Prop :=
  (id.layer = LayerName.container ∨ id.layer ∈ layers) ∧ (c.tunable? id).isSome = true

/-- Each tunable of the container and of other layers is answered once, nothing else is, and there is no notification. -/
structure Report.InFull (c : Catalog) (layers : List String) (r : Report) : Prop where
  silent : r.notifications = []
  answered : ∀ id, c.Offers layers id → r.answers id = 1
  offered : ∀ x ∈ r.recommendations, c.Offers layers x.id

namespace Engine

theorem tunablesOf_cons {c : Catalog} {name : String} {l : Layer} (hl : c.get? name = some l) (layers : List String) :
    tunablesOf c (name :: layers) = (l.tunables.map Tunable.id ++ ·) <$> tunablesOf c layers := by
  unfold tunablesOf
  rw [List.mapM_cons, hl]
  generalize List.mapM (m := Except RequestError) _ layers = others
  cases others <;> rfl

/-- A request of layers that are known asks for their tunables. -/
theorem tunablesOf_of_known {c : Catalog} {layers : List String} (hknown : ∀ name ∈ layers, ∃ l, c.get? name = some l) :
    ∃ ids, tunablesOf c layers = .ok ids ∧
      ∀ id, id ∈ ids ↔ ∃ name ∈ layers, ∃ l, c.get? name = some l ∧ id ∈ l.tunables.map Tunable.id := by
  induction layers with
  | nil => exact ⟨[], rfl, by simp⟩
  | cons name layers ih =>
    rw [List.forall_mem_cons] at hknown
    obtain ⟨⟨l, hl⟩, hknown⟩ := hknown
    obtain ⟨ids, hids, hmem⟩ := ih hknown
    refine ⟨l.tunables.map Tunable.id ++ ids, by rw [tunablesOf_cons hl, hids]; rfl, fun id => ?_⟩
    simp only [List.mem_append, hmem, List.mem_cons, or_and_right, exists_or, exists_eq_left, hl, Option.some.injEq,
      exists_eq_left']

/-- The tunables of built-in layers. -/
theorem tunablesOf_builtin {layers : List String} (hlayers : ∀ name ∈ layers, name ∈ Layer.builtin.map (·.name)) :
    ∃ ids, tunablesOf .builtin (requestedLayers layers) = .ok ids ∧ ∀ id, id ∈ ids ↔ Catalog.builtin.Offers layers id := by
  have hrequested : ∀ name, name ∈ requestedLayers layers ↔ name = LayerName.container ∨ name ∈ layers := by
    intro name
    by_cases hname : name = LayerName.container <;> simp [requestedLayers, hname]
  have hbuiltin : ∀ name ∈ requestedLayers layers, ∃ l ∈ Layer.builtin, l.name = name := by
    intro name hname
    rcases (hrequested name).1 hname with rfl | hname
    · exact ⟨.container, by simp [Layer.builtin], rfl⟩
    · exact List.mem_map.1 (hlayers name hname)
  have hknown : ∀ name ∈ requestedLayers layers, ∃ l, Catalog.builtin.get? name = some l := by
    intro name hname
    obtain ⟨l, hl, rfl⟩ := hbuiltin name hname
    exact ⟨_, Catalog.get?_builtin hl⟩
  obtain ⟨ids, hids, hmem⟩ := tunablesOf_of_known hknown
  refine ⟨ids, hids, fun id => ?_⟩
  rw [hmem]
  constructor
  · rintro ⟨name, hname, l, hl, hid⟩
    obtain ⟨l₀, hl₀, rfl⟩ := hbuiltin name hname
    cases (Catalog.get?_builtin hl₀).symm.trans hl
    obtain ⟨hlayer, hdefined⟩ := (Catalog.mem_ids_builtin hl₀).1 hid
    exact ⟨(hrequested _).1 (hlayer ▸ hname), hdefined⟩
  · rintro ⟨hlayer, hdefined⟩
    obtain ⟨l, hl, hname⟩ := hbuiltin id.layer ((hrequested _).2 hlayer)
    exact ⟨id.layer, (hrequested _).2 hlayer, l.adopted, hname ▸ Catalog.get?_builtin hl,
      (Catalog.mem_ids_builtin hl).2 ⟨hname.symm, hdefined⟩⟩

/-- **With the limits given, a request is answered in full.** Take the built-in layers and generators, whatever the
configuration is, a list of built-in layers with repetitions, and given values with positive limits of the
container among them. Whatever was measured and whatever else is given, the request succeeds without a notification, and
each tunable of the container and of these layers has exactly one recommendation. -/
theorem answered_in_full (c : Config) {e : Engine} (hcatalog : e.catalog = .builtin)
    (hgenerators : e.generators = .builtin c) {layers : List String}
    (hlayers : ∀ name ∈ layers, name ∈ Layer.builtin.map (·.name)) {seed : Values} {cores bytes : Float}
    (hcores : seed.get? .cpuLimit = some cores) (hcores' : 0.0 < cores)
    (hbytes : seed.get? .memoryLimit = some bytes) (hbytes' : 0.0 < bytes) (h : History) :
    ∃ r, (e.recommend layers seed h).1 = .ok r ∧ r.InFull .builtin layers := by
  obtain ⟨requested, hrequested, hmem⟩ := tunablesOf_builtin hlayers
  have hreport : (e.recommend layers seed h).1 = .ok (Catalog.builtin.resolve (.builtin c) requested seed h) := by
    unfold recommend
    rw [hcatalog, hgenerators]
    simp only [hrequested]
  have hclosed : Catalog.builtin.ClosedRequest requested := by
    intro n hn d hd
    obtain ⟨hrequested, hadmitted⟩ := Catalog.admitted_of_mem_order hn
    obtain ⟨hlayer, t, ht, -⟩ := Catalog.dependency_builtin hadmitted hd
    refine (hmem d).2 ⟨hlayer.elim .inl fun hlayer => ?_, by rw [ht]; rfl⟩
    rw [hlayer]
    exact ((hmem _).1 hrequested).1
  have hsilent : (Catalog.builtin.resolve (.builtin c) requested seed h).notifications = [] :=
    Catalog.notifications_of_closed ⟨cores, hcores, fun _ => hcores'⟩ ⟨bytes, hbytes, fun _ => hbytes'⟩ hclosed
      fun id hid => ((hmem id).1 hid).2
  refine ⟨_, hreport, hsilent, fun id hid => ?_, fun x hx => ?_⟩
  · refine (Catalog.answered ((hmem id).2 hid)).elim (fun honce => honce.1) fun hnone => ?_
    have hreason := hnone.2
    rw [Report.reasons, hsilent] at hreason
    cases hreason
  · exact (hmem _).1 (Catalog.id_mem_of_mem_outcomes (Catalog.mem_recommendations.1 hx))

/-- The layers of a framework on top of a runtime that is named twice. -/
def repeatedLayers : List String := [LayerName.hotspot, LayerName.quarkus, LayerName.hotspot]

theorem answered_in_full_repeated_layers :
    ∃ r, ((ofConfig {} {}).recommend repeatedLayers Catalog.givenLimits Catalog.javaEight).1 = .ok r ∧
      r.InFull .builtin repeatedLayers ∧ r.recommendations.length = 5 := by
  have hlayers : ∀ name ∈ repeatedLayers, name ∈ Layer.builtin.map (·.name) := by decide
  have hcores : Catalog.givenLimits.get? .cpuLimit = some 2.0 := rfl
  have hbytes : Catalog.givenLimits.get? .memoryLimit = some 2147483648.0 := rfl
  obtain ⟨r, hr, hfull⟩ := answered_in_full {} (e := ofConfig {} {}) rfl rfl hlayers hcores (by decide +kernel) hbytes
    (by decide +kernel) Catalog.javaEight
  have hlength : ((ofConfig {} {}).recommend repeatedLayers Catalog.givenLimits Catalog.javaEight).1.toOption.map
      (·.recommendations.length) = some 5 := by decide +kernel
  rw [hr] at hlength
  exact ⟨r, hr, hfull, Option.some.inj hlength⟩

end Engine

end TuningAdvisor
