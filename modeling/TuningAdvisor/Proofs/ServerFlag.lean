import TuningAdvisor.Proofs.Numerals
import TuningAdvisor.Proofs.RequestOrder
import TuningAdvisor.Proofs.Texts
/-!
# The server flag comes once, and first: `claim_server_flag` and `jvm_options`

Nothing that is written into an entry has the server flag in it: not a number, not a heap percentage, no collector and
no thread pool. So the flag is where `Generator.withServerFlag` has put it, and that is in front of the first entry that
a run makes for a Java runtime. In the joined options this entry is the first one, **because the order is layered**: the
container's entries are left out of them, and the framework's come behind those of the runtimes
(`Catalog.server_flag_once_and_first`).
-/

namespace TuningAdvisor

/-! ## What is written into entries -/

namespace Written

theorem mem_withPoint {digits places : Nat} {c : Char} (hc : c ∈ (withPoint digits places).toList) :
    c.isDigit = true ∨ c = '.' := by
  obtain ⟨whole, fraction, -, hwhole, hfraction, -, -, htext⟩ := exists_withPoint digits places
  rw [htext] at hc
  split at hc
  · exact .inl (hwhole c hc)
  · rcases List.mem_append.1 hc with hc | hc
    · exact .inl (hwhole c hc)
    · rcases List.mem_cons.1 hc with rfl | hc
      · exact .inr rfl
      · exact .inl (hfraction c hc)

theorem mem_positional {d : DecimalDigits} {c : Char} (hc : c ∈ (positional d).toList) :
    c.isDigit = true ∨ c = '.' := by
  unfold positional at hc
  split at hc
  · rw [String.toList_append, List.mem_append] at hc
    rcases hc with hc | hc
    · rw [digitsOf, String.toList_ofList] at hc
      exact .inl (isDigit_of_mem_digits hc)
    · rw [zeros, String.toList_ofList] at hc
      rw [List.eq_of_mem_replicate hc]
      decide
  · exact mem_withPoint hc

/-- The characters of a written number that are no digits. -/
def marks : List Char := "-.NaNinf".toList

theorem mem_signed {negative : Bool} {s : String} {c : Char} (hs : ∀ c ∈ s.toList, c.isDigit = true ∨ c = '.')
    (hc : c ∈ (sign negative ++ s).toList) : c.isDigit = true ∨ c ∈ marks := by
  rw [String.toList_append, List.mem_append] at hc
  rcases hc with hc | hc
  · cases negative with
    | false => cases hc
    | true =>
      rw [List.mem_singleton.1 hc]
      decide
  · rcases hs c hc with hc | rfl
    · exact .inl hc
    · decide

theorem mem_infinite {negative : Bool} {c : Char} (hc : c ∈ (sign negative ++ "inf").toList) : c ∈ marks := by
  have hmarks : (sign negative ++ "inf").toList ⊆ marks := by cases negative <;> decide
  exact hmarks hc

theorem mem_plain {x : Float} {c : Char} (hc : c ∈ (plain x).toList) : c.isDigit = true ∨ c ∈ marks := by
  unfold plain at hc
  split at hc
  · have hmarks : "NaN".toList ⊆ marks := by decide
    exact .inr (hmarks hc)
  · exact .inr (mem_infinite hc)
  · refine mem_signed (fun c hc => ?_) hc
    split at hc
    · rw [List.mem_singleton.1 hc]
      exact .inl (by decide)
    · exact mem_positional hc

theorem mem_fixed {places : Nat} {x : Float} {c : Char} (hc : c ∈ (fixed places x).toList) :
    c.isDigit = true ∨ c ∈ marks := by
  unfold fixed at hc
  split at hc
  · have hmarks : "NaN".toList ⊆ marks := by decide
    exact .inr (hmarks hc)
  · exact .inr (mem_infinite hc)
  · exact mem_signed (fun c hc => mem_withPoint hc) hc

end Written

/-! ## Entries without the flag -/

/-- A flag occurs in the value. -/
def EnvEntry.Carries (e : EnvEntry) (flag : String) : Prop := flag.toList <:+: e.value.toList

namespace Generator

variable {tunable layer : String} {v : Values} {h : History} {state : RunState} {e : EnvEntry}

theorem not_carries_of_not_mem (hv : 'v' ∉ e.value.toList) : ¬e.Carries serverFlag := by
  intro hcarries
  have hmem : 'v' ∈ serverFlag.toList := by decide
  exact hv (hcarries.subset hmem)

/-- A number has none of the letters of the flag's middle. -/
theorem not_mem_number {s : String} (hs : ∀ c ∈ s.toList, c.isDigit = true ∨ c ∈ Written.marks) : 'v' ∉ s.toList := by
  intro hv
  have hneither : ¬('v'.isDigit = true ∨ 'v' ∈ Written.marks) := by decide
  exact hneither (hs 'v' hv)

theorem containerSetting?_free (he : containerSetting? tunable h = some e) : ¬e.Carries serverFlag := by
  unfold containerSetting? at he
  split at he
  · split at he
    · cases he
      refine not_carries_of_not_mem (not_mem_number fun c hc => ?_)
      dsimp only at hc
      split at hc
      · exact Written.mem_plain hc
      · exact Written.mem_fixed hc
    · cases he
  · cases he

theorem heapSetting?_free {sizing : HeapSizing Float} (he : heapSetting? sizing v h = some e) :
    ¬e.Carries serverFlag := by
  obtain ⟨limits, -, rfl⟩ := Option.map_eq_some_iff.1 he
  refine not_carries_of_not_mem ?_
  rw [String.toList_append, List.mem_append, not_or]
  exact ⟨by decide, not_mem_number fun c hc => Written.mem_fixed hc⟩

theorem collectorSetting?_free {flag : Collector → String} {labels : JavaLabels}
    (hflag : ∀ choice, ¬serverFlag.toList <:+: (flag choice).toList)
    (he : collectorSetting? layer flag v labels = some e) : ¬e.Carries serverFlag := by
  unfold collectorSetting? at he
  obtain ⟨limits, -, he⟩ := Option.bind_eq_some_iff.1 he
  obtain ⟨percent, -, he⟩ := Option.bind_eq_some_iff.1 he
  cases he
  exact hflag _

theorem threadsSetting?_free {pool : ThreadPool} (he : threadsSetting? pool v = some e) : ¬e.Carries serverFlag := by
  unfold threadsSetting? at he
  split at he
  · split at he
    · cases he
    · cases he
      refine not_carries_of_not_mem ?_
      rw [String.toList_append, List.mem_append, not_or]
      refine ⟨by decide, not_mem_number fun c hc => ?_⟩
      exact .inl (Written.isDigit_of_mem_digits (String.toList_ofList ▸ hc))
  · cases he

/-- A collector of a Java runtime has a flag of its own. -/
theorem not_infix_collectorFlag (choice : Collector) :
    ¬serverFlag.toList <:+: choice.hotspotFlag.toList ∧ ¬serverFlag.toList <:+: choice.semeruFlag.toList := by
  cases choice <;> decide

/-! ## Who gives the flag out -/

theorem needsServerFlag_iff {labels : JavaLabels} :
    needsServerFlag labels = true ↔ ∃ major, labels.major? = some major ∧ major ≤ 8 := by
  simp only [needsServerFlag, Option.any_eq_true, decide_eq_true_eq]
  rfl

/-- Whether the next entry for a Java runtime gets the flag. -/
def flagDue (labels : JavaLabels) (state : RunState) : Bool := needsServerFlag labels && !state.serverFlag

theorem withServerFlag_of_due {labels : JavaLabels} (hdue : flagDue labels state = true) (e : EnvEntry) :
    withServerFlag labels e state = (e.withFlag serverFlag, { state with serverFlag := true }) := if_pos hdue

theorem withServerFlag_of_not_due {labels : JavaLabels} (hdue : flagDue labels state = false) (e : EnvEntry) :
    withServerFlag labels e state = (e, state) := if_neg (Bool.eq_false_iff.1 hdue)

/-- A generator that has nothing to do with the flag. -/
structure Flagless (g : Generator) (h : History) : Prop where
  state : ∀ tunable v state, (g.generate tunable v h state).2 = state
  entry : ∀ tunable v state e, (g.generate tunable v h state).1 = some e → ¬e.Carries serverFlag

theorem container_flagless (h : History) : container.Flagless h where
  state tunable v state := by
    unfold container
    dsimp only
    split <;> rfl
  entry tunable v state e he := by
    unfold container at he
    dsimp only at he
    split at he
    · exact containerSetting?_free he
    · cases he

theorem quarkus_flagless (pool : ThreadPool) (h : History) : (quarkus pool).Flagless h where
  state _ _ _ := rfl
  entry tunable v state e he := by
    unfold quarkus at he
    dsimp only at he
    split at he
    · exact threadsSetting?_free he
    · cases he

/-- A generator that has nothing to say, or an entry that gets the flag if that is due. -/
def Flagging (g : Generator) (h : History) : Prop :=
  ∀ tunable v state, g.generate tunable v h state = (none, state) ∨
    ∃ e, ¬e.Carries serverFlag ∧ g.generate tunable v h state =
      (some (withServerFlag (.ofHistory h) e state).1, (withServerFlag (.ofHistory h) e state).2)

theorem java_flagging {flag : Collector → String} (hflag : ∀ choice, ¬serverFlag.toList <:+: (flag choice).toList)
    (layer : String) (sizing : HeapSizing Float) (h : History) : (java layer flag sizing).Flagging h := by
  intro tunable v state
  unfold java
  dsimp only
  split
  · rename_i e he
    refine .inr ⟨e, ?_, rfl⟩
    split at he
    · exact heapSetting?_free he
    · split at he
      · exact collectorSetting?_free hflag he
      · cases he
  · exact .inl rfl

end Generator

/-! ## The flag along a run -/

namespace Resolved

/-- An entry that was made for a Java runtime. -/
def MadeForJava (x : Resolved) : Prop :=
  x.seeded = false ∧ (x.id.layer = LayerName.hotspot ∨ x.id.layer = LayerName.semeru)

instance (x : Resolved) : Decidable x.MadeForJava := inferInstanceAs (Decidable (_ ∧ _))

/-- Whether the entry is one of the joined options. -/
def joined (x : Resolved) : Bool := !x.seeded && x.id.layer != LayerName.container

theorem MadeForJava.joined {x : Resolved} (hx : x.MadeForJava) : x.joined = true := by
  obtain ⟨hmade, hlayer | hlayer⟩ := hx <;> simp [Resolved.joined, hmade, hlayer] <;> decide

end Resolved

@[simp] theorem Run.state_record (run : Run) (id : TunableId) (x : Option Float) :
    (run.record id x).state = run.state := by
  cases x <;> rfl

/-- What settling a tunable adds to the recommendations, and what it does with the flag. What is neither for a Java
runtime nor left out of the options comes from above. -/
inductive FlagStep (labels : JavaLabels) (n : Node) (state : RunState) : Option Resolved → RunState → Prop where
  | nothing : FlagStep labels n state none state
  | apart {x : Resolved} (free : ¬x.entry.Carries Generator.serverFlag) (other : ¬x.MadeForJava)
    (above : x.joined = true → 1 < n.level) : FlagStep labels n state (some x) state
  | java {x : Resolved} {e : EnvEntry} (made : x.MadeForJava) (level : n.level = 1)
    (free : ¬e.Carries Generator.serverFlag) (entry : x.entry = (Generator.withServerFlag labels e state).1) :
    FlagStep labels n state (some x) (Generator.withServerFlag labels e state).2

/-- The steps of a run. -/
inductive FlagRun (labels : JavaLabels) : List Node → RunState → List Resolved → Prop where
  | nil {state : RunState} : FlagRun labels [] state []
  | cons {n : Node} {nodes : List Node} {state state' : RunState} {made? : Option Resolved} {made : List Resolved} :
    FlagStep labels n state made? state' → FlagRun labels nodes state' made →
      FlagRun labels (n :: nodes) state (made?.toList ++ made)

namespace FlagStep

variable {generators : GeneratorRegistry} {g : Generator} {h : History} {n : Node}

/-- The entry that is made for a tunable, as a recommendation. -/
def recommended (n : Node) (made : Except SkipCause EnvEntry) : Option Resolved :=
  made.toOption.map fun e => { id := n.id, entry := e, value := Run.value? n e, seeded := false }

theorem of_flagless (hg : generators.get? n.id.layer = some g) (hflagless : g.Flagless h)
    (hother : n.id.layer ≠ LayerName.hotspot ∧ n.id.layer ≠ LayerName.semeru)
    (habove : n.id.layer ≠ LayerName.container → 1 < n.level) (run : Run) (labels : JavaLabels) :
    FlagStep labels n run.state (recommended n (run.generate generators h n).1) (run.generate generators h n).2 := by
  by_cases hsupports : g.supports n.id.name = true
  · have hstate := hflagless.state n.id.name run.values run.state
    cases hmade : (g.generate n.id.name run.values h run.state).1 with
    | none =>
      simp only [Run.generate, hg, hsupports, if_true, hmade, hstate]
      exact .nothing
    | some e =>
      simp only [Run.generate, hg, hsupports, if_true, hmade, hstate]
      refine .apart (hflagless.entry _ _ _ _ hmade) (fun hjava => ?_) fun hjoined => habove ?_
      · exact hjava.2.elim hother.1 hother.2
      · simpa [Resolved.joined] using hjoined
  · simp only [Run.generate, hg, hsupports]
    exact .nothing

theorem of_flagging (hg : generators.get? n.id.layer = some g) (hflagging : g.Flagging h)
    (hjava : n.id.layer = LayerName.hotspot ∨ n.id.layer = LayerName.semeru) (hlevel : n.level = 1)
    (run : Run) :
    FlagStep (.ofHistory h) n run.state (recommended n (run.generate generators h n).1)
      (run.generate generators h n).2 := by
  by_cases hsupports : g.supports n.id.name = true
  · rcases hflagging n.id.name run.values run.state with hnone | ⟨e, he, hmade⟩
    · simp only [Run.generate, hg, hsupports, if_true, hnone]
      exact .nothing
    · simp only [Run.generate, hg, hsupports, if_true, hmade]
      exact .java ⟨rfl, hjava⟩ hlevel he rfl
  · simp only [Run.generate, hg, hsupports]
    exact .nothing

/-- The runtimes stand on the first level, the framework above them. -/
theorem of_generate (hn : n.Admitted .builtin) (c : Config) (run : Run) :
    FlagStep (.ofHistory h) n run.state (recommended n (run.generate (.builtin c) h n).1)
      (run.generate (.builtin c) h n).2 := by
  obtain ⟨l, hl, hlayer, -, -⟩ := Catalog.exists_layer_of_tunable? hn.defined
  obtain ⟨hcontainer, hhotspot, hsemeru, hquarkus⟩ := GeneratorRegistry.get?_builtin c
  have hlevel := hn.level
  simp only [Layer.builtin, List.mem_cons, List.not_mem_nil, or_false] at hl
  rcases hl with rfl | rfl | rfl | rfl <;> rw [← hlayer] at hlevel
  · have hg : (GeneratorRegistry.builtin c).get? n.id.layer = some .container := hlayer ▸ hcontainer
    refine of_flagless hg (Generator.container_flagless h) ?_ (fun habove => absurd hlayer.symm habove) run _
    rw [← hlayer]
    decide
  · have hg : (GeneratorRegistry.builtin c).get? n.id.layer =
        some (.java LayerName.hotspot Collector.hotspotFlag (.ofConfig c)) := hlayer ▸ hhotspot
    have hflagging := Generator.java_flagging (fun choice => (Generator.not_infix_collectorFlag choice).1)
      LayerName.hotspot (.ofConfig c) h
    exact of_flagging hg hflagging (.inl hlayer.symm) (Option.some.inj hlevel).symm run
  · have hg : (GeneratorRegistry.builtin c).get? n.id.layer =
        some (.java LayerName.semeru Collector.semeruFlag (.ofConfig c)) := hlayer ▸ hsemeru
    have hflagging := Generator.java_flagging (fun choice => (Generator.not_infix_collectorFlag choice).2)
      LayerName.semeru (.ofConfig c) h
    exact of_flagging hg hflagging (.inr hlayer.symm) (Option.some.inj hlevel).symm run
  · have hg : (GeneratorRegistry.builtin c).get? n.id.layer = some (.quarkus (.ofConfig c)) := hlayer ▸ hquarkus
    have htwo : n.level = 2 := (Option.some.inj hlevel).symm
    refine of_flagless hg (Generator.quarkus_flagless _ h) ?_ (fun _ => by omega) run _
    rw [← hlayer]
    decide

/-- A given value is a number only, and no option. -/
theorem of_settle (hn : n.Admitted .builtin) (c : Config) (run : Run) :
    FlagStep (.ofHistory h) n run.state (run.settle (.builtin c) h n).1.resolved?
      (run.settle (.builtin c) h n).2.state := by
  have hgenerate := of_generate (h := h) hn c run
  unfold Run.settle
  split
  · refine .apart (Generator.not_carries_of_not_mem ?_) (fun hjava => Bool.noConfusion hjava.1) nofun
    exact Generator.not_mem_number fun _ hc => Written.mem_plain hc
  · split
    · dsimp only
      generalize run.generate (.builtin c) h n = generated at hgenerate ⊢
      obtain ⟨made, state⟩ := generated
      cases made with
      | ok e =>
        rw [Run.state_record]
        exact hgenerate
      | error cause => exact hgenerate
    · exact .nothing

end FlagStep

namespace FlagRun

variable {labels : JavaLabels} {nodes : List Node} {state : RunState} {made : List Resolved}

theorem of_settleAll (c : Config) (h : History) :
    ∀ (nodes : List Node) (run : Run), (∀ n ∈ nodes, n.Admitted .builtin) →
      FlagRun (.ofHistory h) nodes run.state ((Run.settleAll (.builtin c) h nodes run).1.filterMap Outcome.resolved?)
  | [], _, _ => .nil
  | n :: nodes, run, hnodes => by
    have hstep := FlagStep.of_settle (h := h) (hnodes n List.mem_cons_self) c run
    have hrest := of_settleAll c h nodes (run.settle (.builtin c) h n).2
      fun m hm => hnodes m (List.mem_cons_of_mem _ hm)
    have hcons := FlagRun.cons hstep hrest
    rw [Run.settleAll, List.filterMap_cons]
    cases hmade : (run.settle (.builtin c) h n).1.resolved? <;> rw [hmade] at hcons <;> exact hcons

/-- The recommendations of a report, along the order. -/
theorem of_resolve (c : Config) (requested : List TunableId) (seed : Values) (h : History) :
    FlagRun (.ofHistory h) (Catalog.builtin.order requested).nodes {}
      (Catalog.builtin.resolve (.builtin c) requested seed h).recommendations :=
  of_settleAll c h _ { values := seed } fun _ hn => (Catalog.admitted_of_mem_order hn).2

/-- While the flag is not due, nobody gets it. -/
theorem free (hrun : FlagRun labels nodes state made) (hdue : Generator.flagDue labels state = false) :
    ∀ x ∈ made, ¬x.entry.Carries Generator.serverFlag := by
  induction hrun with
  | nil => simp
  | cons hstep _ ih =>
    cases hstep with
    | nothing => exact ih hdue
    | apart hfree _ _ => exact List.forall_mem_cons.2 ⟨hfree, ih hdue⟩
    | java _ _ hfree hentry =>
      rw [Generator.withServerFlag_of_not_due hdue] at hentry ih
      exact List.forall_mem_cons.2 ⟨hentry ▸ hfree, ih hdue⟩

/-- The first of the joined entries is one for a Java runtime, with the flag in front of it, and no other one has the
flag. -/
def Led (made : List Resolved) : Prop :=
  ∃ (x : Resolved) (rest : List Resolved) (e : EnvEntry), made.filter Resolved.joined = x :: rest ∧ x.MadeForJava ∧
    x.entry = e.withFlag Generator.serverFlag ∧ ¬e.Carries Generator.serverFlag ∧
    ∀ y ∈ rest, ¬y.entry.Carries Generator.serverFlag

/-- While the flag is due, the first entry for a Java runtime gets it. Nothing from above comes before this entry. -/
theorem led (hrun : FlagRun labels nodes state made) (hdue : Generator.flagDue labels state = true)
    (hlevels : nodes.Pairwise fun m n => m.level ≤ n.level) :
    (∀ x ∈ made, ¬x.MadeForJava ∧ ¬x.entry.Carries Generator.serverFlag) ∨
    (Led made ∧ ∃ n ∈ nodes, n.level = 1) := by
  induction hrun with
  | nil => simp
  | @cons n nodes _ _ _ made hstep hrun ih =>
    obtain ⟨hlater, hlevels⟩ := List.pairwise_cons.1 hlevels
    cases hstep with
    | nothing =>
      refine (ih hdue hlevels).imp_right fun ⟨hled, m, hm, hlevel⟩ => ?_
      exact ⟨hled, m, List.mem_cons_of_mem _ hm, hlevel⟩
    | @apart x hfree hother habove =>
      rcases ih hdue hlevels with hnone | ⟨⟨y, rest, e, hjoined, hled⟩, m, hm, hlevel⟩
      · exact .inl (List.forall_mem_cons.2 ⟨⟨hother, hfree⟩, hnone⟩)
      · -- an entry from above does not come before one for a Java runtime, so this one is left out of the options
        have hout : ¬x.joined = true := by
          intro hx
          have := habove hx
          have := hlater m hm
          omega
        refine .inr ⟨⟨y, rest, e, ?_, hled⟩, m, List.mem_cons_of_mem _ hm, hlevel⟩
        rw [Option.toList_some, List.singleton_append, List.filter_cons_of_neg hout, hjoined]
    | @java x e hmade hlevel hfree hentry =>
      rw [Generator.withServerFlag_of_due hdue] at hentry hrun
      have hrest := hrun.free (by simp [Generator.flagDue])
      refine .inr ⟨⟨x, made.filter Resolved.joined, e, ?_, hmade, hentry, hfree, ?_⟩, n, List.mem_cons_self, hlevel⟩
      · exact List.filter_cons_of_pos hmade.joined
      · exact fun y hy => hrest y (List.mem_filter.1 hy).1

end FlagRun

/-! ## The joined options -/

namespace EnvEntry

variable {flag name : String} {e o : EnvEntry} {parts : List EnvEntry}

/-- The flag stands in front, and occurs nowhere else. -/
structure LedBy (flag : String) (e : EnvEntry) : Prop where
  first : ∃ rest, e.value = flag ++ " " ++ rest
  once : ∀ before after, e.value.toList = before ++ flag.toList ++ after → before = []

theorem ledBy_withFlag (he : ¬e.Carries Generator.serverFlag) :
    (e.withFlag Generator.serverFlag).LedBy Generator.serverFlag where
  first := ⟨e.value, rfl⟩
  once before after hsplit := by
    have hvalue : (e.withFlag Generator.serverFlag).value.toList = '-' :: ("server ".toList ++ e.value.toList) := by
      rw [withFlag, String.toList_append]
      rfl
    rw [hvalue] at hsplit
    have hbehind : ¬('-' :: "server".toList) <:+: e.value.toList := he
    exact eq_nil_of_occurrence (by decide) hbehind hsplit.symm

/-- Joining entries makes no new occurrence of a flag. -/
theorem carries_combine_iff (hne : flag.toList ≠ []) (hblank : ' ' ∉ flag.toList) (ho : combine name parts = some o) :
    o.Carries flag ↔ ∃ e ∈ parts, e.Carries flag := by
  unfold combine at ho
  split at ho
  · cases ho
  · cases ho
    rw [Carries, String.toList_intercalate, List.map_map]
    exact (infix_intercalate_iff hne hblank).trans (by simp [Carries])

/-- A flag in front of the first entry stands in front of all of them. -/
theorem combine_withFlag (name flag : String) (e : EnvEntry) (parts : List EnvEntry) :
    ∃ o, combine name (e :: parts) = some o ∧ combine name (e.withFlag flag :: parts) = some (o.withFlag flag) := by
  refine ⟨_, rfl, ?_⟩
  cases parts <;> simp [combine, withFlag, String.intercalate_cons_cons, String.append_assoc]

end EnvEntry

namespace Report

/-- The options are the joined entries. -/
theorem javaOptions?_eq (r : Report) : r.javaOptions? =
    EnvEntry.combine javaOptionsName ((r.recommendations.filter Resolved.joined).map (·.entry)) := rfl

/-- An entry was made for a Java runtime, and the major version is known to be 8 at most. -/
def CallsForServerFlag (labels : JavaLabels) (r : Report) : Prop :=
  (∃ major, labels.major? = some major ∧ major ≤ 8) ∧ ∃ x ∈ r.recommendations, x.MadeForJava

/-- If it is called for, the server flag stands in front of the options and only there. Otherwise it is nowhere. -/
structure PlacesServerFlag (labels : JavaLabels) (r : Report) : Prop where
  given : r.CallsForServerFlag labels →
    ∃ options, r.javaOptions? = some options ∧ options.LedBy Generator.serverFlag
  withheld : ¬r.CallsForServerFlag labels →
    (∀ x ∈ r.recommendations, ¬x.entry.Carries Generator.serverFlag) ∧
      ∀ options, r.javaOptions? = some options → ¬options.Carries Generator.serverFlag

variable {labels : JavaLabels} {r : Report}

/-- No option has the flag if no recommendation has it. -/
theorem options_free (hfree : ∀ x ∈ r.recommendations, ¬x.entry.Carries Generator.serverFlag) {options : EnvEntry}
    (hoptions : r.javaOptions? = some options) : ¬options.Carries Generator.serverFlag := by
  intro hcarries
  obtain ⟨e, he, hcarries⟩ := (EnvEntry.carries_combine_iff (by decide) (by decide) hoptions).1 hcarries
  obtain ⟨x, hx, rfl⟩ := List.mem_map.1 he
  exact hfree x (List.mem_filter.1 hx).1 hcarries

theorem options_led (hled : FlagRun.Led r.recommendations) :
    ∃ options, r.javaOptions? = some options ∧ options.LedBy Generator.serverFlag := by
  obtain ⟨x, rest, e, hjoined, -, hx, he, hrest⟩ := hled
  obtain ⟨o, ho, hoptions⟩ :=
    EnvEntry.combine_withFlag javaOptionsName Generator.serverFlag e (rest.map (·.entry))
  have hfree : ¬o.Carries Generator.serverFlag := by
    rw [EnvEntry.carries_combine_iff (by decide) (by decide) ho]
    rintro ⟨e', he', hcarries⟩
    rcases List.mem_cons.1 he' with rfl | he'
    · exact he hcarries
    · obtain ⟨y, hy, rfl⟩ := List.mem_map.1 he'
      exact hrest y hy hcarries
  refine ⟨_, ?_, EnvEntry.ledBy_withFlag hfree⟩
  rw [javaOptions?_eq, hjoined, List.map_cons, hx, hoptions]

theorem placesServerFlag_of_free (hcalls : ¬r.CallsForServerFlag labels)
    (hfree : ∀ x ∈ r.recommendations, ¬x.entry.Carries Generator.serverFlag) : r.PlacesServerFlag labels where
  given hcalled := absurd hcalled hcalls
  withheld _ := ⟨hfree, fun _ => options_free hfree⟩

theorem placesServerFlag_of_led (hneeds : Generator.needsServerFlag labels = true)
    (hled : FlagRun.Led r.recommendations) : r.PlacesServerFlag labels where
  given _ := options_led hled
  withheld hcalls := by
    obtain ⟨x, rest, e, hjoined, hjava, -⟩ := hled
    have hx : x ∈ r.recommendations.filter Resolved.joined := hjoined ▸ List.mem_cons_self
    exact absurd ⟨Generator.needsServerFlag_iff.1 hneeds, x, (List.mem_filter.1 hx).1, hjava⟩ hcalls

end Report

namespace Catalog

/-- **The server flag comes once, and first.** Take the built-in layers and generators, whatever the configuration, the
request, the given values and the history are. If the latest version label of a Java runtime gives a major version up to
8, and an entry was made for a Java runtime, then the joined options start with the server flag, and it occurs in them
once. Otherwise no recommendation has it, given or made, and neither do the options. -/
theorem server_flag_once_and_first (c : Config) (requested : List TunableId) (seed : Values) (h : History) :
    (Catalog.builtin.resolve (.builtin c) requested seed h).PlacesServerFlag (.ofHistory h) := by
  have hlevels := (sound_pending .builtin requested).layers_ascend
  have hrun := FlagRun.of_resolve c requested seed h
  cases hneeds : Generator.needsServerFlag (.ofHistory h) with
  | true =>
    rcases hrun.led (by rw [Generator.flagDue, hneeds]; rfl) hlevels with hnone | ⟨hled, -⟩
    · refine Report.placesServerFlag_of_free ?_ fun x hx => (hnone x hx).2
      rintro ⟨-, x, hx, hjava⟩
      exact (hnone x hx).1 hjava
    · exact Report.placesServerFlag_of_led hneeds hled
  | false =>
    refine Report.placesServerFlag_of_free ?_ (hrun.free (by rw [Generator.flagDue, hneeds]; rfl))
    rintro ⟨hmajor, -⟩
    exact absurd (Generator.needsServerFlag_iff.2 hmajor) (by simp [hneeds])

/-- The collector of one Java runtime, and the percentages of both. -/
def bothRuntimes : List TunableId := ⟨LayerName.semeru, TunableName.gcPolicy⟩ :: bothPercentages

/-- The percentage of Hotspot gets the flag, and the two entries for Semeru do without. -/
theorem bothRuntimes_one_flag :
    ∃ r, Catalog.builtin.resolve (.builtin {}) bothRuntimes givenLimits javaEight = r ∧
      r.PlacesServerFlag (.ofHistory javaEight) ∧ r.CallsForServerFlag (.ofHistory javaEight) ∧
      r.javaOptions?.map (·.value) =
        some "-server -XX:MaxRAMPercentage=75.0 -XX:MaxRAMPercentage=75.0 -Xgcpolicy:optthruput" := by
  have hplaces := server_flag_once_and_first {} bothRuntimes givenLimits javaEight
  exact ⟨_, rfl, hplaces, ⟨⟨8, by decide +kernel, by decide⟩, by decide +kernel⟩, by decide +kernel⟩

end Catalog

end TuningAdvisor
