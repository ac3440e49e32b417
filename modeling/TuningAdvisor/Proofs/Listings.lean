import Mathlib
import TuningAdvisor.CommandLine.Program
import TuningAdvisor.Proofs.Frozen
/-!
# What is listed behind results: `update_results` of the program and `latest_recommendations`

The program registers experiments, takes in results, and lists the latest recommendations of the experiments that the
report on the registration names. **Every experiment is listed as often as the report names it**
(`Output.Lists.repeated`), accepted or not. Since each experiment is accepted once, the list is free of repetitions
exactly if no rejected item has the name of an experiment with recommendations (`Output.Lists.once_iff`).
-/

namespace TuningAdvisor

namespace BatchReport

/-- The names of the items. -/
def names (r : BatchReport) : List String := r.items.map (·.experiment)

/-- The names of the accepted items. -/
def acceptedNames (r : BatchReport) : List String := (r.items.filter (·.verdict.success)).map (·.experiment)

/-- The names of the rejected items. -/
def rejectedNames (r : BatchReport) : List String := (r.items.filter fun i => !i.verdict.success).map (·.experiment)

theorem count_names (r : BatchReport) (name : String) :
    r.names.count name = r.acceptedNames.count name + r.rejectedNames.count name := by
  rw [← List.count_append]
  exact ((List.filter_append_perm _ r.items).map _).symm.count_eq name |>.trans (by rw [List.map_append]; rfl)

end BatchReport

/-! ## Registered experiments -/

namespace Engine

/-- The names of the accepted items of a batch are those of the stored experiments. -/
structure Stocked (accepted : List String) (e : Engine) : Prop where
  nodup : accepted.Nodup
  mem_iff : ∀ name, name ∈ accepted ↔ (e.store.get? name).isSome = true

namespace Stocked

variable {accepted : List String} {e f : Engine}

theorem books (h : Stocked accepted e) (hb : e.Books f) : Stocked accepted f := ⟨h.nodup, hb.store ▸ h.mem_iff⟩

theorem registerItem (h : Stocked accepted e) (x : Experiment) :
    Stocked (accepted ++ if (e.registerItem x).1.verdict.success then [(e.registerItem x).1.experiment] else [])
      (e.registerItem x).2 := by
  show Stocked (accepted ++ if (e.register x).1.success then [x.name] else []) (e.register x).2
  rcases register_cases e x with ⟨hrejected, hstore⟩ | ⟨u, choice, p, hx, haccepted, hstore⟩
  · rw [hrejected, if_neg Bool.false_ne_true, List.append_nil]
    exact ⟨h.nodup, hstore ▸ h.mem_iff⟩
  · rw [haccepted, if_pos rfl]
    have hnew : x.name ∉ accepted := by
      rw [h.mem_iff, hx.unused]
      simp
    refine ⟨(List.perm_append_singleton _ _).nodup_iff.2 (List.nodup_cons.2 ⟨hnew, h.nodup⟩), fun name => ?_⟩
    rw [hstore, List.mem_append, List.mem_singleton, h.mem_iff]
    by_cases hname : name = x.name
    · simp [hname]
    · simp [hname, SortedMap.get?_insert_of_ne _ _ hname]

theorem ingestItem (h : Stocked accepted e) (s : Submission) : Stocked accepted (e.ingestItem s).2 := by
  rcases ingestItem_cases e s with ⟨-, hstore⟩ | ⟨_, old, _, _, new, _, -, hold, -, -, hstore⟩
  · exact ⟨h.nodup, hstore ▸ h.mem_iff⟩
  · refine ⟨h.nodup, fun name => ?_⟩
    rw [hstore, h.mem_iff]
    by_cases hname : name = s.name
    · simp [hname, hold]
    · rw [SortedMap.get?_insert_of_ne _ _ hname]

theorem registerAll (hempty : e.store = ∅) (experiments : List Experiment) :
    Stocked (e.registerAll experiments).1.acceptedNames (e.registerAll experiments).2 := by
  have hitem (items : List BatchItem) (e : Engine) (x : Experiment)
      (h : Stocked ((items.filter (·.verdict.success)).map (·.experiment)) e) :
      Stocked (((items ++ [(e.registerItem x).1]).filter (·.verdict.success)).map (·.experiment)) (e.registerItem x).2 := by
    have hnext := h.registerItem x
    rw [List.filter_append, List.map_append]
    cases hsuccess : (e.registerItem x).1.verdict.success <;> simpa [hsuccess] using hnext
  have hnone : Stocked [] e := by
    refine ⟨List.nodup_nil, fun name => ?_⟩
    rw [hempty]
    simp [SortedMap.get?, EmptyCollection.emptyCollection, SortedMap.empty, SortedMap.lookup]
  have hbatch := runBatch_items (fun items => Stocked ((items.filter (·.verdict.success)).map (·.experiment))) hitem
    e.config.batchPolicy experiments [] e hnone
  rw [List.nil_append] at hbatch
  exact (hbatch.books (books_noteHalt _ _ _)).books (books_countStore _)

theorem ingestAll (h : Stocked accepted e) (results : List Submission) : Stocked accepted (e.ingestAll results).2 :=
  -- nothing is noted of the results
  @ingestAll_induction Unit (fun _ _ => []) (fun _ e => Stocked accepted e) (fun hb h => h.books hb)
    (fun h => h.ingestItem _) [] e results h

theorem perm_keys (h : Stocked accepted e) : accepted.Perm e.store.keys :=
  (List.perm_ext_iff_of_nodup h.nodup (SortedMap.nodup_keys _)).2 fun name => by
    rw [h.mem_iff, SortedMap.mem_keys_iff]

end Stocked

end Engine

/-! ## Lists of recommendations -/

namespace Output

open Engine (Named)

namespace Latest

/-- What is listed where a name is listed once. -/
def named (e : Engine) (name : String) : List Latest := ofExperiments (e.store.get? name).toList

variable {c : Config} {e : Engine}

theorem mem_named {name : String} {l : Latest} :
    l ∈ named e name ↔ ∃ x k, e.store.get? name = some x ∧ k ∈ x.containers ∧ ofContainer? x k = some l := by
  simp only [named, ofExperiments, List.mem_flatMap, Option.mem_toList, List.mem_filterMap]
  constructor
  · rintro ⟨x, hx, k, hk, hlatest⟩
    exact ⟨x, k, hx, hk, hlatest⟩
  · rintro ⟨x, k, hx, hk, hlatest⟩
    exact ⟨x, hx, k, hk, hlatest⟩

theorem experiment_of_mem (h : Named c e) {name : String} {l : Latest} (hl : l ∈ named e name) : l.experiment = name := by
  obtain ⟨x, k, hx, -, hlatest⟩ := mem_named.1 hl
  obtain ⟨_, -, rfl⟩ := Option.map_eq_some_iff.1 hlatest
  simp [Experiment.name, h.names name x hx]

/-- What is listed under a name is what the name brings, once for every time that it is there. -/
theorem filter_flatMap_named (h : Named c e) (names : List String) (name : String) :
    (names.flatMap (named e)).filter (·.experiment == name) =
      (List.replicate (names.count name) (named e name)).flatten := by
  induction names with
  | nil => rfl
  | cons other rest ih =>
    rw [List.flatMap_cons, List.filter_append, ih]
    by_cases hname : other = name
    · subst hname
      have hall : (named e other).filter (·.experiment == other) = named e other :=
        List.filter_eq_self.2 fun l hl => by simp [experiment_of_mem h hl]
      rw [hall, List.count_cons_self, List.replicate_succ, List.flatten_cons]
    · have hnone : (named e other).filter (·.experiment == name) = [] :=
        List.filter_eq_nil_iff.2 fun l hl => by simp [experiment_of_mem h hl, hname]
      rw [hnone, List.nil_append, List.count_cons_of_ne hname]

/-- Lists that agree under every name are permutations of each other. -/
theorem perm_of_filter_eq {ls ms : List Latest}
    (h : ∀ name, ls.filter (·.experiment == name) = ms.filter (·.experiment == name)) : ls.Perm ms := by
  classical
  rw [List.perm_iff_count]
  intro l
  have hcount (ls : List Latest) : (ls.filter (·.experiment == l.experiment)).count l = ls.count l :=
    List.count_filter (by simp)
  rw [← hcount ls, ← hcount ms, h]

theorem perm_flatMap_named_iff (h : Named c e) (names others : List String) :
    (names.flatMap (named e)).Perm (others.flatMap (named e)) ↔
      ∀ name, named e name ≠ [] → names.count name = others.count name := by
  constructor
  · intro hperm name hne
    have hlength := (hperm.filter (·.experiment == name)).length_eq
    rw [filter_flatMap_named h, filter_flatMap_named h] at hlength
    simpa [hne] using hlength
  · intro hcount
    refine perm_of_filter_eq fun name => ?_
    rw [filter_flatMap_named h, filter_flatMap_named h]
    by_cases hne : named e name = []
    · simp [hne]
    · rw [hcount name hne]

end Latest

theorem latestOf_eq (e : Engine) (r : BatchReport) : latestOf e r = r.names.flatMap (Latest.named e) := by
  unfold latestOf BatchReport.names
  induction r.items with
  | nil => rfl
  | cons i rest ih =>
    rw [List.map_cons, List.flatMap_cons, ← ih, List.filterMap_cons]
    cases hx : e.store.get? i.experiment <;> simp [Latest.named, Latest.ofExperiments, hx]

/-- The latest recommendations of all that is stored. -/
theorem ofExperiments_values (e : Engine) :
    Latest.ofExperiments e.store.values = e.store.keys.flatMap (Latest.named e) := by
  unfold Latest.ofExperiments SortedMap.values SortedMap.keys
  rw [List.flatMap_map, List.flatMap_map]
  refine List.flatMap_congr fun x hx => ?_
  rw [Latest.named, SortedMap.mem_entries_iff.1 hx]
  simp [Latest.ofExperiments]

/-- What is listed behind a batch of registrations. -/
structure Lists (e : Engine) (registered : BatchReport) (listed : List Latest) : Prop where
  /-- The experiments that are stored are the accepted ones. -/
  accepted : registered.acceptedNames.Perm e.store.keys
  /-- Nothing is listed but the latest recommendations of containers of stored experiments, and none is left out. -/
  mem_iff : ∀ l, l ∈ listed ↔
    ∃ x k, e.store.get? l.experiment = some x ∧ k ∈ x.containers ∧ Latest.ofContainer? x k = some l
  /-- A name is listed as often as the report has it, each time with all containers in their order. -/
  repeated : ∀ name, listed.filter (·.experiment == name) =
    (List.replicate (registered.names.count name) (Latest.named e name)).flatten
  /-- Each is listed once exactly if no rejected item has the name of an experiment with recommendations. -/
  once_iff : listed.Perm (Latest.ofExperiments e.store.values) ↔
    ∀ name ∈ registered.rejectedNames, Latest.named e name = []

theorem lists_latestOf {c : Config} {e : Engine} {r : BatchReport} (h : Named c e)
    (hstocked : Engine.Stocked r.acceptedNames e) : Lists e r (latestOf e r) where
  accepted := hstocked.perm_keys
  mem_iff l := by
    rw [latestOf_eq, List.mem_flatMap]
    constructor
    · rintro ⟨name, -, hl⟩
      have hname := Latest.experiment_of_mem h hl
      exact Latest.mem_named.1 (hname ▸ hl)
    · intro hl
      obtain ⟨x, k, hx, hk⟩ := hl
      have haccepted : l.experiment ∈ r.acceptedNames := (hstocked.mem_iff _).2 (by simp [hx])
      refine ⟨l.experiment, ?_, Latest.mem_named.2 ⟨x, k, hx, hk⟩⟩
      exact (List.filter_sublist.map _).subset haccepted
  repeated name := by rw [latestOf_eq, Latest.filter_flatMap_named h]
  once_iff := by
    rw [latestOf_eq, ofExperiments_values, Latest.perm_flatMap_named_iff h]
    have hcount (name : String) : r.names.count name = e.store.keys.count name ↔ name ∉ r.rejectedNames := by
      rw [r.count_names, hstocked.perm_keys.count_eq, ← List.count_eq_zero]
      omega
    simp only [hcount]
    exact ⟨fun honce name hname => by_contra fun hne => honce name hne hname,
      fun hnone name hne hname => hne (hnone name hname)⟩

end Output

/-! ## The program -/

namespace Program

open Output (Lists)

/-- **What is listed behind results.** The list that is written has the latest recommendations of all containers of the
registered experiments and nothing else, under both policies; an experiment is listed as often as the report on the
registrations names it, and so the list is free of repetitions exactly if no rejected item has the
name of an experiment with recommendations. -/
theorem updateResults_lists (c : Config) (profiles : ProfileStore) {files : FileTree} {path : String} {paths : List String}
    {experiments : List Experiment} {results : List (List Submission)}
    (hexperiments : readRecords Experiment.decode files path = .ok experiments)
    (hresults : paths.mapM (readRecords Submission.decode files) = .ok results) :
    ∃ registered ingested e listed,
      ((Engine.ofConfig c profiles).registerAll experiments).1 = registered ∧
      ((Engine.ofConfig c profiles).registerAll experiments).2.ingestAll results.flatten = (ingested, e) ∧
      (perform files .json (.updateResults path paths) (Engine.ofConfig c profiles)).1.lines =
        shown (.obj [("experiments", registered.encode), ("results", ingested.encode),
          ("recommendations", .arr (listed.map Output.Latest.encode))]) ∧
      (perform files .table (.updateResults path paths) (Engine.ofConfig c profiles)).1.lines =
        Output.batchTable "experiments" registered ++ Output.batchTable "result windows" ingested
          ++ Output.latestTable listed ∧
      Lists e registered listed := by
  have hstart : Engine.Named c (Engine.ofConfig c profiles) := ⟨rfl, fun key x hx => by cases hx⟩
  have hnamed := (Engine.named_kept c).serve (.ingestAll results.flatten)
    ((Engine.named_kept c).serve (.registerAll experiments) hstart)
  have hstocked := (Engine.Stocked.registerAll (e := Engine.ofConfig c profiles) rfl experiments).ingestAll results.flatten
  refine ⟨_, _, _, _, rfl, rfl, ?_, ?_, Output.lists_latestOf hnamed hstocked⟩
  · simp only [perform, action, updateResults, register, hexperiments, hresults]
    rfl
  · simp only [perform, action, updateResults, register, hexperiments, hresults]
    rfl

/-- A document with an experiment that is there twice. -/
def repeatedExperiments : String :=
  let shop := "\x7b\"experiment_name\":\"shop\",\"mode\":\"experiment\",\"target_cluster\":\"local\","
    ++ "\"slo\":\x7b\x7d,\"selector\":\x7b\x7d\x7d"
  "[" ++ shop ++ "," ++ shop ++ "]"

/-- A result of the experiment. -/
def repeatedResult : String :=
  "\x7b\"experiment_name\":\"shop\",\"interval_start_time\":\"2022-01-23T18:25:43Z\","
    ++ "\"interval_end_time\":\"2022-01-23T18:40:43Z\",\"kubernetes_objects\":[\x7b\"name\":\"web\","
    ++ "\"containers\":[\x7b\"container_name\":\"server\"\x7d]\x7d]\x7d"

/-- A file of experiments and a file of results. -/
def twoFiles (experiments results : String) : FileTree where
  files := [(["e"], experiments), (["r"], results)]

theorem read_twoFiles (experiments results : String) : (twoFiles experiments results).read "e" = .ok experiments ∧
    (twoFiles experiments results).read "r" = .ok results :=
  ⟨by cbv, by cbv⟩

theorem readRecords_of_read {α : Type} {decoder : Decoder α} {files : FileTree} {path text : String} {records : List α}
    (hread : files.read path = .ok text) (hparse : parseRecords decoder text = .ok records) :
    readRecords decoder files path = .ok records := by
  unfold readRecords
  rw [hread]
  show (parseRecords decoder text).mapError _ = _
  rw [hparse]
  rfl

/-- What is recommended for the experiment is listed twice: its second registration is rejected, and reported. -/
theorem repeatedExperiments_listed_twice : ∃ experiments result,
    readRecords Experiment.decode (twoFiles repeatedExperiments repeatedResult) "e" = .ok experiments ∧
    ["r"].mapM (readRecords Submission.decode (twoFiles repeatedExperiments repeatedResult)) = .ok [result] ∧
    ∃ registered ingested e listed,
      ((Engine.ofConfig {} {}).registerAll experiments).1 = registered ∧
      ((Engine.ofConfig {} {}).registerAll experiments).2.ingestAll [result].flatten = (ingested, e) ∧
      Lists e registered listed ∧ registered.names.count "shop" = 2 ∧ Output.Latest.named e "shop" ≠ [] ∧
      ¬listed.Perm (Output.Latest.ofExperiments e.store.values) := by
  have hrun : ((parseRecords Experiment.decode repeatedExperiments).toOption.any fun experiments =>
      (parseRecords Submission.decode repeatedResult).toOption.any fun result =>
        let run := (Engine.ofConfig {} {}).registerAll experiments
        run.1.names.count "shop" == 2 && run.1.rejectedNames.contains "shop"
          && !(Output.Latest.named (run.2.ingestAll [result].flatten).2 "shop").isEmpty) = true := by decide +kernel
  obtain ⟨experiments, hexperiments, hrun⟩ := (Option.any_eq_true _ _).1 hrun
  obtain ⟨result, hresult, hrun⟩ := (Option.any_eq_true _ _).1 hrun
  obtain ⟨hfirst, hsecond⟩ := read_twoFiles repeatedExperiments repeatedResult
  have hread := readRecords_of_read hfirst (of_toOption_eq_some hexperiments)
  have hreads : ["r"].mapM (readRecords Submission.decode (twoFiles repeatedExperiments repeatedResult)) =
      .ok [result] := by
    rw [List.mapM_cons, readRecords_of_read hsecond (of_toOption_eq_some hresult)]
    rfl
  obtain ⟨registered, ingested, e, listed, hregistered, hingested, -, -, hlists⟩ := updateResults_lists {} {} hread hreads
  simp only [hregistered, hingested, Bool.and_eq_true, beq_iff_eq, List.contains_iff_mem, Bool.not_eq_true',
    List.isEmpty_eq_false_iff] at hrun
  obtain ⟨⟨hcount, hrejected⟩, hnamed⟩ := hrun
  refine ⟨experiments, result, hread, hreads, registered, ingested, e, listed, hregistered, hingested, hlists, hcount,
    hnamed, fun honce => hnamed (hlists.once_iff.1 honce _ hrejected)⟩

end Program

end TuningAdvisor
