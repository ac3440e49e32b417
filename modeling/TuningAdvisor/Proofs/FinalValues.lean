import Mathlib.Data.List.Perm.Basic
import TuningAdvisor.Proofs.Placement
import TuningAdvisor.Proofs.Prerequisites
/-!
# The final values determine a report: `DependencyResolver::resolve`

A tunable is settled from the values of its dependencies, and these are what they are in the end: what comes later in
an order is no dependency of it. So every outcome can be told from the final values (`Run.SettledBy`), and along any
order of the same tunables **the final values are the same** (`Run.settledBy_unique`), as long as the
generators read only what a tunable declares. The only other thing that goes from one generation to the next is the
server flag, and it shows in front of an entry only.
-/

namespace TuningAdvisor

/-! ## Alike but for the server flag -/

/-- The same entries, but for a server flag in front of one of them. -/
def EnvEntry.Alike (a b : EnvEntry) : Prop :=
  a = b ∨ a = b.withFlag Generator.serverFlag ∨ b = a.withFlag Generator.serverFlag

/-- The same recommendations, but for a server flag. -/
structure Resolved.Alike (x y : Resolved) : Prop where
  id : y.id = x.id
  value : y.value = x.value
  seeded : y.seeded = x.seeded
  entry : x.entry.Alike y.entry

/-- The same outcomes, but for a server flag. -/
inductive Outcome.Alike : Outcome → Outcome → Prop where
  | settled {x y : Resolved} : x.Alike y → Alike (.settled x) (.settled y)
  | skipped (n : Notification) : Alike (.skipped n) (.skipped n)

/-- The same generations for a tunable, but for a server flag: there is the same number in the entries. -/
inductive Node.MadeAlike (n : Node) : Except SkipCause EnvEntry → Except SkipCause EnvEntry → Prop where
  | entry {a b : EnvEntry} : a.Alike b → Run.value? n b = Run.value? n a → MadeAlike n (.ok a) (.ok b)
  | cause (c : SkipCause) : MadeAlike n (.error c) (.error c)

/-- The generation of a tunable reads no values but those of its dependencies. -/
def Node.ReadsDeclared (n : Node) (generators : GeneratorRegistry) (h : History) : Prop :=
  ∀ run run' : Run, (∀ d ∈ n.tunable.dependsOn, run'.values.get? d = run.values.get? d) →
    n.MadeAlike (run.generate generators h n).1 (run'.generate generators h n).1

namespace Run

variable {generators : GeneratorRegistry} {h : History} {run run' : Run} {n : Node} {nodes : List Node}

theorem get?_record (run : Run) (id : TunableId) (x : Option Float) :
    (run.record id x).values.get? id = x.or (run.values.get? id) := by
  cases x <;> simp [record]

/-- Runs that have the same values for a tunable and its dependencies settle it alike. -/
theorem settle_alike (hreads : n.ReadsDeclared generators h) (hself : run'.values.get? n.id = run.values.get? n.id)
    (hdeps : ∀ d ∈ n.tunable.dependsOn, run'.values.get? d = run.values.get? d) :
    Outcome.Alike (run.settle generators h n).1 (run'.settle generators h n).1 ∧
      (run'.settle generators h n).2.values.get? n.id = (run.settle generators h n).2.values.get? n.id := by
  have hmissing : run'.missing n = run.missing n := by
    refine List.filter_congr fun d hd => ?_
    rw [SortedMap.contains_eq, SortedMap.contains_eq, hdeps d hd]
  unfold settle
  rw [hself, hmissing]
  cases hvalue : run.values.get? n.id with
  | some x => exact ⟨.settled ⟨rfl, rfl, rfl, .inl rfl⟩, by simp [hself, hvalue]⟩
  | none =>
    cases hlack : run.missing n with
    | cons d lacking => exact ⟨.skipped _, by simp [hself, hvalue]⟩
    | nil =>
      have hmade := hreads run run' hdeps
      dsimp only
      cases hmade' : (run.generate generators h n).1 <;> cases hmade'' : (run'.generate generators h n).1 <;>
        rw [hmade', hmade''] at hmade <;> cases hmade
      · exact ⟨.skipped _, by simp [hself, hvalue]⟩
      · rename_i halike hnumber
        exact ⟨.settled ⟨rfl, hnumber, rfl, halike⟩, by simp [get?_record, hself, hvalue, hnumber]⟩

/-! ## Settled by the final values -/

/-- The outcome and the value of a tunable are those of some run that has the final values for its dependencies, and
for itself the given one. -/
def SettledBy (generators : GeneratorRegistry) (h : History) (seed final : Values) (n : Node) (o : Outcome) : Prop :=
  ∃ run : Run, run.values.get? n.id = seed.get? n.id ∧
    (∀ d ∈ n.tunable.dependsOn, d ≠ n.id → run.values.get? d = final.get? d) ∧
    (run.settle generators h n).1 = o ∧ (run.settle generators h n).2.values.get? n.id = final.get? n.id

/-- Every outcome of an order can be told from the final values. -/
theorem settledBy_settleAll (generators : GeneratorRegistry) (h : History) (seed : Values) :
    ∀ (nodes : List Node) (run : Run), (nodes.map (·.id)).Nodup →
      nodes.Pairwise (fun m n => n.id ∉ m.tunable.dependsOn) → (∀ n ∈ nodes, run.values.get? n.id = seed.get? n.id) →
      List.Forall₂ (SettledBy generators h seed (settleAll generators h nodes run).2.values) nodes
        (settleAll generators h nodes run).1
  | [], _, _, _, _ => .nil
  | node :: rest, run, hdistinct, htopological, hseed => by
    obtain ⟨hnew, hdistinct⟩ := List.nodup_cons.1 hdistinct
    obtain ⟨hlater, htopological⟩ := List.pairwise_cons.1 htopological
    have hsettles := settles_settle generators h run node
    simp only [settleAll]
    refine .cons ⟨run, hseed node List.mem_cons_self, fun d hd hne => ?_, rfl, ?_⟩ ?_
    · -- a dependency does not come any more
      have hrest : d ∉ rest.map (·.id) := by
        intro hmem
        obtain ⟨m, hm, rfl⟩ := List.mem_map.1 hmem
        exact hlater m hm hd
      rw [get?_settleAll_of_notMem hrest, hsettles.others d hne]
    · rw [get?_settleAll_of_notMem hnew]
    · refine settledBy_settleAll generators h seed rest _ hdistinct htopological fun m hm => ?_
      have hne : m.id ≠ node.id := fun e => hnew (List.mem_map.2 ⟨m, hm, e⟩)
      rw [hsettles.others _ hne, hseed m (List.mem_cons_of_mem _ hm)]

variable {seed seed' final final' : Values} {o o' : Outcome} {outcomes outcomes' : List Outcome}

theorem SettledBy.id (ho : SettledBy generators h seed final n o) : o.id = n.id := by
  obtain ⟨run, -, -, rfl, -⟩ := ho
  exact (settles_settle generators h run n).id

/-- A given value is surfaced, and kept. -/
theorem SettledBy.of_given {x : Float} (ho : SettledBy generators h seed final n o) (hx : seed.get? n.id = some x) :
    o = .settled { id := n.id, entry := { name := n.id.name, value := plain x }, value := some x, seeded := true } ∧
      final.get? n.id = some x := by
  obtain ⟨run, hself, -, rfl, hfinal⟩ := ho
  rw [settle_of_given (hself.trans hx)] at hfinal ⊢
  exact ⟨rfl, hfinal.symm.trans (hself.trans hx)⟩

/-- Along one order, two ways of settling agree in all their values when every single tunable gets the same value from
the same values of its dependencies; what is known of every two outcomes then holds side by side. -/
theorem settledBy_related {R : Outcome → Outcome → Prop}
    (hstep : ∀ n ∈ nodes, ∀ o o', SettledBy generators h seed final n o → SettledBy generators h seed' final' n o' →
      (∀ d ∈ n.tunable.dependsOn, d ≠ n.id → final'.get? d = final.get? d) →
      R o o' ∧ final'.get? n.id = final.get? n.id)
    (htopological : nodes.Pairwise fun m n => n.id ∉ m.tunable.dependsOn)
    (ho : List.Forall₂ (SettledBy generators h seed final) nodes outcomes)
    (ho' : List.Forall₂ (SettledBy generators h seed' final') nodes outcomes')
    (hothers : ∀ id, id ∉ nodes.map (·.id) → final'.get? id = final.get? id) :
    (∀ id, final'.get? id = final.get? id) ∧ List.Forall₂ R outcomes outcomes' := by
  induction ho generalizing outcomes' with
  | nil => cases ho'; exact ⟨fun id => hothers id (by simp), .nil⟩
  | @cons n o rest outcomes hn hrest ih =>
    cases ho' with
    | cons hn' hrest' =>
      obtain ⟨hlater, htopological⟩ := List.pairwise_cons.1 htopological
      rw [List.forall_mem_cons] at hstep
      -- what the next one depends on is not in the order any more
      obtain ⟨hrelated, hvalue⟩ := hstep.1 _ _ hn hn' fun d hd hne => hothers d <| by
        rw [List.map_cons, List.mem_cons, not_or]
        refine ⟨hne, fun hmem => ?_⟩
        obtain ⟨m, hm, rfl⟩ := List.mem_map.1 hmem
        exact hlater m hm hd
      obtain ⟨hall, houtcomes⟩ := ih hstep.2 htopological hrest' fun id hid => by
        by_cases heq : id = n.id
        · exact heq ▸ hvalue
        · exact hothers id (by simp [heq] at hid ⊢; exact hid)
      exact ⟨hall, .cons hrelated houtcomes⟩

theorem SettledBy.alike (hreads : n.ReadsDeclared generators h) (ho : SettledBy generators h seed final n o)
    (ho' : SettledBy generators h seed final' n o')
    (hdeps : ∀ d ∈ n.tunable.dependsOn, d ≠ n.id → final'.get? d = final.get? d) :
    o.Alike o' ∧ final'.get? n.id = final.get? n.id := by
  obtain ⟨run, hself, hrun, rfl, hfinal⟩ := ho
  obtain ⟨run', hself', hrun', rfl, hfinal'⟩ := ho'
  -- a tunable that depends on itself finds the given value of itself, whatever becomes of it
  have hvalues : ∀ d ∈ n.tunable.dependsOn, run'.values.get? d = run.values.get? d := by
    intro d hd
    by_cases hd' : d = n.id
    · rw [hd', hself, hself']
    · rw [hrun d hd hd', hrun' d hd hd', hdeps d hd hd']
  obtain ⟨halike, hvalue⟩ := settle_alike hreads (hself'.trans hself.symm) hvalues
  exact ⟨halike, by rw [← hfinal, ← hfinal', hvalue]⟩

/-- **The final values of an order are determined** by what they are for all that is not in it, and so are the outcomes,
but for the server flag. -/
theorem settledBy_unique (hreads : ∀ n ∈ nodes, n.ReadsDeclared generators h)
    (htopological : nodes.Pairwise fun m n => n.id ∉ m.tunable.dependsOn)
    (ho : List.Forall₂ (SettledBy generators h seed final) nodes outcomes)
    (ho' : List.Forall₂ (SettledBy generators h seed final') nodes outcomes')
    (hothers : ∀ id, id ∉ nodes.map (·.id) → final'.get? id = final.get? id) :
    (∀ id, final'.get? id = final.get? id) ∧ List.Forall₂ Outcome.Alike outcomes outcomes' :=
  settledBy_related (fun n hn _ _ hfirst hsecond hdeps => hfirst.alike (hreads n hn) hsecond hdeps) htopological ho ho'
    hothers

end Run

/-! ## Reports of permuted requests -/

theorem Outcome.Alike.notification? {o o' : Outcome} (h : o.Alike o') : o'.notification? = o.notification? := by
  cases h <;> rfl

/-- Outcomes that are related one by one have the same notifications, if every two related ones have. -/
theorem Outcome.notifications_of_forall₂ {R : Outcome → Outcome → Prop} {outcomes outcomes' : List Outcome}
    (hR : ∀ o o', R o o' → o'.notification? = o.notification?) (h : List.Forall₂ R outcomes outcomes') :
    outcomes'.filterMap Outcome.notification? = outcomes.filterMap Outcome.notification? := by
  induction h with
  | nil => rfl
  | cons ho _ ih => simp [List.filterMap_cons, hR _ _ ho, ih]

/-- The recommendation for a tunable among outcomes. -/
def Outcome.recommendation? (outcomes : List Outcome) (id : TunableId) : Option Resolved :=
  (outcomes.filterMap Outcome.resolved?).find? (·.id == id)

theorem Outcome.recommendation?_of_alike {outcomes outcomes' : List Outcome}
    (h : List.Forall₂ Outcome.Alike outcomes outcomes') (id : TunableId) :
    Option.Rel Resolved.Alike (recommendation? outcomes id) (recommendation? outcomes' id) := by
  unfold recommendation?
  induction h with
  | nil => exact .none
  | cons ho _ ih =>
    cases ho with
    | skipped n => simpa [Outcome.resolved?] using ih
    | @settled x y hxy =>
      by_cases hid : x.id = id
      · simpa [Outcome.resolved?, hxy.id, hid] using Option.Rel.some hxy
      · simpa [Outcome.resolved?, hxy.id, hid] using ih

theorem Outcome.recommendation?_eq_some_iff {outcomes : List Outcome} (hdistinct : (outcomes.map Outcome.id).Nodup)
    {id : TunableId} {x : Resolved} : recommendation? outcomes id = some x ↔ .settled x ∈ outcomes ∧ x.id = id := by
  have hmem : ∀ y, y ∈ outcomes.filterMap Outcome.resolved? ↔ .settled y ∈ outcomes := by
    intro y
    rw [List.mem_filterMap]
    constructor
    · rintro ⟨o, ho, hy⟩
      cases o with
      | settled r => cases hy; exact ho
      | skipped n => cases hy
    · exact fun hy => ⟨_, hy, rfl⟩
  unfold recommendation?
  constructor
  · intro hx
    exact ⟨(hmem x).1 (List.mem_of_find?_eq_some hx), by simpa using List.find?_some hx⟩
  · rintro ⟨hx, rfl⟩
    have hfound : ((outcomes.filterMap Outcome.resolved?).find? (·.id == x.id)).isSome = true :=
      List.find?_isSome.2 ⟨x, (hmem x).2 hx, by simp⟩
    obtain ⟨y, hy⟩ := Option.isSome_iff_exists.1 hfound
    have hid : y.id = x.id := by simpa using List.find?_some hy
    have hsame := List.inj_on_of_nodup_map hdistinct ((hmem y).1 (List.mem_of_find?_eq_some hy)) hx hid
    rw [hy, Outcome.settled.inj hsame]

theorem Outcome.recommendation?_of_perm {outcomes outcomes' : List Outcome} (hperm : outcomes.Perm outcomes')
    (hdistinct : (outcomes.map Outcome.id).Nodup) (id : TunableId) :
    recommendation? outcomes' id = recommendation? outcomes id := by
  have hdistinct' : (outcomes'.map Outcome.id).Nodup := (hperm.map Outcome.id).nodup_iff.1 hdistinct
  ext x
  rw [recommendation?_eq_some_iff hdistinct, recommendation?_eq_some_iff hdistinct', hperm.mem_iff]

/-- The same values, the same notifications in some order, and for every tunable the same recommendation but for a
server flag. -/
structure Report.Alike (r r' : Report) : Prop where
  values : r'.values = r.values
  notifications : r.notifications.Perm r'.notifications
  recommendations : ∀ id, Option.Rel Resolved.Alike (r.get? id) (r'.get? id)

namespace Catalog

variable {c : Catalog} {generators : GeneratorRegistry} {h : History} {requested requested' : List TunableId}

theorem settledBy_outcomes (c : Catalog) (generators : GeneratorRegistry) (requested : List TunableId) (seed : Values)
    (h : History) :
    List.Forall₂ (Run.SettledBy generators h seed (c.resolve generators requested seed h).values)
      (c.order requested).nodes (c.outcomes generators requested seed h) :=
  Run.settledBy_settleAll generators h seed _ { values := seed } (c.nodup_order requested)
    (topological_order c requested) fun _ _ => rfl

/-- **Permuted requests have alike reports**, as long as the generators read only what a tunable declares. -/
theorem resolve_alike_of_perm (hreads : ∀ n : Node, n.Admitted c → n.ReadsDeclared generators h) (seed : Values)
    (hperm : requested.Perm requested') :
    (c.resolve generators requested seed h).Alike (c.resolve generators requested' seed h) := by
  obtain ⟨horder, hstuck⟩ := perm_order_of_perm (c := c) hperm
  have hfirst := settledBy_outcomes c generators requested seed h
  -- the outcomes of the second request in the order of the first one
  obtain ⟨outcomes, hsecond, hmoved⟩ :=
    List.perm_comp_forall₂ horder (settledBy_outcomes c generators requested' seed h)
  have hothers : ∀ id, id ∉ (c.order requested).nodes.map (·.id) →
      (c.resolve generators requested' seed h).values.get? id = (c.resolve generators requested seed h).values.get? id := by
    intro id hid
    have hid' : id ∉ (c.order requested').nodes.map (·.id) := fun hmem => hid ((horder.map _).mem_iff.2 hmem)
    exact (Run.get?_settleAll_of_notMem hid').trans (Run.get?_settleAll_of_notMem hid).symm
  obtain ⟨hvalues, halike⟩ := Run.settledBy_unique
    (fun n hn => hreads n (admitted_of_mem_order hn).2) (topological_order c requested) hfirst hsecond hothers
  refine ⟨SortedMap.ext_get? hvalues, ?_, fun id => ?_⟩
  · rw [notifications_resolve, notifications_resolve, Intake.notifications_eq, Intake.notifications_eq,
      ← Outcome.notifications_of_forall₂ (fun _ _ ho => ho.notification?) halike]
    exact ((hperm.filterMap _).append (hstuck.map _)).append (hmoved.filterMap _)
  · have hdistinct : (outcomes.map Outcome.id).Nodup := by
      rw [(hmoved.map Outcome.id).nodup_iff, ids_outcomes]
      exact nodup_order c requested'
    have hmoved? := Outcome.recommendation?_of_perm hmoved hdistinct id
    have hrel := Outcome.recommendation?_of_alike halike id
    rw [← hmoved?] at hrel
    exact hrel

end Catalog

end TuningAdvisor
