import TuningAdvisor.Proofs.Runs
/-!
# Experiments are independent: `create_experiment` and `update_results` on different names

A registration or a result reads the settings of the engine and the record of the one name that it is about, and
writes that record. So **two engines that agree on the settings and on a record cannot be told apart by an operation
on it** (`perform_congr`), **and an operation on another name leaves them in agreement** (`agreeOn_perform_of_ne`). Whatever is
said about several experiments at once follows from these two: operations on different names commute, and each
experiment fares as if its own operations were the only ones (`performAll_stream`).
-/

namespace TuningAdvisor

/-- One registration, or one result. -/
inductive Operation where
  | register (x : Experiment)
  | ingest (s : Submission)

namespace Operation

/-- The name of the experiment that an operation is about. -/
def name : Operation → String
  | .register x => x.name
  | .ingest s => s.name

/-- The operations on one experiment, in their order. -/
def stream (name : String) (ops : List Operation) : List Operation := ops.filter (·.name == name)

variable {name : String} {op : Operation}

theorem stream_cons_self (h : op.name = name) (rest : List Operation) :
    stream name (op :: rest) = op :: stream name rest := by
  simp [stream, h]

theorem stream_cons_of_ne (h : op.name ≠ name) (rest : List Operation) :
    stream name (op :: rest) = stream name rest := by
  simp [stream, h]

/-- Two operations on different experiments, in either order. -/
theorem stream_swap {a b : Operation} (h : a.name ≠ b.name) (name : String) : stream name [a, b] = stream name [b, a] := by
  by_cases ha : a.name = name
  · have hb : b.name ≠ name := fun hb => h (ha.trans hb.symm)
    rw [stream_cons_self ha, stream_cons_of_ne hb, stream_cons_of_ne hb, stream_cons_self ha]
  · rw [stream_cons_of_ne ha]
    by_cases hb : b.name = name
    · rw [stream_cons_self hb, stream_cons_self hb, stream_cons_of_ne ha]
    · rw [stream_cons_of_ne hb, stream_cons_of_ne hb, stream_cons_of_ne ha]

end Operation

namespace Engine

/-- Carries out one operation. -/
def perform (e : Engine) : Operation → BatchItem × Engine
  | .register x => e.registerItem x
  | .ingest s => e.ingestItem s

/-- Carries out operations one after the other. -/
def performAll (e : Engine) : List Operation → List BatchItem × Engine
  | [] => ([], e)
  | op :: rest =>
    let (item, e) := e.perform op
    let (items, e) := e.performAll rest
    (item :: items, e)

/-- What became of the operations on one experiment. -/
def outcomesOf (name : String) (e : Engine) (ops : List Operation) : List BatchItem :=
  (e.performAll ops).1.filter (·.experiment == name)

/-! ## Agreement -/

/-- Engines with the same settings, as far as one operation reads them: the batch policies may differ. -/
structure Alike (e f : Engine) : Prop where
  config : ∃ policy, f.config = { e.config with batchPolicy := policy }
  handlers : f.handlers = e.handlers
  profiles : f.profiles.contents = e.profiles.contents

/-- Engines that an operation on a name cannot tell apart. -/
structure AgreeOn (name : String) (e f : Engine) : Prop extends e.Alike f where
  record : f.store.get? name = e.store.get? name

variable {e f g : Engine} {name : String}

namespace Alike

theorem refl (e : Engine) : e.Alike e := ⟨⟨_, rfl⟩, rfl, rfl⟩

theorem symm (h : e.Alike f) : f.Alike e := by
  obtain ⟨policy, hconfig⟩ := h.config
  exact ⟨⟨e.config.batchPolicy, by rw [hconfig]⟩, h.handlers.symm, h.profiles.symm⟩

theorem trans (h : e.Alike f) (h' : f.Alike g) : e.Alike g := by
  obtain ⟨policy, hconfig⟩ := h.config
  obtain ⟨policy', hconfig'⟩ := h'.config
  exact ⟨⟨policy', by rw [hconfig', hconfig]⟩, h'.handlers.trans h.handlers, h'.profiles.trans h.profiles⟩

theorem find (h : e.Alike f) (choice : ProfileChoice) : choice.find f.profiles = choice.find e.profiles :=
  choice.find_congr h.profiles

theorem apply_eq (h : e.Alike f) (s : Submission) (key : ResultKey) :
    f.ingestion.apply s key = e.ingestion.apply s key := by
  obtain ⟨policy, hconfig⟩ := h.config
  have hpre (x : Experiment) : x.precheck f.ingestion.config s key = x.precheck e.ingestion.config s key := by
    show x.precheck f.config s key = x.precheck e.config s key
    rw [hconfig]
    rfl
  have hhandlers : f.ingestion.handlers = e.ingestion.handlers := h.handlers
  have hfind (choice : ProfileChoice) : choice.find f.ingestion.profiles = choice.find e.ingestion.profiles :=
    h.find choice
  unfold Ingestion.apply
  simp only [hpre, hhandlers, hfind]

end Alike

theorem SameSettings.alike (h : e.SameSettings f) : e.Alike f := ⟨⟨_, h.config⟩, h.handlers, h.profiles⟩

namespace AgreeOn

theorem refl (name : String) (e : Engine) : AgreeOn name e e := ⟨.refl e, rfl⟩

theorem symm (h : AgreeOn name e f) : AgreeOn name f e := ⟨h.toAlike.symm, h.record.symm⟩

theorem trans (h : AgreeOn name e f) (h' : AgreeOn name f g) : AgreeOn name e g :=
  ⟨h.toAlike.trans h'.toAlike, h'.record.trans h.record⟩

/-! ## What an operation reads -/

theorem check_eq {x : Experiment} (h : AgreeOn x.name e f) :
    Registration.check f.store f.profiles f.config x = Registration.check e.store e.profiles e.config x := by
  have hpre : Registration.precheck f.store f.config x = Registration.precheck e.store e.config x := by
    obtain ⟨policy, hconfig⟩ := h.config
    unfold Registration.precheck
    simp only [SortedMap.contains_eq, h.record, hconfig]
    rfl
  unfold Registration.check
  rw [hpre]
  simp only [h.find]

theorem register {x : Experiment} (h : AgreeOn x.name e f) :
    (f.register x).1 = (e.register x).1 ∧
      (f.register x).2.store.get? x.name = (e.register x).2.store.get? x.name := by
  have hcheck := h.check_eq
  constructor
  · show (Registration.check f.store f.profiles f.config x).verdict = _
    rw [hcheck]
    rfl
  · rw [store_register, store_register, hcheck, name_check]
    split
    · exact h.record
    · rw [SortedMap.get?_insert_self, SortedMap.get?_insert_self]

theorem process {s : Submission} (h : AgreeOn s.name e f) :
    (f.ingestion.process f.store s).1 = (e.ingestion.process e.store s).1 ∧
      (f.ingestion.process f.store s).2.get? s.name = (e.ingestion.process e.store s).2.get? s.name := by
  cases hkey : s.checkMandatory with
  | error r =>
    simpa [Ingestion.process, hkey] using h.record
  | ok key =>
    have hname := (Ingestion.key_of_checkMandatory hkey).1
    have hrecord := h.record
    cases hx : e.store.get? s.name with
    | none =>
      rw [hx] at hrecord
      simp [Ingestion.process, hkey, hname, hx, hrecord]
    | some x =>
      rw [hx] at hrecord
      rw [Ingestion.process_found hkey hrecord, Ingestion.process_found hkey hx, h.apply_eq]
      simp

theorem ingestItem {s : Submission} (h : AgreeOn s.name e f) :
    (f.ingestItem s).1 = (e.ingestItem s).1 ∧
      (f.ingestItem s).2.store.get? s.name = (e.ingestItem s).2.store.get? s.name := by
  obtain ⟨hmade, hrecord⟩ := h.process
  constructor
  · unfold Engine.ingestItem
    simp only [hmade]
  · rw [store_ingestItem, store_ingestItem, hrecord]

end AgreeOn

/-! ## One operation -/

theorem sameSettings_perform (e : Engine) : ∀ op : Operation, e.SameSettings (e.perform op).2
  | .register x => sameSettings_register e x
  | .ingest s => sameSettings_ingestItem e s

/-- An item carries the name of its experiment. -/
theorem experiment_perform (e : Engine) : ∀ op : Operation, (e.perform op).1.experiment = op.name
  | .register _ => rfl
  | .ingest _ => rfl

/-- **Engines that agree on a record cannot be told apart by an operation on it**: the outcome is the same, and so
is the record behind it. -/
theorem perform_congr {op : Operation} (h : AgreeOn op.name e f) :
    (f.perform op).1 = (e.perform op).1 ∧ AgreeOn op.name (e.perform op).2 (f.perform op).2 := by
  have hsettings : (e.perform op).2.Alike (f.perform op).2 :=
    ((sameSettings_perform e op).alike.symm.trans h.toAlike).trans (sameSettings_perform f op).alike
  suffices hop : (f.perform op).1 = (e.perform op).1 ∧
      (f.perform op).2.store.get? op.name = (e.perform op).2.store.get? op.name from ⟨hop.1, hsettings, hop.2⟩
  cases op with
  | register x =>
    obtain ⟨hverdict, hrecord⟩ := h.register
    exact ⟨congrArg (BatchItem.mk x.name none · none) hverdict, hrecord⟩
  | ingest s => exact h.ingestItem

/-- An operation is rejected and leaves the store alone, or it writes the record that it is about. -/
theorem perform_cases (e : Engine) (op : Operation) :
    ((e.perform op).1.verdict.success = false ∧ (e.perform op).2.store = e.store) ∨
    ((e.perform op).1.verdict.success = true ∧ ∃ new, (e.perform op).2.store = e.store.insert op.name new) := by
  cases op with
  | register x =>
    rcases register_cases e x with hrejected | ⟨u, choice, p, -, haccepted, hstore⟩
    · exact .inl hrejected
    · exact .inr ⟨haccepted, _, hstore⟩
  | ingest s =>
    rcases ingestItem_cases e s with hrejected | ⟨key, old, profile, handler, new, counts, -, -, -, haccepted, hstore⟩
    · exact .inl hrejected
    · exact .inr ⟨haccepted, new, hstore⟩

/-- **An operation leaves the records of other experiments alone.** -/
theorem agreeOn_perform_of_ne {op : Operation} (hne : name ≠ op.name) : AgreeOn name e (e.perform op).2 := by
  refine ⟨(sameSettings_perform e op).alike, ?_⟩
  rcases perform_cases e op with ⟨-, hstore⟩ | ⟨-, new, hstore⟩
  · rw [hstore]
  · rw [hstore, SortedMap.get?_insert_of_ne _ _ hne]

/-! ## Streams of operations -/

theorem outcomesOf_cons_self {op : Operation} (h : op.name = name) (e : Engine) (rest : List Operation) :
    outcomesOf name e (op :: rest) = (e.perform op).1 :: outcomesOf name (e.perform op).2 rest := by
  have hitem : ((e.perform op).1.experiment == name) = true := by simp [experiment_perform, h]
  simp [outcomesOf, performAll, hitem]

theorem outcomesOf_cons_of_ne {op : Operation} (h : op.name ≠ name) (e : Engine) (rest : List Operation) :
    outcomesOf name e (op :: rest) = outcomesOf name (e.perform op).2 rest := by
  have hitem : ((e.perform op).1.experiment == name) = false := by simp [experiment_perform, h]
  simp [outcomesOf, performAll, hitem]

/-- **An experiment fares as if its own operations were the only ones.** -/
theorem performAll_stream : ∀ (ops : List Operation) {e f : Engine}, AgreeOn name e f →
    outcomesOf name e ops = (f.performAll (Operation.stream name ops)).1 ∧
      AgreeOn name (e.performAll ops).2 (f.performAll (Operation.stream name ops)).2
  | [], e, f, h => ⟨rfl, h⟩
  | op :: rest, e, f, h => by
    by_cases hname : op.name = name
    · rw [← hname] at h
      obtain ⟨hitem, hnext⟩ := perform_congr h
      rw [hname] at hnext
      obtain ⟨hrest, hlast⟩ := performAll_stream rest hnext
      rw [Operation.stream_cons_self hname, outcomesOf_cons_self hname, hrest, ← hitem]
      exact ⟨rfl, hlast⟩
    · have hnext : AgreeOn name (e.perform op).2 f := (agreeOn_perform_of_ne (Ne.symm hname)).symm.trans h
      rw [Operation.stream_cons_of_ne hname, outcomesOf_cons_of_ne hname]
      exact performAll_stream rest hnext

/-- Interleavings of the same streams: every experiment has the same outcomes, and the stores behind them are equal. -/
theorem interleavings {ops ops' : List Operation}
    (h : ∀ name, Operation.stream name ops = Operation.stream name ops') :
    (∀ name, outcomesOf name e ops = outcomesOf name e ops') ∧ (e.performAll ops).2.store = (e.performAll ops').2.store := by
  have halone (name : String) := performAll_stream ops (AgreeOn.refl name e)
  have halone' (name : String) := performAll_stream ops' (AgreeOn.refl name e)
  constructor
  · intro name
    rw [(halone name).1, (halone' name).1, h]
  · refine SortedMap.ext_get? fun name => ?_
    rw [← (halone name).2.record, ← (halone' name).2.record, h]

/-- Operations on different experiments, in either order. -/
theorem perform_comm {a b : Operation} (hne : a.name ≠ b.name) :
    ((e.perform b).2.perform a).1 = (e.perform a).1 ∧ ((e.perform a).2.perform b).1 = (e.perform b).1 ∧
      ((e.perform a).2.perform b).2.store = ((e.perform b).2.perform a).2.store := by
  have hb : AgreeOn a.name e (e.perform b).2 := agreeOn_perform_of_ne hne
  have ha : AgreeOn b.name e (e.perform a).2 := agreeOn_perform_of_ne (Ne.symm hne)
  refine ⟨(perform_congr hb).1, (perform_congr ha).1, ?_⟩
  exact (interleavings (Operation.stream_swap hne)).2

/-- **Experiments are independent.** Whatever the engine, operations on different experiments commute: in either order
they have the same outcomes and leave the same store. And however the operations on several experiments are
interleaved, as long as every experiment keeps its own order, every one of them has the same outcomes and the same
record at the end. -/
theorem experiments_independent (e : Engine) :
    (∀ a b : Operation, a.name ≠ b.name →
      ((e.perform b).2.perform a).1 = (e.perform a).1 ∧ ((e.perform a).2.perform b).1 = (e.perform b).1 ∧
        ((e.perform a).2.perform b).2.store = ((e.perform b).2.perform a).2.store) ∧
    ∀ ops ops' : List Operation, (∀ name, Operation.stream name ops = Operation.stream name ops') →
      (∀ name, outcomesOf name e ops = outcomesOf name e ops') ∧
        (e.performAll ops).2.store = (e.performAll ops').2.store :=
  ⟨fun _ _ => perform_comm, fun _ _ => interleavings⟩

end Engine

end TuningAdvisor
