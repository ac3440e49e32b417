import TuningAdvisor.Layer
import TuningAdvisor.Number.Range
import TuningAdvisor.Resolution.Notification
/-!
# The order of resolution: `DependencyResolver::order`

The requested tunables in an order in which **each comes behind those that it depends on, and lower
levels come before higher ones**; otherwise the order of the request stands. A request counts once
it is admitted: defined by the catalog, and without a dependency on a higher level. Every admitted
tunable waits with the number of its dependencies on other admitted ones; the next to be placed is
the first of the least level among those that wait for none. What waits for ever is a cycle, or
depends on one.
-/

namespace TuningAdvisor

structure Node where
  id : TunableId
  level : Nat
  tunable : Tunable

namespace Node

def admit? (c : Catalog) (id : TunableId) : Except SkipCause Node :=
  match c.tunable? id, c.level? id.layer with
  | some tunable, some level =>
    match tunable.dependsOn.find? fun d => (c.level? d.layer).any (level < ·) with
    | some dependency => .error (.higherLayer dependency)
    | none => .ok { id, level, tunable }
  | _, _ => .error .undefined

end Node

/-- What became of the requests: the admitted tunables, each once, and the notifications. -/
structure Intake where
  nodes : List Node := []
  notifications : List Notification := []

namespace Intake

/-- Takes in one request; a tunable that was admitted before is passed over. -/
def add (c : Catalog) (i : Intake) (id : TunableId) : Intake :=
  if i.nodes.any (·.id == id) then i
  else
    match Node.admit? c id with
    | .ok node => { i with nodes := i.nodes ++ [node] }
    | .error cause => { i with notifications := i.notifications ++ [cause.notification id] }

def ofRequests (c : Catalog) (requested : List TunableId) : Intake := requested.foldl (add c) {}

end Intake

/-- An admitted tunable that is not placed, and how many dependencies it waits for. A dependency
that is declared twice counts twice. -/
structure Pending where
  node : Node
  waitsFor : Nat

namespace Pending

/-- How often the first tunable declares a dependency on the second one. One on itself is none. -/
def edges (dependent : Node) (id : TunableId) : Nat :=
  if dependent.id = id then 0 else dependent.tunable.dependsOn.count id

/-- The admitted tunables before the first one is placed. -/
def ofNodes (nodes : List Node) : List Pending :=
  nodes.map fun n => { node := n, waitsFor := total (nodes.map fun d => edges n d.id) }

/-- No longer waits for a tunable that is placed. -/
def release (placed : TunableId) (p : Pending) : Pending :=
  { p with waitsFor := p.waitsFor - edges p.node placed }

/-- The first one of the least level. -/
def lowest? : List Pending → Option Pending
  | [] => none
  | p :: rest =>
    match lowest? rest with
    | some q => if q.node.level < p.node.level then some q else some p
    | none => some p

/-- The next one to be placed. -/
def next? (waiting : List Pending) : Option Pending := lowest? (waiting.filter (·.waitsFor == 0))

theorem mem_of_lowest? {p : Pending} {l : List Pending} (h : lowest? l = some p) : p ∈ l := by
  induction l with
  | nil => simp [lowest?] at h
  | cons hd tl ih =>
    unfold lowest? at h
    split at h
    · rename_i q hq
      split at h
      · exact List.mem_cons_of_mem _ (ih (hq.trans h))
      · exact Option.some.inj h ▸ List.mem_cons_self
    · exact Option.some.inj h ▸ List.mem_cons_self

theorem mem_of_next? {p : Pending} {waiting : List Pending} (h : next? waiting = some p) :
    p ∈ waiting :=
  (List.mem_filter.1 (mem_of_lowest? h)).1

def others (p : Pending) (waiting : List Pending) : List Pending :=
  (waiting.filter (·.node.id != p.node.id)).map (release p.node.id)

theorem length_others_lt {p : Pending} {waiting : List Pending} (h : p ∈ waiting) :
    (p.others waiting).length < waiting.length := by
  rw [others, List.length_map]
  exact List.length_filter_lt_length_iff_exists.2 ⟨p, h, by simp⟩

/-- Places one tunable after the other: those placed, in order, and those that wait for ever. -/
def place (waiting : List Pending) : List Node × List Node :=
  match h : next? waiting with
  | none => ([], waiting.map (·.node))
  | some p =>
    have := length_others_lt (mem_of_next? h)
    let rest := place (p.others waiting)
    (p.node :: rest.1, rest.2)
termination_by waiting.length

end Pending

/-- The admitted tunables in order, and the notifications about the others. -/
structure Schedule where
  nodes : List Node
  notifications : List Notification

def Catalog.order (c : Catalog) (requested : List TunableId) : Schedule :=
  let intake := Intake.ofRequests c requested
  let (placed, stuck) := Pending.place (Pending.ofNodes intake.nodes)
  { nodes := placed
    notifications :=
      intake.notifications ++ stuck.map fun n => SkipCause.cycle.notification n.id }

end TuningAdvisor
