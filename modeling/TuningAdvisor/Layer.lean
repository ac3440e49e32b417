import TuningAdvisor.Interval
import TuningAdvisor.Tunable
/-!
# Layers: `LayerPresence`, `LayerCatalog` and `detect_layers`

A layer groups the tunables of one tier: the container, the JVM in it, the framework on top. Its
presence rule says from a history whether a container has the layer.

| here | there |
| --- | --- |
| `Presence.match?`                              | `LayerDefinition::presence_match` |
| `Layer.shadowed`                               | a label match beside a query match on one level |
| `Layer.detected`, `Catalog.detect`             | `LayerCatalog::detect_layers` |
| `Catalog.insert`, `get?`, `level?`, `tunable?` | `insert`, `get`, `level`, `tunable` |
-/

namespace TuningAdvisor

/-- A query whose result is reported as the metric `key`. -/
structure LayerQuery where
  datasource : String := ""
  query : String := ""
  key : String
deriving DecidableEq, Repr

/-- A label and a part of its value. -/
structure LayerLabel where
  name : String
  value : String
deriving DecidableEq, Repr

inductive Presence where
  | always (presence : String)
  /-- Some interval has the metric of one of the queries. -/
  | reported (queries : List LayerQuery)
  /-- Some metric has one of the labels, its value containing the given part in any letter case. -/
  | labelled (labels : List LayerLabel)
deriving DecidableEq, Repr

inductive PresenceMatch where
  | always
  | query
  | label
deriving DecidableEq, Repr

structure Layer where
  name : String
  level : Nat
  details : Option String := none
  presence : Presence
  tunables : List Tunable

namespace LayerLabel

def holds (l : LayerLabel) (m : Measurement) : Bool :=
  (m.metadata.get? l.name).any fun value =>
    hasInfix (lowerText l.value).toList (lowerText value).toList

end LayerLabel

namespace Presence

def holds (p : Presence) (h : History) : Bool :=
  match p with
  | .always _ => true
  | .reported queries => h.values.any fun i => queries.any fun q => (i.metric? q.key).isSome
  | .labelled labels =>
    h.values.any fun i => i.metrics.any fun metrics =>
      metrics.values.any fun m => labels.any fun l => l.holds m

def kind : Presence → PresenceMatch
  | .always _ => .always
  | .reported _ => .query
  | .labelled _ => .label

/-- The kind of the rule where it holds. -/
def match? (p : Presence) (h : History) : Option PresenceMatch :=
  if p.holds h then some p.kind else none

end Presence

namespace Layer

/-- Tunables without a layer are given this one. -/
def adopted (l : Layer) : Layer :=
  let adopt (t : Tunable) : Tunable := if t.layer = "" then { t with layer := l.name } else t
  { l with tunables := l.tunables.map adopt }

def tunable? (l : Layer) (name : String) : Option Tunable := l.tunables.find? (·.name == name)

/-- Whether a layer may stand in front of another one. -/
def inFront (a b : Layer) : Bool := a.level < b.level || (a.level == b.level && a.name ≤ b.name)

def matching (layers : List Layer) (h : History) : List (Layer × PresenceMatch) :=
  layers.filterMap fun l => (l.presence.match? h).map fun m => (l, m)

/-- Whether a layer found by a query gives way: a label has found another one of its level. -/
def shadowed (found : List (Layer × PresenceMatch)) (e : Layer × PresenceMatch) : Bool :=
  e.2 == .query && found.any fun other => other.1.level == e.1.level && other.2 == .label

/-- The layers that are found in a history, by level and then by name. -/
def detected (layers : List Layer) (h : History) : List Layer :=
  let found := matching layers h
  let kept := found.filter fun e => !shadowed found e
  (kept.map (·.1)).mergeSort inFront

end Layer

structure Catalog where
  layers : SortedMap String Layer := ∅

namespace Catalog

/-- Adds a layer, or replaces the one of its name. -/
def insert (c : Catalog) (l : Layer) : Catalog := ⟨c.layers.insert l.name l.adopted⟩

def get? (c : Catalog) (layer : String) : Option Layer := c.layers.get? layer

def level? (c : Catalog) (layer : String) : Option Nat := (c.get? layer).map (·.level)

def tunable? (c : Catalog) (id : TunableId) : Option Tunable :=
  (c.get? id.layer).bind (·.tunable? id.name)

def size (c : Catalog) : Nat := c.layers.size

def detect (c : Catalog) (h : History) : List Layer := Layer.detected c.layers.values h

end Catalog

end TuningAdvisor
