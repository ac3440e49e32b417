import TuningAdvisor.Experiment
/-!
# Merging results: `merge_result` and `K8sObject::container_mut_or_insert`

A result is written into the containers that it reports on. Objects and containers that the
experiment does not have yet are added behind the others; **a reported object goes to the first one
of its name and namespace, a reported container to the first one of its name**. The window of the
result is recorded with it.

| here | there |
| --- | --- |
| `KubernetesObject.receive`               | `container_mut_or_insert` and the writing into it |
| `ReportedObject.declareIn`               | the search for an object, and the push of a new one |
| `mergeContainer`, `ReportedObject.merge` | the bodies of the two loops |
| `Experiment.merge`                       | `merge_result` |
-/

namespace TuningAdvisor

/-- Work on something in place. It may fail at any point, and **what it has written by then stays
written**. -/
abbrev InPlace (ε σ α : Type) := ExceptT ε (StateM σ) α

/-- Changes the first item that a test finds; where it finds none, a fresh item is changed and put
behind the others. -/
def changeFirst {α : Type} (p : α → Bool) (fresh : α) (f : α → α) : List α → List α
  | [] => [f fresh]
  | a :: rest => if p a then f a :: rest else a :: changeFirst p fresh f rest

/-- Writes an interval into a container. Its image name is filled in where it has none. -/
def Container.receive (window : Interval) (r : ReportedContainer) (c : Container) : Container :=
  { c with
    image := c.image.or r.image
    results := c.results.insert window.finish { window with metrics := some r.toMetrics } }

def KubernetesObject.receive (window : Interval) (o : KubernetesObject) (r : ReportedContainer) :
    KubernetesObject :=
  { o with
    containers :=
      changeFirst (·.name == r.name) { name := r.name } (Container.receive window r) o.containers }

namespace ReportedObject

def isAbout (r : ReportedObject) (o : KubernetesObject) : Bool :=
  o.name == r.name && o.space == r.space

def change (r : ReportedObject) (f : KubernetesObject → KubernetesObject)
    (objects : List KubernetesObject) : List KubernetesObject :=
  changeFirst r.isAbout { kind := r.kind, name := r.name, space := r.space } f objects

/-- Adds the object of the report where there is none. -/
def declareIn (objects : List KubernetesObject) (r : ReportedObject) : List KubernetesObject :=
  r.change id objects

/-- Writes what the report has on one container, as far as the window is one. -/
def mergeContainer (start finish : Instant) (r : ReportedObject) (written : Nat)
    (x : ReportedContainer) : InPlace IntervalError (List KubernetesObject) Nat := do
  let window ← Interval.of? start finish
  modify (r.change fun o => o.receive window x)
  return written + 1

/-- Looks up the object of the report, and writes the containers one after the other. -/
def merge (start finish : Instant) (written : Nat) (r : ReportedObject) :
    InPlace IntervalError (List KubernetesObject) Nat := do
  modify fun objects => declareIn objects r
  r.containers.foldlM (mergeContainer start finish r) written

end ReportedObject

namespace Experiment

/-- Merges a result and counts the containers that it went to. A window that is none stops the merge
at the first container; the objects that have been looked up by then stay. -/
def merge (e : Experiment) (s : Submission) (start finish : Instant) :
    Experiment × Except IntervalError Nat :=
  match (s.objects.foldlM (ReportedObject.merge start finish) 0).run.run e.objects with
  | (.ok written, objects) =>
    ({ e with objects, windows := e.windows.insert finish start }, .ok written)
  | (.error why, objects) => ({ e with objects }, .error why)

end Experiment

end TuningAdvisor
