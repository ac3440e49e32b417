import TuningAdvisor.Time.Calendar
/-!
# Instants: the start and the end of `IntervalResults`

A point in time in UTC, exact to the nanosecond. An inserted second (`:60`) is kept apart from the
second after it: it is the nanoseconds from one thousand million on of the second before. **Instants
are ordered by seconds, then by nanoseconds.** A span of time is a whole number of nanoseconds.
-/

namespace TuningAdvisor

namespace Instant

def minSeconds : Int := Date.toDays { year := Date.minYear, month := 1, day := 1 } * 86400

def maxSeconds : Int := Date.toDays { year := Date.maxYear, month := 12, day := 31 } * 86400 + 86399

/-- Seconds and nanoseconds that an instant may have: the years are those of dates, and the
nanoseconds reach to the end of an inserted second. -/
def InRange (seconds : Int) (nanos : Nat) : Prop :=
  minSeconds ≤ seconds ∧ seconds ≤ maxSeconds ∧ nanos < 2000000000

instance (seconds : Int) (nanos : Nat) : Decidable (InRange seconds nanos) :=
  inferInstanceAs (Decidable (_ ∧ _ ∧ _))

end Instant

/-- Whole seconds since 1970-01-01T00:00:00Z and nanoseconds within the second. -/
structure Instant where
  seconds : Int
  nanos : Nat
  inRange : Instant.InRange seconds nanos
deriving DecidableEq, Repr

namespace Instant

instance : Ord Instant :=
  ⟨compareLex (compareOn seconds) (compareOn nanos)⟩

instance : Std.TransOrd Instant :=
  inferInstanceAs (Std.TransCmp (compareLex (compareOn seconds) (compareOn nanos)))

instance : Std.LawfulEqOrd Instant where
  eq_of_compare {a b} h := by
    have h : (compareOn seconds a b).then (compareOn nanos a b) = .eq := h
    rw [Ordering.then_eq_eq] at h
    cases a
    cases b
    simp only [compareOn, Std.LawfulEqOrd.compare_eq_iff_eq] at h
    simp [h]

def before (a b : Instant) : Bool := compare a b == .lt

def second : Int := 1000000000

def millisecond : Int := 1000000

/-- Seconds since midnight, the inserted second counted with the one before it. -/
def secondOfDay (t : Instant) : Int := t.seconds % 86400

/-- Whether the instant lies in an inserted second. -/
def inserted (t : Instant) : Bool := 1000000000 ≤ t.nanos

/-- The nanoseconds from `earlier` to `later`. An inserted second counts once the clock of the other
instant has passed it. -/
def since (later earlier : Instant) : Int :=
  let crossed : Int :=
    if earlier.secondOfDay < later.secondOfDay ∧ earlier.inserted then 1
    else if later.secondOfDay < earlier.secondOfDay ∧ later.inserted then -1
    else 0
  (later.seconds - earlier.seconds + crossed) * second + ((later.nanos : Int) - earlier.nanos)

/-- The whole milliseconds of a span, the fraction dropped. -/
def wholeMillis (span : Int) : Int := Int.tdiv span millisecond

/-- The instant of seconds and nanoseconds, if an instant may have them. -/
def of? (seconds : Int) (nanos : Nat) : Option Instant :=
  if h : InRange seconds nanos then some ⟨seconds, nanos, h⟩ else none

/-- Seconds and nanoseconds brought back to one second, if an instant may have them. -/
def normalized (seconds nanos : Int) : Option Instant :=
  of? (seconds + Int.fdiv nanos second) (Int.fmod nanos second).toNat

/-- The instant a span later, `none` outside the years that a date may have. A move that stays
within an inserted second keeps it. -/
def plus (t : Instant) (span : Int) : Option Instant :=
  let whole := Int.tdiv span second
  let part := Int.tmod span second
  if t.inserted then
    if 0 < whole ∨ (0 < part ∧ 2 * second ≤ t.nanos + part) then
      normalized (t.seconds + whole) (t.nanos - second + part)
    else if whole < 0 then normalized (t.seconds + 1 + whole) (t.nanos - second + part)
    else of? t.seconds (t.nanos + part).toNat
  else normalized (t.seconds + whole) (t.nanos + part)

def minus (t : Instant) (span : Int) : Option Instant := t.plus (-span)

/-- Milliseconds since 1970, the rest dropped. -/
def toMillis (t : Instant) : Int := t.seconds * 1000 + t.nanos / 1000000

end Instant

end TuningAdvisor
