/-!
# The calendar: the dates of `IntervalResults`

Days are counted from 1970-01-01 in the proleptic Gregorian calendar. The year is taken to begin
in March, so that the leap day is the last day of its year and the length of a month depends on
its number alone; four centuries are always 146097 days.
-/

namespace TuningAdvisor

structure Date where
  year : Int
  month : Nat
  day : Nat
deriving DecidableEq, Repr

namespace Date

/-- Every fourth year is a leap year, of the centuries only every fourth. -/
def isLeapYear (year : Int) : Bool := year % 4 = 0 && (year % 100 ≠ 0 || year % 400 = 0)

def daysInMonth (year : Int) (month : Nat) : Nat :=
  match month with
  | 2 => if isLeapYear year then 29 else 28
  | 4 | 6 | 9 | 11 => 30
  | _ => 31

/-- The days from the first of March to the first day of a month. -/
def daysBeforeMonth (month : Nat) : Nat := (153 * ((month + 9) % 12) + 2) / 5

/-- Days since 1970-01-01. -/
def toDays (date : Date) : Int :=
  let year := if date.month ≤ 2 then date.year - 1 else date.year
  let era := Int.fdiv year 400
  let yearOfEra := year - era * 400
  let dayOfYear : Int := (daysBeforeMonth date.month : Int) + date.day - 1
  let dayOfEra := yearOfEra * 365 + Int.fdiv yearOfEra 4 - Int.fdiv yearOfEra 100 + dayOfYear
  era * 146097 + dayOfEra - 719468

/-- The day that many days after 1970-01-01. -/
def ofDays (days : Int) : Date :=
  let shifted := days + 719468
  let era := Int.fdiv shifted 146097
  let dayOfEra : Nat := (shifted - era * 146097).toNat
  let yearOfEra : Nat := (dayOfEra - dayOfEra / 1460 + dayOfEra / 36524 - dayOfEra / 146096) / 365
  let dayOfYear := dayOfEra - (365 * yearOfEra + yearOfEra / 4 - yearOfEra / 100)
  let shiftedMonth := (5 * dayOfYear + 2) / 153
  let month := if shiftedMonth < 10 then shiftedMonth + 3 else shiftedMonth - 9
  let year : Int := (yearOfEra : Int) + era * 400
  { year := if month ≤ 2 then year + 1 else year
    month
    day := dayOfYear - (153 * shiftedMonth + 2) / 5 + 1 }

/-- The years that a date may have. -/
def minYear : Int := -262143

def maxYear : Int := 262142

/-- The day of the given year, month and day, if there is one. -/
def of? (year : Int) (month day : Nat) : Option Date :=
  if minYear ≤ year ∧ year ≤ maxYear ∧ 1 ≤ month ∧ month ≤ 12 ∧ 1 ≤ day
      ∧ day ≤ daysInMonth year month then
    some { year, month, day }
  else none

end Date

end TuningAdvisor
