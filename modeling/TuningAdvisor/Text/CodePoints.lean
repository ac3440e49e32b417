/-!
# Sets of code points: the tables behind `print_table`

A property of characters is a list of closed ranges in increasing order.
-/

namespace TuningAdvisor

/-- A set of code points as closed ranges in increasing order. -/
abbrev CodePoints := List (Nat × Nat)

def CodePoints.holds : CodePoints → Nat → Bool
  | [], _ => false
  | (first, last) :: rest, n =>
    if n < first then false else if n ≤ last then true else holds rest n

end TuningAdvisor
