/-!
# Whole numbers: the ranges of the fields of `EngineConfig` and `TrialResult`

The ends of the machine integers that documents, settings and casts keep to, and the sum of a list.
-/

namespace TuningAdvisor

def minInt32 : Int := -0x80000000

def maxInt32 : Int := 0x7fffffff

def minInt64 : Int := -0x8000000000000000

def maxInt64 : Int := 0x7fffffffffffffff

def maxNat16 : Nat := 0xffff

def maxNat32 : Nat := 0xffffffff

def maxNat64 : Nat := 0xffffffffffffffff

/-- All numbers of a list added up. -/
def total (ns : List Nat) : Nat := ns.foldr (· + ·) 0

end TuningAdvisor
