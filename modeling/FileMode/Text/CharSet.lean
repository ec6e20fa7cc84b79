namespace FileMode

structure CharSet where
  /-- Ascending; the set begins at the first, ends before the second, begins again at the third. -/
  boundaries : List Nat

namespace CharSet

def holds : List Nat → Nat → Bool
  | [], _ => false
  | b :: bs, n => b ≤ n && !holds bs n

def contains (s : CharSet) (c : Char) : Bool := holds s.boundaries c.toNat

end CharSet

end FileMode
