/-!
# Code point ranges

A character class kept as sorted, disjoint, inclusive ranges of code points. Membership is
found by halving the window of ranges still in question, so a lookup reads a logarithmic number
of ranges.
-/

namespace Phrasebook.Text

def inRanges (rs : Array (Nat × Nat)) (n : Nat) (lo hi : Nat) : Bool :=
  if lo < hi then
    let mid := (lo + hi) / 2
    match rs[mid]? with
    | none => false
    | some (a, b) =>
      if n < a then inRanges rs n lo mid
      else if b < n then inRanges rs n (mid + 1) hi
      else true
  else false
termination_by hi - lo

def memRanges (rs : Array (Nat × Nat)) (n : Nat) : Bool := inRanges rs n 0 rs.size

theorem memRanges_empty (n : Nat) : memRanges #[] n = false := by
  simp [memRanges, inRanges]

end Phrasebook.Text
