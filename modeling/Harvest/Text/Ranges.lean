import Harvest.Text.Basic

/-!
# Membership in a sorted table of ranges

A class of code points is a table of inclusive ranges in increasing order, and membership is found
by halving.
-/

namespace Harvest.Text

/-- Searches the ranges with index from `lo` to below `hi`; `fuel` bounds the halvings. -/
def inRangesBetween (table : Array (Nat × Nat)) (n : Nat) : Nat → Nat → Nat → Bool
  | 0, _, _ => false
  | fuel + 1, lo, hi =>
    if lo < hi then
      let mid := (lo + hi) / 2
      match table[mid]? with
      | none => false
      | some (a, b) =>
        if n < a then inRangesBetween table n fuel lo mid
        else if b < n then inRangesBetween table n fuel (mid + 1) hi
        else true
    else false

def inRanges (table : Array (Nat × Nat)) (n : Nat) : Bool :=
  inRangesBetween table n (table.size + 1) 0 table.size

end Harvest.Text
