/-!
Membership in a table of ranges of code points, by halving.
-/

namespace Pruning.Text

/-- Whether `n` lies in one of `ranges` between `lo` and `hi`; halves that part at most `fuel` times. -/
def inRangesBetween (ranges : Array (Nat × Nat)) (n : Nat) : Nat → Nat → Nat → Bool
  | 0, _, _ => false
  | fuel + 1, lo, hi =>
    if lo < hi then
      let mid := (lo + hi) / 2
      match ranges[mid]? with
      | none => false
      | some (first, last) =>
        if n < first then inRangesBetween ranges n fuel lo mid
        else if last < n then inRangesBetween ranges n fuel (mid + 1) hi
        else true
    else false

/-- Whether `n` lies in one of `ranges`, which are in ascending order. -/
def inRanges (ranges : Array (Nat × Nat)) (n : Nat) : Bool :=
  inRangesBetween ranges n ranges.size 0 ranges.size

end Pruning.Text
