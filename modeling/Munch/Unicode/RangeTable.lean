/-
Sets of code points given by a table of ranges in ascending order.
-/
import Munch.Bisection

namespace Munch.Unicode

/-- ranges of code points, both ends included, in ascending order and without overlaps -/
structure RangeTable where
  ranges : Array (Nat × Nat)

namespace RangeTable

/-- whether the code point is in one of the ranges -/
def contains (t : RangeTable) (point : Nat) : Bool :=
  let n := Bisection.countTrue t.ranges.size fun i => (t.ranges[i]?).any fun r => decide (r.1 ≤ point)
  n != 0 && (t.ranges[n - 1]?).any fun r => decide (point ≤ r.2)

/-- whether the character is in one of the ranges -/
def has (t : RangeTable) (c : Char) : Bool :=
  t.contains c.toNat

end RangeTable

end Munch.Unicode
