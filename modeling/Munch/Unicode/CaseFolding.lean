/-
Sets with all cases of their letters.

Bytes have cases only if they are letters of ASCII.
-/
import Munch.Unicode.CaseGroup

namespace Munch.RangeSet

/-- the part of a range inside the range from `low` to `high`, each number moved from `low` to `target` -/
def moved (r : Range) (low high target : Nat) : List Range :=
  (r.meet (.between low high)).map fun m =>
    ⟨m.low - low + target, m.high - low + target, Nat.add_le_add_right (Nat.sub_le_sub_right m.low_le_high low) target⟩

/-- the other cases of the members of a range -/
def otherCases (r : Range) : Scale → List Range
  | .characters => (Unicode.casesIn r).map fun n => ⟨n, n, Nat.le_refl n⟩
  | .bytes => moved r 0x41 0x5A 0x61 ++ moved r 0x61 0x7A 0x41

/-- the set with all cases of its letters -/
def foldCase (scale : Scale) (s : RangeSet) : RangeSet :=
  ofRanges (s.ranges ++ s.ranges.flatMap (otherCases · scale))

end Munch.RangeSet
