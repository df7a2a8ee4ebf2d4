/-
Sets of characters or of bytes, as ranges in ascending order that neither overlap nor touch.

A `Scale` is what the numbers stand for. Characters leave out the surrogates, so the character after U+D7FF is U+E000; two
ranges touch only if their numbers are neighbours, and that step is no touch. So the complement of a set with a range up
to U+D7FF and one from U+E000 on has a range of these two characters between its neighbours, and its ranges touch;
`joined` joins them.
-/
import Munch.Unicode.RangeTable

namespace Munch

/-- what the numbers of a set stand for -/
inductive Scale where
  | characters
  | bytes
  deriving DecidableEq, Repr

namespace Scale

/-- the largest number of the scale -/
def last : Scale → Nat
  | characters => 0x10FFFF
  | bytes => 0xFF

/-- the number after `n` -/
def next : Scale → Nat → Nat
  | characters, n => if n = 0xD7FF then 0xE000 else n + 1
  | bytes, n => n + 1

/-- the number before `n` -/
def previous : Scale → Nat → Nat
  | characters, n => if n = 0xE000 then 0xD7FF else n - 1
  | bytes, n => n - 1

end Scale

/-- the numbers from `low` to `high`, both included -/
structure Range where
  low : Nat
  high : Nat
  low_le_high : low ≤ high := by omega
  deriving Repr

namespace Range

theorem eq_iff {r s : Range} : r = s ↔ r.low = s.low ∧ r.high = s.high := by
  cases r
  cases s
  simp

instance : DecidableEq Range := fun r s =>
  decidable_of_iff (r.low = s.low ∧ r.high = s.high) eq_iff.symm

/-- the range between two numbers, whichever is the smaller -/
def between (a b : Nat) : Range :=
  if h : a ≤ b then ⟨a, b, h⟩ else ⟨b, a, by omega⟩

/-- the order of ranges by their beginnings and then by their ends -/
def before (r s : Range) : Bool :=
  decide (r.low < s.low) || (r.low == s.low && decide (r.high ≤ s.high))

/-- whether the numbers of two ranges leave no gap between them -/
def touches (r s : Range) : Bool :=
  decide (max r.low s.low ≤ min r.high s.high + 1)

/-- what two ranges have in common -/
def meet (r s : Range) : List Range :=
  if h : max r.low s.low ≤ min r.high s.high then [⟨max r.low s.low, min r.high s.high, h⟩] else []

/-- the range from the beginning of the one that begins first to the end of the one that ends last -/
def span (r s : Range) : Range :=
  ⟨min r.low s.low, max r.high s.high,
    Nat.le_trans (Nat.min_le_left _ _) (Nat.le_trans r.low_le_high (Nat.le_max_left _ _))⟩

/-- what is left of `r` without the numbers of `s` -/
def minus (scale : Scale) (r s : Range) : List Range :=
  if s.high < r.low ∨ r.high < s.low then [r]
  else
    (if r.low < s.low then [between r.low (scale.previous s.low)] else []) ++
      (if s.high < r.high then [between (scale.next s.high) r.high] else [])

end Range

/-- ranges in ascending order -/
structure RangeSet where
  ranges : List Range
  deriving DecidableEq, Repr

namespace RangeSet

/-- the set without elements -/
def empty : RangeSet :=
  ⟨[]⟩

/-- join the ranges that touch, in a list in ascending order; `current` comes before all of them -/
def joinFrom (current : Range) : List Range → List Range
  | [] => [current]
  | r :: rest =>
    if current.touches r then joinFrom (current.span r) rest
    else current :: joinFrom r rest

/-- the set of the numbers of all given ranges -/
def ofRanges (ranges : List Range) : RangeSet :=
  match ranges.mergeSort Range.before with
  | [] => ⟨[]⟩
  | r :: rest => ⟨joinFrom r rest⟩

/-- the same numbers with the ranges that touch joined -/
def joined (s : RangeSet) : RangeSet :=
  ofRanges s.ranges

/-- the set of the numbers between the ends of all given pairs -/
def ofPairs (pairs : List (Nat × Nat)) : RangeSet :=
  ofRanges (pairs.map fun (a, b) => .between a b)

/-- the set of one number -/
def single (n : Nat) : RangeSet :=
  ⟨[⟨n, n, Nat.le_refl n⟩]⟩

/-- the only number of a set that has just one -/
def single? (s : RangeSet) : Option Nat :=
  match s.ranges with
  | [r] => if r.low = r.high then some r.low else none
  | _ => none

/-- whether all numbers are those of ASCII -/
def isAscii (s : RangeSet) : Bool :=
  s.ranges.all fun r => decide (r.high ≤ 0x7F)

/-- the numbers of either set -/
def union (s t : RangeSet) : RangeSet :=
  ofRanges (s.ranges ++ t.ranges)

/-- the numbers of any of the sets -/
def unionAll (sets : List RangeSet) : RangeSet :=
  ofRanges (sets.flatMap ranges)

/-- the numbers of both sets -/
def meet (s t : RangeSet) : RangeSet :=
  ⟨s.ranges.flatMap fun r => t.ranges.flatMap r.meet⟩

/-- the numbers of `s` that are not in `t` -/
def minus (scale : Scale) (s t : RangeSet) : RangeSet :=
  ⟨s.ranges.flatMap fun r => t.ranges.foldl (fun left u => left.flatMap (Range.minus scale · u)) [r]⟩

/-- the numbers that are in one of the sets only -/
def exclusive (scale : Scale) (s t : RangeSet) : RangeSet :=
  (s.union t).minus scale (s.meet t)

/-- the ranges between those given, where `low` is the first number that is not yet settled. Between a range up to U+D7FF
and one from U+E000 on there is no gap, and the range between them is that of these two -/
def gapsFrom (scale : Scale) (low : Nat) : List Range → List Range
  | [] => if low ≤ scale.last then [.between low scale.last] else []
  | r :: rest => .between low (scale.previous r.low) :: gapsFrom scale (scale.next r.high) rest

/-- the numbers of the scale that are not in the set, the two beside the surrogates apart -/
def complement (scale : Scale) (s : RangeSet) : RangeSet :=
  match s.ranges with
  | [] => ⟨[.between 0 scale.last]⟩
  | r :: rest =>
    if 0 < r.low then ⟨gapsFrom scale 0 (r :: rest)⟩ else ⟨gapsFrom scale (scale.next r.high) rest⟩

/-- the set as a table to search in -/
def table (s : RangeSet) : Unicode.RangeTable :=
  ⟨(s.ranges.map fun r => (r.low, r.high)).toArray⟩

end RangeSet

/-- the set of the code points in a table -/
def Unicode.RangeTable.set (t : Unicode.RangeTable) : RangeSet :=
  ⟨t.ranges.toList.map fun (low, high) => .between low high⟩

end Munch
