/-
The split of overlapping intervals into disjoint ones.

`Interval.split` walks over the ends of all intervals in ascending order. An interval of the result is closed where a
given interval begins (just before that point) or ends (at that point), and a new one is opened behind it as long as some
given interval is still open. So the result is ordered and disjoint, covers the same code points, and every given interval
is a run of its members.
-/
import Munch.Interval

namespace Munch

/-- an end of an interval: the point where it begins or the last point that it contains -/
inductive Boundary where
  | opens (point : Nat)
  | closes (point : Nat)
  deriving DecidableEq, Repr

namespace Boundary

/-- the order of the walk: by point, and at one point the beginnings before the ends -/
def rank : Boundary → Nat
  | opens p => 2 * p
  | closes p => 2 * p + 1

/-- the two ends of an interval -/
def ofInterval (i : Interval) : List Boundary :=
  [opens i.start, closes i.stop]

/-- the ends of all intervals in the order of the walk -/
def ordered (intervals : List Interval) : List Boundary :=
  (intervals.flatMap ofInterval).mergeSort fun a b => decide (a.rank ≤ b.rank)

end Boundary

namespace Interval

/-- the interval from the open point, if there is one, up to but not including `point` -/
def closedBefore (opened : Option Nat) (point : Nat) : List Interval :=
  match opened with
  | some s => if h : s < point then [⟨s, point - 1, Nat.le_sub_one_of_lt h⟩] else []
  | none => []

/-- the interval from the open point, if there is one, up to and including `point` -/
def closedAt (opened : Option Nat) (point : Nat) : List Interval :=
  match opened with
  | some s => if h : s ≤ point then [⟨s, point, h⟩] else []
  | none => []

/-- the walk over the remaining ends, where `depth` given intervals are open and `opened` is the first code point that
no interval of the result holds yet -/
def sweep (depth : Nat) (opened : Option Nat) : List Boundary → List Interval
  | [] => []
  | .opens p :: rest => closedBefore opened p ++ sweep (depth + 1) (some p) rest
  | .closes p :: rest =>
    closedAt opened p ++ sweep (depth - 1) (if 1 < depth then some (p + 1) else none) rest

/-- the coarsest disjoint intervals of which every given interval is a run, in ascending order -/
def split (intervals : List Interval) : List Interval :=
  sweep 0 none (Boundary.ordered intervals)

end Interval

end Munch
