/-
The alphabet of a lexer: disjoint intervals of code points in ascending order.

The automata never see code points. Their symbol `i` is the interval at position `i`, and two code points of one interval
are in the same intervals of every rule.
-/
import Munch.Alphabet.Split
import Munch.Alphabet.Tiling

namespace Munch

/-- sorted, disjoint intervals; the position of an interval is a symbol -/
structure Alphabet where
  intervals : Array Interval
  deriving DecidableEq, Repr

namespace Alphabet

/-- the alphabet into which the given intervals split -/
def ofIntervals (intervals : List Interval) : Alphabet :=
  ⟨(Interval.split intervals).toArray⟩

/-- the number of symbols -/
def size (a : Alphabet) : Nat :=
  a.intervals.size

/-- whether there is no symbol at all -/
def isEmpty (a : Alphabet) : Bool :=
  a.intervals.isEmpty

/-- the interval that a symbol stands for -/
def interval? (a : Alphabet) (symbol : Nat) : Option Interval :=
  a.intervals[symbol]?

/-- the symbol whose interval holds the code point -/
def symbolOf? (a : Alphabet) (point : Nat) : Option Nat :=
  let n := Bisection.countTrue a.size fun i => (a.intervals[i]?).any fun x => decide (x.start ≤ point)
  if n = 0 then none
  else if (a.intervals[n - 1]?).any (·.contains point) then some (n - 1) else none

/-- the symbols that make up an interval of a rule -/
def symbolsOf (a : Alphabet) (i : Interval) : Except Fault (List Nat) :=
  Interval.tiles a.intervals i.start i.stop

/-- the intervals as pairs of their ends -/
def pairs (a : Alphabet) : Array (Nat × Nat) :=
  a.intervals.map Interval.ends

end Alphabet

end Munch
