/-
Closed, non-empty intervals of code points.

A code point is a natural number here: nothing in the construction of a lexer depends on which numbers are characters,
and the text being scanned brings only characters.
-/
import Munch.Fault

namespace Munch

/-- the code points from `start` to `stop`, both included -/
structure Interval where
  start : Nat
  stop : Nat
  start_le_stop : start ≤ stop := by omega
  deriving DecidableEq, Repr

namespace Interval

/-- the interval with the given ends, which must be in order -/
def ofEnds (start stop : Nat) : Except Fault Interval :=
  if h : start ≤ stop then .ok ⟨start, stop, h⟩ else .error (.invalidInterval start stop)

/-- the interval of one character -/
def single (c : Char) : Interval :=
  ⟨c.toNat, c.toNat, Nat.le_refl _⟩

/-- the interval of the characters from `c` to `d` -/
def ofChars (c d : Char) : Except Fault Interval :=
  ofEnds c.toNat d.toNat

/-- whether a code point lies between the ends -/
def contains (i : Interval) (point : Nat) : Bool :=
  decide (i.start ≤ point) && decide (point ≤ i.stop)

/-- the pair of the ends -/
def ends (i : Interval) : Nat × Nat :=
  (i.start, i.stop)

/-- the ends in hexadecimal, written once if they are equal -/
def text (i : Interval) : String :=
  if i.start = i.stop then Numeral.hex i.start else Numeral.hex i.start ++ ".." ++ Numeral.hex i.stop

theorem contains_iff {i : Interval} {point : Nat} : i.contains point = true ↔ i.start ≤ point ∧ point ≤ i.stop := by
  simp [contains]

theorem contains_start (i : Interval) : i.contains i.start = true :=
  contains_iff.2 ⟨Nat.le_refl _, i.start_le_stop⟩

theorem contains_stop (i : Interval) : i.contains i.stop = true :=
  contains_iff.2 ⟨i.start_le_stop, Nat.le_refl _⟩

end Interval

end Munch
