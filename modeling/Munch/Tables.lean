/-
The tables that a scanner runs on.

All moves of a complete automaton are one list, a row for each state. In a row the first column is for characters that no
rule mentions, and the column behind it are the symbols of the alphabet; the start state also has a move for each mode,
on the symbol with the number of the mode.

A scanner takes tables as they come, and a state, a column or a mode may be any number. The place of a move in the list is
computed in machine words of 64 bits without a check for overflow, so what goes beyond the words wraps around.
-/
import Munch.Fault
import Munch.Bisection

namespace Munch

/-- the name of a token type and the number of the mode to continue in -/
structure TokenInfo where
  name : String
  mode : Nat
  deriving DecidableEq, Repr

/-- the tables of a scanner -/
structure Tables where
  transitions : Array Nat
  /-- the number of columns of a row -/
  symbolCount : Nat
  accepting : Array Bool
  tokenTypes : Array (Option Nat)
  tokens : Array TokenInfo
  /-- the ends of the intervals of the alphabet -/
  intervals : Array (Nat × Nat)
  errorState : Nat
  startState : Nat
  startMode : Nat
  modeNames : Array String
  deriving DecidableEq, Repr

/-- the position, counted from one, of the pair that spans the code point, in a list of ends that is in ascending order
and without overlaps; `0` if no pair does -/
def symbolIn (intervals : Array (Nat × Nat)) (point : Nat) : Nat :=
  let n := Bisection.countTrue intervals.size fun i => (intervals[i]?).any fun p => decide (p.1 ≤ point)
  if n = 0 then 0
  else if (intervals[n - 1]?).any fun p => decide (point ≤ p.2) then n else 0

namespace Tables

/-- the number of states -/
def stateCount (t : Tables) : Nat :=
  t.accepting.size

/-- the column of a character -/
def symbolOf (t : Tables) (c : Char) : Nat :=
  symbolIn t.intervals c.toNat

/-- the number of places that an index can tell apart: all words, and in any case every place of the list of moves -/
def places (t : Tables) : Nat :=
  max UInt64.size t.transitions.size

/-- the result of an operation on indices -/
def wrap (t : Tables) (n : Nat) : Nat :=
  n % t.places

/-- the state behind a state on the symbol of a column -/
def nextState (t : Tables) (state symbol : Nat) : Except Fault Nat :=
  orOutOfRange (t.transitions[t.wrap (t.wrap (state * t.symbolCount) + symbol)]?)

/-- the state in which a token of the given mode begins -/
def modeStart (t : Tables) (mode : Nat) : Except Fault Nat :=
  t.nextState t.startState (t.wrap (mode + 1))

/-- the number of the mode with the given name -/
def modeIndex? (t : Tables) (name : String) : Option Nat :=
  t.modeNames.findIdx? (· == name)

/-- the name of a token type -/
def tokenName? (t : Tables) (token : Nat) : Option String :=
  (t.tokens[token]?).map TokenInfo.name

@[simp] theorem wrap_wrap_add (t : Tables) (n k : Nat) : t.wrap (t.wrap n + k) = t.wrap (n + k) :=
  Nat.mod_add_mod n t.places k

@[simp] theorem wrap_add_wrap (t : Tables) (n k : Nat) : t.wrap (n + t.wrap k) = t.wrap (n + k) :=
  Nat.add_mod_mod n k t.places

theorem wrap_of_lt {t : Tables} {n : Nat} (h : n < t.transitions.size) : t.wrap n = n :=
  Nat.mod_eq_of_lt (Nat.lt_of_lt_of_le h (Nat.le_max_right _ _))

/-- a place that the list has is found exactly -/
theorem nextState_of_lt {t : Tables} {state symbol : Nat} (h : state * t.symbolCount + symbol < t.transitions.size) :
    t.nextState state symbol = orOutOfRange (t.transitions[state * t.symbolCount + symbol]?) := by
  rw [nextState, wrap_wrap_add, wrap_of_lt h]

theorem modeStart_eq_nextState (t : Tables) (mode : Nat) : t.modeStart mode = t.nextState t.startState (mode + 1) := by
  rw [modeStart, nextState, nextState, wrap_add_wrap]

/-- over a list that is no longer than there are words, places are computed in words -/
theorem nextState_eq_word {t : Tables} (h : t.transitions.size ≤ UInt64.size) {columns : UInt64}
    (hcolumns : t.symbolCount = columns.toNat) (state symbol : UInt64) :
    t.nextState state.toNat symbol.toNat = orOutOfRange (t.transitions[(state * columns + symbol).toNat]?) := by
  have hplaces : t.places = UInt64.size := Nat.max_eq_left h
  simp [nextState, wrap, hplaces, hcolumns]

theorem modeStart_eq_word {t : Tables} (h : t.transitions.size ≤ UInt64.size) {columns start : UInt64}
    (hcolumns : t.symbolCount = columns.toNat) (hstart : t.startState = start.toNat) (mode : UInt64) :
    t.modeStart mode.toNat = orOutOfRange (t.transitions[(start * columns + (mode + 1)).toNat]?) := by
  have hplaces : t.places = UInt64.size := Nat.max_eq_left h
  rw [← nextState_eq_word h hcolumns, modeStart, hstart]
  simp [wrap, hplaces]

end Tables

end Munch
