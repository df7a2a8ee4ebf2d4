/-
The ways in which a caller can break the contract of an operation.

A fault is not an answer of the lexer generator about its input: it says that an operation was called on values that it
does not accept, such as an interval whose ends are in the wrong order or a state that an automaton does not have.
`Fault.message?` is the text of the faults that explain themselves; a missing index and counts in the wrong order do not.

All functions follow a release build, in which debug assertions are left out: what only such an assertion asks for (the
target and the symbol of a new edge, an accepting state, the absence of an error state) is no fault here, and an index that
is too large for its word wraps around. That the assertions hold whenever a lexer is built is a theorem about the build,
`Definition.Contracts`, and not a check in it.
-/
import Munch.Text.Numeral

namespace Munch

/-- why an operation refuses the values it was called on -/
inductive Fault where
  /-- an interval from `start` to `stop` with `stop < start` -/
  | invalidInterval (start stop : Nat)
  /-- no interval of the alphabet begins where the range begins -/
  | offStart (start stop : Nat)
  /-- the alphabet has a gap inside the range or ends before it -/
  | notTiled (start stop : Nat)
  /-- an interval of the alphabet reaches beyond the end of the range -/
  | offEnd (start stop : Nat)
  /-- completion of an automaton with a choice of moves -/
  | notDeterministic
  /-- minimisation of an automaton with a missing move -/
  | notComplete
  /-- a repetition of at most `most` times that is to be repeated `least` times, with `most < least` -/
  | invalidCounts (least most : Nat)
  /-- a state, symbol, token type or mode that is not there -/
  | outOfRange
  deriving DecidableEq, Repr

namespace Fault

/-- a range of code points as the messages about alphabets write it -/
def rangeText (start stop : Nat) : String :=
  "[" ++ Numeral.hex start ++ ", " ++ Numeral.hex stop ++ "]"

/-- the text of a fault, if it has one -/
def message? : Fault → Option String
  | invalidInterval s e => some ("Invalid interval [" ++ Numeral.decimal s ++ ", " ++ Numeral.decimal e ++ "]")
  | offStart s e => some ("Interval " ++ rangeText s e ++ " does not start on an alphabet boundary")
  | notTiled s e => some ("Interval " ++ rangeText s e ++ " is not tiled by the alphabet")
  | offEnd s e => some ("Interval " ++ rangeText s e ++ " does not end on an alphabet boundary")
  | notDeterministic => some "Only a deterministic automaton can be completed"
  | notComplete => some "Only a complete DFA can be minimized"
  | invalidCounts _ _ => none
  | outOfRange => none

end Fault

/-- what comes after a step gets the value of the step -/
theorem exists_of_bind_eq_ok {ε α β : Type} {x : Except ε α} {f : α → Except ε β} {b : β} (h : x >>= f = .ok b) :
    ∃ a, x = .ok a ∧ f a = .ok b := by
  cases x with
  | error e => cases h
  | ok a => exact ⟨a, rfl, h⟩

/-- the value, or the fault of an index that is not there -/
def orOutOfRange {α : Type} : Option α → Except Fault α
  | some a => .ok a
  | none => .error .outOfRange

end Munch
