/-
Automata for regular expressions.

`Regex.compile` adds to an automaton the states and edges for a regular expression, from an existing state to a new one.
What it adds is entered only through the first and left only through the last, so expressions can be compiled one behind
the other into the same automaton. A repetition has a state of its own to come back to, because coming back to its first
state would let it run into what else leaves that state.
-/
import Munch.Automaton.Basic
import Munch.Alphabet.Basic
import Munch.Regex

namespace Munch

namespace Automaton

/-- the automaton with edges from `p` to `q` on all given symbols -/
def connectAll (m : Automaton) (p : Nat) (symbols : List Nat) (q : Nat) : Except Fault Automaton :=
  symbols.foldlM (fun m a => m.connect p (.symbol a) q) m

/-- the automaton with edges from `p` to `q` on the symbols of all given intervals -/
def connectSet (m : Automaton) (alphabet : Alphabet) (p : Nat) (intervals : List Interval) (q : Nat) :
    Except Fault Automaton :=
  intervals.foldlM (fun m i => do m.connectAll p (← alphabet.symbolsOf i) q) m

end Automaton

namespace Regex

/-- the automaton with the states and edges for the expression from the state `start` on, and the new state where they
end -/
def compile (alphabet : Alphabet) : Regex → Nat → Automaton → Except Fault (Nat × Automaton)
  | set is, start, m => do
    let stop := m.stateCount
    let m ← m.addState.connectSet alphabet start is stop
    return (stop, m)
  | cat a b, start, m => do
    let (middle, m) ← a.compile alphabet start m
    b.compile alphabet middle m
  | alt a b, start, m => do
    let left := m.stateCount
    let right := left + 1
    let m ← m.addState.addState.connect start .epsilon left
    let m ← m.connect start .epsilon right
    let (leftStop, m) ← a.compile alphabet left m
    let (rightStop, m) ← b.compile alphabet right m
    let stop := m.stateCount
    let m ← m.addState.connect leftStop .epsilon stop
    let m ← m.connect rightStop .epsilon stop
    return (stop, m)
  | opt a, start, m => do
    let (stop, m) ← a.compile alphabet start m
    let m ← m.connect start .epsilon stop
    return (stop, m)
  | plus a, start, m => do
    let first := m.stateCount
    let m ← m.addState.connect start .epsilon first
    let (last, m) ← a.compile alphabet first m
    let stop := m.stateCount
    let m ← m.addState.connect last .epsilon first
    let m ← m.connect last .epsilon stop
    return (stop, m)
  | star a, start, m => do
    let first := m.stateCount
    let m ← m.addState.connect start .epsilon first
    let (last, m) ← a.compile alphabet first m
    let stop := m.stateCount
    let m ← m.addState.connect last .epsilon first
    let m ← m.connect last .epsilon stop
    let m ← m.connect first .epsilon stop
    return (stop, m)

end Regex

end Munch
