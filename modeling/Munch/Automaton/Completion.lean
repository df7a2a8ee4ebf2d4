/-
Deterministic automata with a move on every symbol in every state.

The missing moves lead to a new state, the error state, which is never left. It comes first, so every other state moves
up by one.
-/
import Munch.Automaton.Basic

namespace Munch.Automaton

/-- edges on all symbols to the given targets -/
def row (alphabetSize : Nat) (target : Nat → Nat) : List Edge :=
  (List.range alphabetSize).map fun a => ⟨.symbol a, target a⟩

/-- where the completed automaton goes from the state that was `q` -/
def completedTarget (m : Automaton) (q symbol : Nat) : Nat :=
  ((m.target? q symbol).map (· + 1)).getD 0

/-- the completed state that was `q` -/
def completedState (m : Automaton) (q : Nat) : State :=
  { edges := row m.alphabetSize (m.completedTarget q), accepting := m.isAccepting q, token := m.token? q }

/-- the error state: it goes to itself on every symbol and does not accept -/
def sink (alphabetSize : Nat) : State :=
  { edges := row alphabetSize fun _ => 0 }

/-- the automaton in which the missing moves lead to an error state -/
def complete (m : Automaton) : Except Fault Automaton :=
  if m.isDeterministic then
    .ok {
      alphabetSize := m.alphabetSize
      states := #[sink m.alphabetSize] ++ (Array.range m.stateCount).map m.completedState
      start := m.start + 1
      errorState := some 0 }
  else .error .notDeterministic

end Munch.Automaton
