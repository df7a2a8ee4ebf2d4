/-
Deterministic automata from any automata.

A state of the deterministic automaton is a set of states of the given one: those in which it can be after the same
input. Sets are numbered in the order in which they are found, and they are followed up in that order, so the numbers are
breadth first. A set without members is no state, so the result may lack moves.

The result has no error state. The given automaton should have none either, which a release build does not check.
-/
import Munch.Automaton.Scratch

namespace Munch

/-- the sets that have been found, and the edges of those that have been followed up -/
structure Subsets where
  scratch : Scratch
  sets : Array (List Nat)
  rows : Array (List Edge) := #[]
  deriving Repr

namespace Subsets

/-- the number of a set, which is found now if it was not before -/
def intern (c : Subsets) (set : List Nat) : Nat × Subsets :=
  match c.sets.findIdx? (· == set) with
  | some i => (i, c)
  | none => (c.sets.size, { c with sets := c.sets.push set })

/-- follow up a set on one symbol; the edges of the set so far are in reverse order -/
def follow (m : Automaton) (set : List Nat) (r : Subsets × List Edge) (symbol : Nat) : Subsets × List Edge :=
  let (c, edges) := r
  let (moved, scratch) := c.scratch.move m set symbol
  if moved.isEmpty then ({ c with scratch := scratch }, edges)
  else
    let (target, scratch) := scratch.closure m moved
    let (i, c) := { c with scratch := scratch }.intern target
    (c, ⟨.symbol symbol, i⟩ :: edges)

/-- follow up a set on all symbols -/
def expand (m : Automaton) (c : Subsets) (set : List Nat) : Subsets :=
  let (c, edges) := (List.range m.alphabetSize).foldl (follow m set) (c, [])
  { c with rows := c.rows.push edges.reverse }

/-- follow up sets in the order in which they were found, `rounds` of them at most -/
def explore (m : Automaton) : Nat → Subsets → Subsets
  | 0, c => c
  | rounds + 1, c =>
    match c.sets[c.rows.size]? with
    | none => c
    | some set => explore m rounds (c.expand m set)

/-- all sets that the automaton can be in, from its start on; there are no more of them than sets of states -/
def ofAutomaton (m : Automaton) : Subsets :=
  let (first, scratch) := (Scratch.clean m.stateCount).closure m [m.start]
  explore m (Nat.pow 2 m.stateCount) { scratch := scratch, sets := #[first] }

end Subsets

namespace Automaton

/-- the smallest token type among those of the given states -/
def leastToken? (m : Automaton) (set : List Nat) : Option Nat :=
  (set.filterMap m.token?).foldl (fun least t => some (least.elim t (min t))) none

/-- the state for a set of states with the given edges; the smallest token type wins -/
def subsetState (m : Automaton) (set : List Nat) (edges : List Edge) : State :=
  { edges := edges, accepting := set.any m.isAccepting, token := m.leastToken? set }

/-- the deterministic automaton that accepts the same words with the same token types -/
def determinize (m : Automaton) : Except Fault Automaton :=
  if m.start < m.stateCount then
    let c := Subsets.ofAutomaton m
    .ok { alphabetSize := m.alphabetSize, states := c.sets.zipWith m.subsetState c.rows }
  else .error .outOfRange

end Automaton

end Munch
