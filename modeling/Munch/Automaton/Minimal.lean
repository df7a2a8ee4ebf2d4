/-
Minimal automata.

Equivalent states of a complete automaton are merged into one. Accepting states are told apart by a list of groups, by
default one group for each token type; states of different groups are never merged. The merged states are numbered by
their smallest members, so an error state `0` stays where it is.

The groups, the start and the error state are looked up here and have to be states. That moves lead to states is left to
those who put them in.
-/
import Munch.Automaton.Refinement

namespace Munch

namespace Partition

/-- the smallest state of a block -/
def least (block : List Nat) : Nat :=
  match block with
  | [] => 0
  | q :: rest => rest.foldl min q

/-- the smallest states of the blocks -/
def representatives (p : Partition) : List Nat :=
  p.blocks.toList.map least

/-- the numbers of the blocks in ascending order of their smallest states -/
def ordered (p : Partition) : List Nat :=
  (List.range p.blocks.size).mergeSort fun a b => decide (least (p.block a) ≤ least (p.block b))

end Partition

namespace Automaton

/-- the order of token types, where states without one come first -/
def tokenRank (m : Automaton) (q : Nat) : Nat :=
  (m.token? q).elim 0 (· + 1)

/-- the accepting states in groups of one token type each, states without one first -/
def tokenGroups (m : Automaton) : List (List Nat) :=
  (m.acceptingStates.mergeSort fun p q => decide (m.tokenRank p ≤ m.tokenRank q)).splitBy
    fun p q => m.token? p == m.token? q

/-- the token type of a block: that of the largest state in it that has one -/
def blockToken? (m : Automaton) (p : Partition) (number : Nat) : Option Nat :=
  (m.tokenStates.reverse.find? fun t => p.blockNumber t.1 == number).map (·.2)

/-- the state for a block, where `place` gives the new number of a state; its moves are those of the representative that
lies in the block -/
def blockState (m : Automaton) (p : Partition) (place : Nat → Nat) (number : Nat) : State :=
  let inside := p.representatives.filter fun q => p.blockNumber q == number
  { edges := (inside.take 1).flatMap fun q => (m.edges q).map fun e => { e with target := place e.target }
    accepting := inside.any m.isAccepting
    token := m.blockToken? p number }

/-- the automaton with the states of each block merged -/
def quotient (m : Automaton) (p : Partition) : Automaton :=
  let ordered := p.ordered
  let place (q : Nat) : Nat := ordered.idxOf (p.blockNumber q)
  { alphabetSize := m.alphabetSize
    states := (ordered.map (m.blockState p place)).toArray
    start := place m.start
    errorState := m.errorState.map place }

/-- the smallest automaton that keeps the accepting states of each group apart from all others; the members of the groups,
the start and the error state, if there is one, have to be states -/
def minimizeGroups (m : Automaton) (groups : List (List Nat)) : Except Fault Automaton :=
  if !m.isComplete then .error .notComplete
  else if (∀ g ∈ groups, ∀ q ∈ g, q < m.stateCount) ∧ m.start < m.stateCount ∧
      ∀ e ∈ m.errorState, e < m.stateCount then
    .ok (m.quotient (Refinement.finest m groups))
  else .error .outOfRange

/-- the smallest automaton that accepts the same words with the same token types -/
def minimize (m : Automaton) : Except Fault Automaton :=
  m.minimizeGroups m.tokenGroups

end Automaton

end Munch
