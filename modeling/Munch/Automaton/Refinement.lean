/-
Refinement of a partition of states until equivalent states, and only those, share a block.

The partition begins with groups of accepting states and the block of all others. A splitter is a block and a symbol: a
block in which only some states move into the splitter's block on its symbol is split. The larger half keeps the number
of the block, so that pending splitters mean that half, and the smaller half becomes a new splitter for each symbol.
-/
import Munch.Automaton.Basic

namespace Munch

/-- a partition of the states into numbered blocks -/
structure Partition where
  blocks : Array (List Nat)
  /-- the number of the block of each state -/
  blockOf : Array Nat
  deriving DecidableEq, Repr

namespace Partition

/-- the numbers of blocks with the states of the given block entered under `number` -/
def enter (blockOf : Array Nat) (block : List Nat) (number : Nat) : Array Nat :=
  block.foldl (fun blockOf q => blockOf.setIfInBounds q number) blockOf

/-- the partition with the given blocks, entered from the number `number` on -/
def enterAll (blockOf : Array Nat) (number : Nat) : List (List Nat) → Array Nat
  | [] => blockOf
  | block :: rest => enterAll (enter blockOf block number) (number + 1) rest

/-- the partition of the states with the given blocks -/
def ofBlocks (stateCount : Nat) (blocks : List (List Nat)) : Partition :=
  { blocks := blocks.toArray, blockOf := enterAll (Array.replicate stateCount 0) 0 blocks }

/-- the number of the block of a state -/
def blockNumber (p : Partition) (q : Nat) : Nat :=
  (p.blockOf[q]?).getD 0

/-- the states of a block -/
def block (p : Partition) (number : Nat) : List Nat :=
  (p.blocks[number]?).getD []

/-- split a block into the states with a mark, of which there are `count`, and those without; the smaller half gets a new
number. Nothing is to be done if all states of the block have a mark -/
def split? (p : Partition) (number count : Nat) (marked : Array Bool) : Option Partition :=
  let block := p.block number
  if count = block.length then none
  else
    let (inside, outside) := block.partition fun q => (marked[q]?).getD false
    let (larger, smaller) := if outside.length ≤ inside.length then (inside, outside) else (outside, inside)
    some {
      blocks := (p.blocks.setIfInBounds number larger).push smaller
      blockOf := enter p.blockOf smaller p.blocks.size }

end Partition

/-- the states from which each state is reached on each symbol -/
structure Predecessors where
  stateCount : Nat
  lists : Array (List Nat)

namespace Predecessors

/-- the predecessors in an automaton -/
def ofAutomaton (m : Automaton) : Predecessors :=
  let n := m.stateCount
  let put (lists : Array (List Nat)) (t : Nat × Edge) : Array (List Nat) :=
    match t.2.label with
    | .epsilon => lists
    | .symbol a => lists.modify (a * n + t.2.target) (t.1 :: ·)
  { stateCount := n, lists := m.transitions.foldl put (Array.replicate (m.alphabetSize * n) []) }

/-- the states that move to `q` on a symbol -/
def of (ps : Predecessors) (q symbol : Nat) : List Nat :=
  (ps.lists[symbol * ps.stateCount + q]?).getD []

end Predecessors

/-- a refinement under way: the partition, the splitters that are pending, and a mark for each state -/
structure Refinement where
  partition : Partition
  pending : List (Nat × Nat)
  marked : Array Bool
  deriving Repr

namespace Refinement

/-- all symbols with the given block -/
def splitters (alphabetSize block : Nat) : List (Nat × Nat) :=
  (List.range alphabetSize).map fun a => (block, a)

/-- the refinement at its beginning: the groups are blocks, and so are the other states if there are any; the groups are
splitters for each symbol -/
def initial (m : Automaton) (groups : List (List Nat)) : Refinement :=
  let groups := groups.filter fun g => !g.isEmpty
  let others := (List.range m.stateCount).filter fun q => !m.isAccepting q
  { partition := .ofBlocks m.stateCount (groups ++ if others.isEmpty then [] else [others])
    pending := (List.range groups.length).flatMap (splitters m.alphabetSize)
    marked := Array.replicate m.stateCount false }

/-- mark a state and put it in front of the list, unless it is marked -/
def mark (r : Array Bool × List Nat) (q : Nat) : Array Bool × List Nat :=
  if r.1[q]? = some false then (r.1.setIfInBounds q true, q :: r.2) else r

/-- count one more state of a block, in a list of blocks in ascending order with their counts -/
def tally (counts : List (Nat × Nat)) (block : Nat) : List (Nat × Nat) :=
  match counts with
  | [] => [(block, 1)]
  | (b, n) :: rest =>
    if block < b then (block, 1) :: (b, n) :: rest
    else if block = b then (b, n + 1) :: rest
    else (b, n) :: tally rest block

/-- split one of the blocks that have marked states -/
def splitBlock (alphabetSize : Nat) (r : Refinement) (touched : Nat × Nat) : Refinement :=
  match r.partition.split? touched.1 touched.2 r.marked with
  | none => r
  | some p => { r with partition := p, pending := r.pending ++ splitters alphabetSize r.partition.blocks.size }

/-- apply one splitter -/
def apply (m : Automaton) (ps : Predecessors) (splitter : Nat × Nat) (r : Refinement) : Refinement :=
  let (marked, found) :=
    ((r.partition.block splitter.1).flatMap fun q => ps.of q splitter.2).foldl mark (r.marked, [])
  let touched := (found.map r.partition.blockNumber).foldl tally []
  let r := touched.foldl (splitBlock m.alphabetSize) { r with marked := marked }
  { r with marked := found.foldl (fun marked q => marked.setIfInBounds q false) r.marked }

/-- apply pending splitters in the order in which they were found, `rounds` of them at most -/
def run (m : Automaton) (ps : Predecessors) : Nat → Refinement → Refinement
  | 0, r => r
  | rounds + 1, r =>
    match r.pending with
    | [] => r
    | splitter :: rest => run m ps rounds (apply m ps splitter { r with pending := rest })

/-- the partition in which the refinement of the groups ends. There are no more blocks than states, and each becomes a
splitter once for each symbol -/
def finest (m : Automaton) (groups : List (List Nat)) : Partition :=
  let r := initial m groups
  (run m (.ofAutomaton m) (r.pending.length + m.stateCount * m.alphabetSize) r).partition

end Refinement

end Munch
