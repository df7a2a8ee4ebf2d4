/-
The places that the two loops of the construction look up.

The exploration marks states, numbers sets and gives each edge the number of a set; the refinement looks up the block of a
state, the states of a block and the predecessors of a state on a symbol. `Subsets.InRange` and `Refinement.InRange` say that
all of these are there. They hold after any number of rounds, because each round keeps them, and at each point of a round:
when some symbols of a set have been followed (`Subsets.during`), and when some of the blocks that a splitter touches have
been split (`Refinement.during`).

Results:
- `Followed.rounds`: what a round of the exploration keeps is kept by any number of them.
- `Subsets.inRange_during`, `Refinement.inRange_run`, `Refinement.inRange_during`: the places are there.
- `Predecessors.inRange_ofAutomaton`: there is a list of states for each state and symbol.
-/
import Mathlib.Tactic
import Munch.Proofs.Automaton.Refinement
import Munch.Proofs.Automaton.Subset

namespace Munch

/-! ## The exploration -/

namespace Subsets

open Scratch (clean)

variable {m : Automaton} {c : Subsets} {s : Nat} {edges : List Edge}

/-- the exploration at its beginning -/
def initial (m : Automaton) : Subsets :=
  let (first, scratch) := (clean m.stateCount).closure m [m.start]
  { scratch := scratch, sets := #[first] }

theorem ofAutomaton_eq (m : Automaton) : ofAutomaton m = explore m (2 ^ m.stateCount) (initial m) := rfl

/-- the exploration after some rounds, when `s` symbols of the next set have been followed, with the edges of that set so
far in reverse order -/
def during (m : Automaton) (rounds s : Nat) : Subsets × List Edge :=
  let c := explore m rounds (initial m)
  match c.sets[c.rows.size]? with
  | none => (c, [])
  | some set => (List.range s).foldl (follow m set) (c, [])

/-- an edge on a symbol of the automaton to a set that has a number -/
def EdgeInRange (m : Automaton) (c : Subsets) (e : Edge) : Prop :=
  e.target < c.sets.size ∧ ∃ a < m.alphabetSize, e.label = .symbol a

/-- the places that the exploration looks up: a mark for each state that is in a set, a set for each row, and a set for each
edge of a row -/
structure InRange (m : Automaton) (c : Subsets) (edges : List Edge) : Prop where
  marks_size : c.scratch.marks.size = m.stateCount
  rows_le : c.rows.size ≤ c.sets.size
  member_lt : ∀ set ∈ c.sets, ∀ q ∈ set, q < m.stateCount
  rows_edges : ∀ es ∈ c.rows, ∀ e ∈ es, EdgeInRange m c e
  next_edges : ∀ e ∈ edges, EdgeInRange m c e

theorem Row.edgeInRange {set : List Nat} {es : List Edge} (h : Row m c.sets set s es) (hs : s ≤ m.alphabetSize) :
    ∀ e ∈ es, EdgeInRange m c e := by
  intro e he
  obtain ⟨a, ha, hl, hj⟩ := h.mem_iff.1 he
  exact ⟨(Array.getElem?_eq_some_iff.1 hj).1, a, ha.trans_le hs, hl⟩

theorem Followed.inRange (hw : m.WellFormed) (h : Followed m c s edges) (hnext : ∀ e ∈ edges, EdgeInRange m c e) :
    InRange m c edges where
  marks_size := by
    rw [h.scratch]
    exact Array.size_replicate
  rows_le := h.le
  member_lt := by
    intro set hset
    obtain ⟨i, hi⟩ := Array.mem_iff_getElem?.1 hset
    obtain ⟨-, u, hu⟩ := h.explored.word hi
    exact hu.lt hw
  rows_edges := by
    intro es hes
    obtain ⟨i, hi⟩ := Array.mem_iff_getElem?.1 hes
    have hlt : i < c.sets.size := (Array.getElem?_eq_some_iff.1 hi).1.trans_le h.le
    exact (h.rows (Array.getElem?_eq_getElem hlt) hi).edgeInRange (Nat.le_refl _)
  next_edges := hnext

/-- any number of rounds keeps what one round keeps -/
theorem Followed.rounds (hw : m.WellFormed) (h : Followed m c 0 []) (rounds : Nat) :
    Followed m (Subsets.explore m rounds c) 0 [] := by
  induction rounds generalizing c with
  | zero => exact h
  | succ rounds ih =>
    rw [Subsets.explore]
    cases hset : c.sets[c.rows.size]? with
    | none => exact h
    | some set => exact ih (h.expand hw hset).1

theorem followed_start (hw : m.WellFormed) : Followed m (initial m) 0 [] := by
  have hclosure : (clean m.stateCount).closure m [m.start] = (first m, clean m.stateCount) :=
    Prod.ext rfl (Scratch.closure_clean hw.closed (List.forall_mem_singleton.2 hw.start_lt)).clean
  rw [initial, hclosure]
  exact followed_initial hw

/-- the exploration looks nothing up that is not there -/
theorem inRange_during (hw : m.WellFormed) (rounds : Nat) (hs : s ≤ m.alphabetSize) :
    InRange m (during m rounds s).1 (during m rounds s).2 := by
  have h := (followed_start hw).rounds hw rounds
  unfold during
  generalize explore m rounds (initial m) = c at h ⊢
  dsimp only
  split
  case h_1 => exact h.inRange hw nofun
  case h_2 set hset =>
    obtain ⟨hf, hrows, hset'⟩ := h.foldl hw hset hs
    have hrow := (hf.row (hrows.symm ▸ hset')).edgeInRange hs
    apply hf.inRange hw
    intro e he
    exact hrow e (List.mem_reverse.2 he)

end Subsets

/-! ## The refinement -/

namespace Predecessors

/-- there is a list for each state and symbol, and its members are states -/
def InRange (m : Automaton) (ps : Predecessors) : Prop :=
  ∀ q < m.stateCount, ∀ a < m.alphabetSize,
    a * ps.stateCount + q < ps.lists.size ∧ ∀ p ∈ ps.of q a, p < m.stateCount

theorem size_ofAutomaton (m : Automaton) : (ofAutomaton m).lists.size = m.alphabetSize * m.stateCount := by
  have hfold (ts : List (Nat × Edge)) (lists : Array (List Nat)) :
      (ts.foldl (put m.stateCount) lists).size = lists.size := by
    induction ts generalizing lists with
    | nil => rfl
    | cons t ts ih => rw [List.foldl_cons, ih, size_put]
  exact (hfold _ _).trans Array.size_replicate

theorem inRange_ofAutomaton {m : Automaton} (hw : m.WellFormed) : InRange m (ofAutomaton m) := by
  intro q hq a ha
  refine ⟨?_, ?_⟩
  · rw [size_ofAutomaton, Nat.mul_comm a]
    exact Nat.mul_add_lt_mul_of_lt_of_lt ha hq
  · intro p hp
    exact Automaton.source_lt ((mem_of_iff hw hq ha).1 hp)

end Predecessors

/-- a split rearranges the states of one block -/
theorem Partition.exists_halved {p p' : Partition} {number count : Nat} {marked : Array Bool}
    (h : p.split? number count marked = some p') : ∃ larger smaller, p' = p.halved number larger smaller ∧
      larger ⊆ p.block number ∧ smaller ⊆ p.block number := by
  unfold split? at h
  simp only [List.partition_eq_filter_filter] at h
  split_ifs at h
  · exact ⟨_, _, (Option.some.inj h).symm, List.filter_subset_self _, List.filter_subset_self _⟩
  · exact ⟨_, _, (Option.some.inj h).symm, List.filter_subset_self _, List.filter_subset_self _⟩

namespace Refinement

variable {m : Automaton} {groups : List (List Nat)} {r : Refinement} {ps : Predecessors} {splitter : Nat × Nat}

/-- the places that the refinement looks up: a mark and a block for each state that is in a block, and the block and the
symbol of each pending splitter -/
structure InRange (m : Automaton) (r : Refinement) : Prop where
  marks_size : r.marked.size = m.stateCount
  numbers_size : r.partition.blockOf.size = m.stateCount
  number_lt : ∀ q < m.stateCount, r.partition.blockNumber q < r.partition.blocks.size
  member_lt : ∀ block ∈ r.partition.blocks, ∀ q ∈ block, q < m.stateCount
  pending_lt : ∀ s ∈ r.pending, s.1 < r.partition.blocks.size ∧ s.2 < m.alphabetSize

theorem InRange.lt_of_mem_block (h : InRange m r) {b q : Nat} (hq : q ∈ r.partition.block b) : q < m.stateCount := by
  rw [Partition.block] at hq
  cases hb : r.partition.blocks[b]? with
  | none =>
    rw [hb] at hq
    cases hq
  | some block =>
    rw [hb] at hq
    exact h.member_lt block (Array.mem_of_getElem? hb) q hq

theorem Inv.inRange (h : Inv m groups r) : InRange m r where
  marks_size := by
    rw [h.clean]
    exact Array.size_replicate
  numbers_size := h.consistent.size_eq
  number_lt _ hq := h.consistent.number_lt hq
  member_lt := by
    intro block hblock q hq
    obtain ⟨b, hb⟩ := Array.mem_iff_getElem?.1 hblock
    have hmem : q ∈ r.partition.block b := by rwa [Partition.block, hb]
    exact ((h.consistent.mem_iff (Array.getElem?_eq_some_iff.1 hb).1).1 hmem).1
  pending_lt _ hs := h.valid hs

/-- between two rounds the refinement looks nothing up that is not there -/
theorem inRange_run (hm : m.Complete) (hg : groups.flatten.Perm m.acceptingStates) (rounds : Nat) :
    InRange m (Refinement.run m (.ofAutomaton m) rounds (initial m groups)) :=
  ((inv_initial hm hg).rounds hm rounds).inRange

/-- the states that are found in a round have marks -/
theorem InRange.marking (h : InRange m r) (hps : ps.InRange m) (ha : splitter.2 < m.alphabetSize) :
    (Refinement.marking ps splitter r).1.size = m.stateCount ∧
      ∀ q ∈ (Refinement.marking ps splitter r).2, q < m.stateCount := by
  have hpred : ∀ q ∈ (r.partition.block splitter.1).flatMap fun q => ps.of q splitter.2, q < m.stateCount := by
    intro q hq
    obtain ⟨p, hp, hq⟩ := List.mem_flatMap.1 hq
    exact (hps p (h.lt_of_mem_block hp) _ ha).2 q hq
  have hmark (l : List Nat) (x : Array Bool × List Nat) (hl : ∀ q ∈ l, q < m.stateCount)
      (hx : x.1.size = m.stateCount ∧ ∀ q ∈ x.2, q < m.stateCount) :
      (l.foldl mark x).1.size = m.stateCount ∧ ∀ q ∈ (l.foldl mark x).2, q < m.stateCount := by
    induction l generalizing x with
    | nil => exact hx
    | cons q l ih =>
      obtain ⟨hq, hl⟩ := List.forall_mem_cons.1 hl
      apply ih _ hl
      unfold mark
      split
      · exact ⟨by simpa using hx.1, List.forall_mem_cons.2 ⟨hq, hx.2⟩⟩
      · exact hx
  exact hmark _ _ hpred ⟨h.marks_size, nofun⟩

/-- the blocks that are touched in a round are there -/
theorem InRange.touched (h : InRange m r) (hps : ps.InRange m) (ha : splitter.2 < m.alphabetSize) :
    ∀ t ∈ Refinement.touched ps splitter r, t.1 < r.partition.blocks.size := by
  intro t ht
  obtain ⟨hcount, hpos⟩ := (counts_foldl_tally counts_nil).mem_iff.1 ht
  rw [Nat.zero_add] at hcount
  obtain ⟨q, hq, hqt⟩ := List.mem_map.1 (List.count_pos_iff.1 (hcount ▸ hpos))
  rw [← hqt]
  exact h.number_lt q ((h.marking hps ha).2 q hq)

/-- the split of a block keeps the places, and the blocks that were there stay -/
theorem InRange.splitBlock (h : InRange m r) (t : Nat × Nat) : InRange m (Refinement.splitBlock m.alphabetSize r t) ∧
    r.partition.blocks.size ≤ (Refinement.splitBlock m.alphabetSize r t).partition.blocks.size := by
  unfold Refinement.splitBlock
  cases hs : r.partition.split? t.1 t.2 r.marked with
  | none => exact ⟨h, Nat.le_refl _⟩
  | some p =>
    obtain ⟨larger, smaller, rfl, hlarger, hsmaller⟩ := Partition.exists_halved hs
    have hsize := Partition.size_halved r.partition t.1 larger smaller
    refine ⟨?_, hsize ▸ Nat.le_succ _⟩
    exact
      { marks_size := h.marks_size
        numbers_size := (Partition.size_enter _ _ _).trans h.numbers_size
        number_lt := by
          intro q hq
          have hlt := h.number_lt q hq
          have hnumber : (r.partition.halved t.1 larger smaller).blockNumber q =
              if q ∈ smaller then r.partition.blocks.size else r.partition.blockNumber q :=
            Partition.getD_enter _ _ _ (h.numbers_size ▸ hq)
          rw [hnumber, hsize]
          split <;> omega
        member_lt := by
          intro block hblock q hq
          rcases Array.mem_push.1 hblock with hblock | rfl
          · rcases Array.mem_or_eq_of_mem_setIfInBounds hblock with hold | rfl
            · exact h.member_lt block hold q hq
            · exact h.lt_of_mem_block (hlarger hq)
          · exact h.lt_of_mem_block (hsmaller hq)
        pending_lt := by
          intro s hmem
          rw [hsize]
          rcases List.mem_append.1 hmem with hold | hnew
          · obtain ⟨hb, ha⟩ := h.pending_lt s hold
            exact ⟨Nat.lt_succ_of_lt hb, ha⟩
          · obtain ⟨hb, ha⟩ := mem_splitters.1 hnew
            exact ⟨hb ▸ Nat.lt_succ_self _, ha⟩ }

/-- within a round the refinement looks nothing up that is not there -/
theorem InRange.during (h : InRange m r) (hps : ps.InRange m) (ha : splitter.2 < m.alphabetSize) (k : Nat) :
    InRange m (Refinement.during m ps splitter r k) ∧
      ∀ t ∈ Refinement.touched ps splitter r, t.1 < (Refinement.during m ps splitter r k).partition.blocks.size := by
  have hfold (ts : List (Nat × Nat)) {r : Refinement} (h : InRange m r) :
      InRange m (ts.foldl (Refinement.splitBlock m.alphabetSize) r) ∧
        r.partition.blocks.size ≤ (ts.foldl (Refinement.splitBlock m.alphabetSize) r).partition.blocks.size := by
    induction ts generalizing r with
    | nil => exact ⟨h, Nat.le_refl _⟩
    | cons t ts ih =>
      obtain ⟨h1, hle⟩ := h.splitBlock t
      obtain ⟨h2, hle'⟩ := ih h1
      exact ⟨h2, hle.trans hle'⟩
  obtain ⟨hend, hle⟩ := hfold ((Refinement.touched ps splitter r).take k)
    (r := { r with marked := (Refinement.marking ps splitter r).1 })
    { h with marks_size := (h.marking hps ha).1 }
  refine ⟨hend, ?_⟩
  intro t ht
  exact (h.touched hps ha t ht).trans_le hle

/-- in each round of the refinement that is made -/
theorem inRange_during (hm : m.Complete) (hg : groups.flatten.Perm m.acceptingStates) (rounds : Nat)
    {rest : List (Nat × Nat)}
    (hr : (Refinement.run m (.ofAutomaton m) rounds (initial m groups)).pending = splitter :: rest) (k : Nat) :
    let r := { Refinement.run m (.ofAutomaton m) rounds (initial m groups) with pending := rest }
    InRange m (during m (.ofAutomaton m) splitter r k) ∧ ∀ t ∈ touched (.ofAutomaton m) splitter r,
      t.1 < (during m (.ofAutomaton m) splitter r k).partition.blocks.size := by
  have h := inRange_run hm hg rounds
  have ha := (h.pending_lt splitter (hr ▸ List.mem_cons_self)).2
  generalize Refinement.run m (.ofAutomaton m) rounds (initial m groups) = r at h hr ⊢
  have hrest : InRange m { r with pending := rest } :=
    ⟨h.marks_size, h.numbers_size, h.number_lt, h.member_lt,
      fun s hs => h.pending_lt s (hr ▸ List.mem_cons_of_mem splitter hs)⟩
  exact hrest.during (Predecessors.inRange_ofAutomaton hm.wellFormed) ha k

end Refinement

end Munch
