/-
The rounds of the refinement, one after the other.

A round takes the first pending splitter, marks the states that move into its block, and splits the touched blocks in
ascending order. The counts were made before the first split and are used up while blocks are split and states get new
numbers; they are still right when their turn comes, because only the block whose turn it is changes. A split adds one
block and one splitter for each symbol, and nothing else adds a splitter. There are no more blocks than states, so the
splitters run out.

Results:
- `Inv.tidy`: between two rounds both forms of the partition agree and no mark is left.
- `round_apply`: what happens in a round.
- `rounds_eq_of_work`: the number of rounds until no splitter is left.
- `tidy_rounds`: all of that for the groups of a complete automaton.
-/
import Mathlib.Tactic
import Munch.Proofs.Automaton.InRange

namespace Munch

namespace Refinement

variable {m : Automaton} {groups : List (List Nat)} {r : Refinement} {ps : Predecessors} {splitter : Nat × Nat}

/-! ## Between two rounds -/

/-- what is so between two rounds of a refinement with `n` states and `k` symbols -/
structure Tidy (n k : Nat) (r : Refinement) : Prop where
  nonempty : ∀ block ∈ r.partition.blocks, block ≠ []
  disjoint : r.partition.blocks.toList.Pairwise List.Disjoint
  covers : ∀ q, q < n ↔ ∃ block ∈ r.partition.blocks, q ∈ block
  numbers_size : r.partition.blockOf.size = n
  /-- the number of a state is that of the block in which it is -/
  number : ∀ q < n, ∃ b block, r.partition.blockOf[q]? = some b ∧ r.partition.blocks[b]? = some block ∧ q ∈ block
  pending_lt : ∀ s ∈ r.pending, s.1 < r.partition.blocks.size ∧ s.2 < k
  unmarked : r.marked = Array.replicate n false
  size_le : r.partition.blocks.size ≤ n

theorem Inv.tidy (h : Inv m groups r) : Tidy m.stateCount m.alphabetSize r := by
  have hmem {b q : Nat} {block : List Nat} (hb : r.partition.blocks[b]? = some block) :
      q ∈ block ↔ q < m.stateCount ∧ r.partition.blockNumber q = b := by
    rw [← h.consistent.mem_iff (Array.getElem?_eq_some_iff.1 hb).1, Partition.block, hb, Option.getD_some]
  have hblock {q : Nat} (hq : q < m.stateCount) :
      ∃ block, r.partition.blocks[r.partition.blockNumber q]? = some block ∧ q ∈ block := by
    have hb := Array.getElem?_eq_getElem (h.consistent.number_lt hq)
    exact ⟨_, hb, (hmem hb).2 ⟨hq, rfl⟩⟩
  exact
    { nonempty := by
        intro block hin
        obtain ⟨b, hb⟩ := Array.mem_iff_getElem?.1 hin
        have hne := h.consistent.nonempty (Array.getElem?_eq_some_iff.1 hb).1
        rwa [Partition.block, hb] at hne
      disjoint := by
        refine List.pairwise_iff_getElem.2 fun i j hi hj hij q hqi hqj => ?_
        have hnumber {b : Nat} (hb : b < r.partition.blocks.toList.length) (hq : q ∈ r.partition.blocks.toList[b]) :
            r.partition.blockNumber q = b := by
          rw [Array.length_toList] at hb
          exact ((hmem (Array.getElem?_eq_getElem hb)).1 hq).2
        exact Nat.ne_of_lt hij ((hnumber hi hqi).symm.trans (hnumber hj hqj))
      covers := by
        intro q
        constructor
        · intro hq
          obtain ⟨block, hb, hqb⟩ := hblock hq
          exact ⟨block, Array.mem_of_getElem? hb, hqb⟩
        · rintro ⟨block, hin, hqb⟩
          obtain ⟨b, hb⟩ := Array.mem_iff_getElem?.1 hin
          exact ((hmem hb).1 hqb).1
      numbers_size := h.consistent.size_eq
      number := by
        intro q hq
        obtain ⟨block, hb, hqb⟩ := hblock hq
        have hnumber : r.partition.blockOf[q]? = some (r.partition.blockNumber q) := by
          rw [Partition.blockNumber, Array.getElem?_eq_getElem (h.consistent.size_eq ▸ hq), Option.getD_some]
        exact ⟨_, block, hnumber, hb, hqb⟩
      pending_lt := fun _ hs => h.valid hs
      unmarked := h.clean
      size_le := h.consistent.size_le }

/-! ## Within a round -/

/-- what happens in the round of a splitter from `r` to `r'`, where `during m ps splitter r i` is the refinement after the
first `i` of the touched blocks -/
structure Round (m : Automaton) (ps : Predecessors) (splitter : Nat × Nat) (r r' : Refinement) : Prop where
  begins : (during m ps splitter r 0).partition = r.partition ∧ (during m ps splitter r 0).pending = r.pending
  /-- at any time of the round the states that move into the splitter have marks, and no others -/
  marked_iff : ∀ i q, Marked (during m ps splitter r i).marked q ↔
    ∃ t ∈ r.partition.block splitter.1, m.moves q (.symbol splitter.2) t
  /-- the touched blocks, each of them once, are those with such a state -/
  touched_iff : ∀ b, (∃ count, (b, count) ∈ touched ps splitter r) ↔
    ∃ q ∈ r.partition.block b, Marked (during m ps splitter r 0).marked q
  touched_once : ((touched ps splitter r).map Prod.fst).Nodup
  /-- when its turn comes the block has as many marked states as were counted -/
  count_eq : ∀ {i b count}, (touched ps splitter r)[i]? = some (b, count) →
    b < (during m ps splitter r i).partition.blocks.size ∧
      count = ((during m ps splitter r i).partition.block b).countP fun q =>
        ((during m ps splitter r i).marked[q]?).getD false
  /-- either all states of the block have a mark and nothing happens, or a block and its splitters are added -/
  split : ∀ {i b count}, (touched ps splitter r)[i]? = some (b, count) →
    (∀ q ∈ (during m ps splitter r i).partition.block b, Marked (during m ps splitter r i).marked q) ∧
        during m ps splitter r (i + 1) = during m ps splitter r i ∨
      (∃ q ∈ (during m ps splitter r i).partition.block b, ¬Marked (during m ps splitter r i).marked q) ∧
        (during m ps splitter r (i + 1)).partition.blocks.size =
          (during m ps splitter r i).partition.blocks.size + 1 ∧
        (during m ps splitter r (i + 1)).pending = (during m ps splitter r i).pending ++
          splitters m.alphabetSize (during m ps splitter r i).partition.blocks.size
  size_le : ∀ i, (during m ps splitter r i).partition.blocks.size ≤ m.stateCount
  ends : r'.partition = (during m ps splitter r (touched ps splitter r).length).partition ∧
    r'.pending = (during m ps splitter r (touched ps splitter r).length).pending

theorem during_succ {i : Nat} {t : Nat × Nat} (ht : (touched ps splitter r)[i]? = some t) :
    during m ps splitter r (i + 1) = splitBlock m.alphabetSize (during m ps splitter r i) t := by
  rw [during, List.take_add_one, ht, Option.toList_some, List.foldl_append]
  rfl

/-- a block of which `count` states have a mark is split unless all of its states have one -/
theorem splitBlock_cases {k b count : Nat}
    (hcount : count = (r.partition.block b).countP fun q => (r.marked[q]?).getD false) :
    (∀ q ∈ r.partition.block b, Marked r.marked q) ∧ splitBlock k r (b, count) = r ∨
      (∃ q ∈ r.partition.block b, ¬Marked r.marked q) ∧
        (splitBlock k r (b, count)).partition.blocks.size = r.partition.blocks.size + 1 ∧
        (splitBlock k r (b, count)).pending = r.pending ++ splitters k r.partition.blocks.size := by
  have hall : (∀ q ∈ r.partition.block b, Marked r.marked q) ↔ r.partition.split? b count r.marked = none := by
    rw [Partition.split?_eq_none_iff, hcount]
    exact List.countP_eq_length.symm
  cases hs : r.partition.split? b count r.marked with
  | none =>
    refine Or.inl ⟨hall.2 hs, ?_⟩
    simp only [splitBlock, hs]
  | some p =>
    obtain ⟨larger, smaller, rfl, -, -⟩ := Partition.exists_halved hs
    refine Or.inr ⟨?_, ?_, ?_⟩
    · by_contra! hmarked
      rw [hall.1 hmarked] at hs
      cases hs
    · simp only [splitBlock, hs, Partition.size_halved]
    · simp only [splitBlock, hs]

section Splitter

variable (hm : m.Complete) (h : r.partition.Consistent m.stateCount)
  (hclean : r.marked = Array.replicate m.stateCount false) {b a : Nat} (hb : b < r.partition.blocks.size)
  (ha : a < m.alphabetSize)
include hm h hclean hb ha

/-- the count of a touched block is right when its turn comes -/
theorem count_during {i c count : Nat} (ht : (touched (.ofAutomaton m) (b, a) r)[i]? = some (c, count)) :
    c < (during m (.ofAutomaton m) (b, a) r i).partition.blocks.size ∧
      count = ((during m (.ofAutomaton m) (b, a) r i).partition.block c).countP fun q =>
        ((during m (.ofAutomaton m) (b, a) r i).marked[q]?).getD false := by
  have hsplit := splitAll_during hm h hclean hb ha i
  obtain ⟨hc, -, hcount⟩ := count_touched hm h hclean hb ha (List.mem_of_getElem? ht)
  -- the blocks that have been split come before this one
  have hnot : ¬∃ t ∈ (touched (.ofAutomaton m) (b, a) r).take i, t.1 = c := by
    rintro ⟨t, hin, rfl⟩
    obtain ⟨j, hj⟩ := List.mem_iff_getElem?.1 hin
    rw [List.getElem?_take] at hj
    split_ifs at hj with hji
    obtain ⟨hjlt, hjt⟩ := List.getElem?_eq_some_iff.1 hj
    obtain ⟨hilt, hit⟩ := List.getElem?_eq_some_iff.1 ht
    have hlt := List.pairwise_iff_getElem.1 (touched_ascending (.ofAutomaton m) (b, a) r) j i hjlt hilt hji
    rw [hjt, hit] at hlt
    exact Nat.lt_irrefl _ hlt
  refine ⟨hc.trans_le hsplit.size_le, ?_⟩
  refine hcount.trans ?_
  rw [hsplit.marked_eq]
  exact ((hsplit.perm_block h hc hnot).countP_eq _).symm

/-- the marked states are those that move into the block of the splitter -/
theorem marked_during_iff (i q : Nat) : Marked (during m (.ofAutomaton m) (b, a) r i).marked q ↔
    ∃ t ∈ r.partition.block b, m.moves q (.symbol a) t := by
  rw [(splitAll_during hm h hclean hb ha i).marked_eq]
  refine (marks_marking hm h hclean hb ha).marked_iff.trans ⟨?_, ?_⟩
  · rintro ⟨hq, hqb⟩
    exact ⟨m.step q a, (h.mem_iff hb).2 ⟨hm.step_lt hq ha, hqb⟩, (hm.moves_iff hq).2 ⟨ha, rfl⟩⟩
  · rintro ⟨t, ht, hqt⟩
    have hq := Automaton.source_lt hqt
    obtain rfl := ((hm.moves_iff hq).1 hqt).2
    exact ⟨hq, ((h.mem_iff hb).1 ht).2⟩

theorem exists_mem_touched_iff (c : Nat) : (∃ count, (c, count) ∈ touched (.ofAutomaton m) (b, a) r) ↔
    ∃ q ∈ r.partition.block c, Marked (marking (.ofAutomaton m) (b, a) r).1 q := by
  constructor
  · rintro ⟨count, ht⟩
    obtain ⟨-, hpos, hcount⟩ := count_touched hm h hclean hb ha ht
    exact List.countP_pos_iff.1 (hcount ▸ hpos)
  · rintro ⟨q, hqc, hq⟩
    obtain ⟨t, ht, hnumber⟩ := exists_touched hm h hclean hb ha hq
    have hc : c < r.partition.blocks.size := by
      by_contra hle
      rw [Partition.block, Array.getElem?_eq_none (Nat.not_lt.1 hle)] at hqc
      cases hqc
    have htc : t.1 = c := hnumber.trans ((h.mem_iff hc).1 hqc).2
    exact ⟨t.2, htc ▸ ht⟩

theorem round_apply : Round m (.ofAutomaton m) (b, a) r (apply m (.ofAutomaton m) (b, a) r) where
  begins := ⟨rfl, rfl⟩
  marked_iff := marked_during_iff hm h hclean hb ha
  touched_iff := exists_mem_touched_iff hm h hclean hb ha
  touched_once := List.pairwise_map.2 ((touched_ascending _ _ r).imp fun hlt => Nat.ne_of_lt hlt)
  count_eq := count_during hm h hclean hb ha
  split := by
    intro i c count ht
    rw [during_succ ht]
    exact splitBlock_cases (count_during hm h hclean hb ha ht).2
  size_le i := (splitAll_during hm h hclean hb ha i).consistent.size_le
  ends := by
    rw [apply_eq]
    exact ⟨rfl, rfl⟩

end Splitter

/-! ## All rounds -/

/-- the work of all rounds is the splitters of the beginning, and those of the blocks that were added -/
theorem rounds_eq_of_work {r' : Refinement} {rounds : Nat} (hsize : r.partition.blocks.size ≤ r'.partition.blocks.size)
    (hle : r'.partition.blocks.size ≤ m.stateCount) (hend : r'.pending = []) (hwork : work m r' + rounds = work m r) :
    rounds = r.pending.length + (r'.partition.blocks.size - r.partition.blocks.size) * m.alphabetSize := by
  obtain ⟨d, hd⟩ := Nat.exists_eq_add_of_le hsize
  obtain ⟨e, he⟩ := Nat.exists_eq_add_of_le hle
  have hlast : m.stateCount - r'.partition.blocks.size = e := Nat.sub_eq_of_eq_add' he
  have hgrown : r'.partition.blocks.size - r.partition.blocks.size = d := Nat.sub_eq_of_eq_add' hd
  have hfirst : m.stateCount - r.partition.blocks.size = d + e := by
    omega
  rw [work, work, hend, hlast, hfirst, List.length_nil, Nat.add_mul] at hwork
  rw [hgrown]
  omega

/-- the refinement of the groups after some rounds -/
def stage (m : Automaton) (groups : List (List Nat)) (rounds : Nat) : Refinement :=
  run m (.ofAutomaton m) rounds (initial m groups)

/-- how the refinement of the groups goes from its first round to its last -/
structure Rounds (m : Automaton) (groups : List (List Nat)) : Prop where
  tidy : ∀ k, Tidy m.stateCount m.alphabetSize (stage m groups k)
  round : ∀ {k splitter rest}, (stage m groups k).pending = splitter :: rest →
    Round m (.ofAutomaton m) splitter { stage m groups k with pending := rest } (stage m groups (k + 1))
  /-- a round for each splitter of the beginning, and one for each symbol and block that was added -/
  ends : ∃ rounds, rounds = (initial m groups).pending.length +
      ((finest m groups).blocks.size - (initial m groups).partition.blocks.size) * m.alphabetSize ∧
    (stage m groups rounds).pending = [] ∧ (∀ k < rounds, (stage m groups k).pending ≠ []) ∧
    (stage m groups rounds).partition = finest m groups

theorem rounds_of_complete (hm : m.Complete) (hg : groups.flatten.Perm m.acceptingStates) : Rounds m groups where
  tidy k := ((inv_initial hm hg).rounds hm k).tidy
  round := by
    intro k splitter rest hr
    have h : Inv m groups (stage m groups k) := (inv_initial hm hg).rounds hm k
    obtain ⟨hb, ha⟩ := h.valid (hr ▸ List.mem_cons_self)
    have hnext : stage m groups (k + 1) = apply m (.ofAutomaton m) splitter { stage m groups k with pending := rest } := by
      rw [stage, run_succ]
      exact run_of_cons hr 0
    rw [hnext]
    exact round_apply hm (r := { stage m groups k with pending := rest }) h.consistent h.clean hb ha
  ends := by
    have hinv := inv_initial hm hg
    obtain ⟨rounds, hend, hbefore, hwork, hsize⟩ := hinv.exists_rounds hm
    have hfinest : (stage m groups rounds).partition = finest m groups :=
      (finest_eq hend (hwork ▸ Nat.le_add_left _ _)).symm
    refine ⟨rounds, ?_, hend, hbefore, hfinest⟩
    rw [← hfinest]
    exact rounds_eq_of_work hsize (hinv.rounds hm rounds).consistent.size_le hend hwork

/-! ## Any start -/

/-- the refinement does not ask for the start -/
theorem run_startAt (m : Automaton) (q : Nat) (ps : Predecessors) (rounds : Nat) (r : Refinement) :
    run (m.startAt q) ps rounds r = run m ps rounds r := by
  induction rounds generalizing r with
  | zero => rfl
  | succ rounds ih =>
    cases hr : r.pending with
    | nil => rw [run_of_nil hr, run_of_nil hr]
    | cons s rest =>
      rw [run_of_cons hr, run_of_cons hr]
      exact ih _

theorem Round.of_startAt {q : Nat} {r' : Refinement} (h : Round (m.startAt q) ps splitter r r') :
    Round m ps splitter r r' :=
  ⟨h.begins, h.marked_iff, h.touched_iff, h.touched_once, h.count_eq, h.split, h.size_le, h.ends⟩

theorem Rounds.of_startAt {q : Nat} (h : Rounds (m.startAt q) groups) : Rounds m groups := by
  have hstage (k : Nat) : stage (m.startAt q) groups k = stage m groups k := run_startAt m q _ k _
  have hfinest : finest (m.startAt q) groups = finest m groups := congrArg partition (run_startAt m q _ _ _)
  obtain ⟨rounds, hrounds, hend, hbefore, hpartition⟩ := h.ends
  simp only [hstage] at hend hbefore hpartition
  rw [hfinest] at hrounds hpartition
  exact
    { tidy := fun k => hstage k ▸ h.tidy k
      round := by
        intro k splitter rest hr
        have hround := h.round ((congrArg pending (hstage k)).trans hr)
        rw [hstage, hstage] at hround
        exact hround.of_startAt
      ends := ⟨rounds, hrounds, hend, hbefore, hpartition⟩ }

/-- **The refinement stays tidy, counts right and ends.** Let an automaton with states be complete, its moves being moves on
its symbols to its states, and let the groups hold each accepting state once. Between two rounds the blocks are not empty,
share no state and are all states, the number of a state is that of its block, the pending splitters are blocks, and no mark
is left. Within a round the touched blocks are those with a marked state, and each has as many of them as were counted when
its turn comes. A split adds one block, of which there are no more than states, and a splitter for each symbol; nothing else
adds any. So the rounds end, after as many of them as the splitters of the beginning and of the blocks that were added. -/
theorem tidy_rounds (hm : m.Closed) (hsymbols : ∀ {p a q}, m.moves p (.symbol a) q → a < m.alphabetSize)
    (hcomplete : m.isComplete = true) (hstates : 0 < m.stateCount) (hg : groups.flatten.Perm m.acceptingStates) :
    Rounds m groups := by
  have hw : (m.startAt 0).WellFormed := ⟨hm.ascending, hstates, hm.target_lt, hsymbols⟩
  exact (rounds_of_complete (hw.complete hcomplete) hg).of_startAt

/-- four states in a row, of which the last accepts and moves to itself -/
def row4 : Automaton :=
  { alphabetSize := 1
    states := #[{ edges := [⟨.symbol 0, 1⟩] }, { edges := [⟨.symbol 0, 2⟩] }, { edges := [⟨.symbol 0, 3⟩] },
      { edges := [⟨.symbol 0, 3⟩], accepting := true }] }

/-- two splits, and a third round that finds nothing -/
theorem tidy_rounds_row4 : row4.isComplete = true ∧ [[], [3]].flatten.Perm row4.acceptingStates ∧
    Rounds row4 [[], [3]] ∧ (stage row4 [[], [3]] 2).pending ≠ [] ∧ (stage row4 [[], [3]] 3).pending = [] ∧
    (finest row4 [[], [3]]).blocks = #[[3], [1], [2], [0]] := by
  have hw : row4.WellFormed := Automaton.wellFormed_of_edges (by decide) (by decide)
  have hcomplete : row4.isComplete = true := by cbv
  have hg : [[], [3]].flatten.Perm row4.acceptingStates := by decide
  have h := tidy_rounds hw.closed hw.symbol_lt hcomplete (by decide) hg
  obtain ⟨rounds, hrounds, hend, hbefore, -⟩ := h.ends
  have hblocks : (finest row4 [[], [3]]).blocks = #[[3], [1], [2], [0]] := by
    cbv
  have hthree : rounds = 3 := by
    rw [hrounds, hblocks]
    cbv
  subst hthree
  exact ⟨hcomplete, hg, h, hbefore 2 (by decide), hend, hblocks⟩

end Refinement

end Munch
