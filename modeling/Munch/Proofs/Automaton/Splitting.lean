/-
One application of a splitter.

The states that move into the block of the splitter are marked, the marked states of each block are counted, and each
block with marked and unmarked states is split. `Applied` says what has become of the refinement then.

Results:
- `mem_of_iff`: the lists of predecessors are the moves read backwards.
- `counts_foldl_tally`: the states of each block are counted.
- `count_touched`: so are the marked states of each block that has some.
- `splitAll_foldl`: the counts stay right while blocks are split, because no touched block is changed by another one.
- `applied_apply`: two states share a block afterwards if they did before and both move into the splitter or neither does;
  new blocks are queued for every symbol, and no mark is left.
-/
import Mathlib.Tactic
import Munch.Proofs.Automaton.Partition
import Munch.Proofs.Automaton.Run

namespace Munch

/-! ## Predecessors -/

namespace Predecessors

/-- enter a move into lists of predecessors -/
def put (n : Nat) (lists : Array (List Nat)) (t : Nat × Edge) : Array (List Nat) :=
  match t.2.label with
  | .epsilon => lists
  | .symbol a => lists.modify (a * n + t.2.target) (t.1 :: ·)

theorem mem_put {n : Nat} {lists : Array (List Nat)} {t : Nat × Edge} {i p : Nat} (hi : i < lists.size) :
    p ∈ ((put n lists t)[i]?).getD [] ↔
      p ∈ (lists[i]?).getD [] ∨ ∃ a q, t = (p, ⟨.symbol a, q⟩) ∧ a * n + q = i := by
  obtain ⟨r, l, q⟩ := t
  cases l with
  | epsilon => simp [put]
  | symbol a =>
    simp only [put, Array.getElem?_modify, Array.getElem?_eq_getElem hi]
    by_cases ha : a * n + q = i
    · simp only [if_pos ha, Option.map_some, Option.getD_some, List.mem_cons]
      constructor
      · rintro (rfl | hp)
        · exact Or.inr ⟨a, q, rfl, ha⟩
        · exact Or.inl hp
      · rintro (hp | ⟨a', q', he, -⟩)
        · exact Or.inr hp
        · cases he
          exact Or.inl rfl
    · simp only [if_neg ha]
      constructor
      · exact Or.inl
      · rintro (hp | ⟨a', q', he, h'⟩)
        · exact hp
        · cases he
          exact absurd h' ha

theorem size_put (n : Nat) (lists : Array (List Nat)) (t : Nat × Edge) : (put n lists t).size = lists.size := by
  unfold put
  split <;> simp

theorem mem_foldl_put {n : Nat} {lists : Array (List Nat)} {ts : List (Nat × Edge)} {i p : Nat} (hi : i < lists.size) :
    p ∈ ((ts.foldl (put n) lists)[i]?).getD [] ↔
      p ∈ (lists[i]?).getD [] ∨ ∃ a q, (p, (⟨.symbol a, q⟩ : Edge)) ∈ ts ∧ a * n + q = i := by
  induction ts generalizing lists with
  | nil => simp
  | cons t ts ih =>
    rw [List.foldl_cons, ih (by rwa [size_put]), mem_put hi, or_assoc]
    refine or_congr_right ⟨?_, ?_⟩
    · rintro (⟨a, q, rfl, he⟩ | ⟨a, q, hm, he⟩)
      · exact ⟨a, q, List.mem_cons_self, he⟩
      · exact ⟨a, q, List.mem_cons_of_mem t hm, he⟩
    · rintro ⟨a, q, hm, he⟩
      rcases List.mem_cons.1 hm with rfl | hm
      · exact Or.inl ⟨a, q, rfl, he⟩
      · exact Or.inr ⟨a, q, hm, he⟩

/-- the lists of predecessors are the moves read backwards -/
theorem mem_of_iff {m : Automaton} (hw : m.WellFormed) {p q a : Nat} (hq : q < m.stateCount) (ha : a < m.alphabetSize) :
    p ∈ (Predecessors.ofAutomaton m).of q a ↔ m.moves p (.symbol a) q := by
  have hlists : (Predecessors.ofAutomaton m).lists =
      m.transitions.foldl (put m.stateCount) (Array.replicate (m.alphabetSize * m.stateCount) []) := rfl
  have hi : a * m.stateCount + q < m.alphabetSize * m.stateCount := by
    calc a * m.stateCount + q < a * m.stateCount + m.stateCount := by omega
      _ = (a + 1) * m.stateCount := by ring
      _ ≤ m.alphabetSize * m.stateCount := Nat.mul_le_mul_right _ ha
  unfold of
  rw [hlists, show (Predecessors.ofAutomaton m).stateCount = m.stateCount from rfl, mem_foldl_put (by simpa using hi)]
  simp only [Array.getElem?_replicate, if_pos hi, Option.getD_some, List.not_mem_nil, false_or,
    Automaton.mem_transitions_iff]
  constructor
  · rintro ⟨a', q', hm, he⟩
    have hq' : q' < m.stateCount := hw.target_lt hm
    -- a position determines the symbol and the state
    have h1 : (a' * m.stateCount + q') / m.stateCount = a' := by
      rw [Nat.add_comm, Nat.add_mul_div_right _ _ (by omega), Nat.div_eq_of_lt hq', Nat.zero_add]
    have h2 : (a * m.stateCount + q) / m.stateCount = a := by
      rw [Nat.add_comm, Nat.add_mul_div_right _ _ (by omega), Nat.div_eq_of_lt hq, Nat.zero_add]
    obtain rfl : a' = a := by rw [← h1, he, h2]
    obtain rfl : q' = q := by omega
    exact hm
  · intro hm
    exact ⟨a, q, hm, rfl⟩

end Predecessors

namespace Refinement

open Munch.Partition (SplitAt Consistent)

/-! ## Counts -/

/-- blocks in ascending order with the numbers that `f` gives, where these are not zero -/
structure Counts (counts : List (Nat × Nat)) (f : Nat → Nat) : Prop where
  ascending : counts.Pairwise fun x y => x.1 < y.1
  mem_iff : ∀ {b c}, (b, c) ∈ counts ↔ c = f b ∧ 0 < c

theorem Counts.tail {b n : Nat} {rest : List (Nat × Nat)} {f : Nat → Nat} (h : Counts ((b, n) :: rest) f) :
    (∀ x ∈ rest, b < x.1) ∧ n = f b ∧ 0 < n ∧ Counts rest (Function.update f b 0) := by
  obtain ⟨hb, hr⟩ := List.pairwise_cons.1 h.ascending
  obtain ⟨hn, hpos⟩ := h.mem_iff.1 List.mem_cons_self
  refine ⟨hb, hn, hpos, hr, fun {y c} => ?_⟩
  by_cases hy : y = b
  · subst hy
    rw [Function.update_self]
    exact ⟨fun hm => absurd (hb _ hm) (Nat.lt_irrefl _), fun ⟨h1, h2⟩ => by omega⟩
  · rw [Function.update_of_ne hy, ← h.mem_iff, List.mem_cons, Prod.mk.injEq]
    exact ⟨Or.inr, fun hm => hm.resolve_left fun e => hy e.1⟩

theorem Counts.cons {b n : Nat} {rest : List (Nat × Nat)} {f : Nat → Nat} (hb : ∀ x ∈ rest, b < x.1) (hn : n = f b)
    (hpos : 0 < n) (h : Counts rest (Function.update f b 0)) : Counts ((b, n) :: rest) f := by
  refine ⟨List.pairwise_cons.2 ⟨hb, h.ascending⟩, fun {y c} => ?_⟩
  rw [List.mem_cons, Prod.mk.injEq, h.mem_iff]
  by_cases hy : y = b
  · subst hy
    rw [Function.update_self]
    omega
  · rw [Function.update_of_ne hy]
    simp [hy]

/-- a block that is not in the list has the number zero -/
theorem Counts.eq_zero {counts : List (Nat × Nat)} {f : Nat → Nat} (h : Counts counts f) {b : Nat}
    (hb : ∀ x ∈ counts, x.1 ≠ b) : f b = 0 := by
  by_contra hne
  exact hb _ (h.mem_iff.2 ⟨rfl, Nat.pos_of_ne_zero hne⟩) rfl

/-- one more state of `block` is counted -/
theorem counts_tally {counts : List (Nat × Nat)} {f : Nat → Nat} (h : Counts counts f) (block : Nat) :
    Counts (tally counts block) fun b => f b + if b = block then 1 else 0 := by
  induction counts generalizing f with
  | nil =>
    have hf (b : Nat) : f b = 0 := h.eq_zero (by simp)
    refine ⟨List.pairwise_singleton _ _, fun {b c} => ?_⟩
    rw [tally, List.mem_singleton, Prod.mk.injEq, hf]
    split_ifs <;> omega
  | cons x rest ih =>
    obtain ⟨b, n⟩ := x
    obtain ⟨hb, hn, hpos, hr⟩ := h.tail
    unfold tally
    split_ifs with h1 h2
    · -- the block comes before all others
      have hfirst : ∀ x ∈ (b, n) :: rest, block < x.1 := by
        intro x hx
        rcases List.mem_cons.1 hx with rfl | hx
        · exact h1
        · exact h1.trans (hb x hx)
      have hf : f block = 0 := h.eq_zero fun x hx => Nat.ne_of_gt (hfirst x hx)
      refine .cons hfirst (by simp [hf]) Nat.one_pos ?_
      convert h using 1
      funext y
      by_cases hy : y = block
      · subst hy
        rw [Function.update_self, hf]
      · simp [hy]
    · -- the block is the first one
      subst h2
      refine .cons hb (by simp [hn]) (Nat.succ_pos n) ?_
      convert hr using 1
      funext y
      by_cases hy : y = block
      · subst hy
        rw [Function.update_self, Function.update_self]
      · simp [hy]
    · -- the block comes behind the first one
      have hne : b ≠ block := fun e => h2 e.symm
      have hrest := ih hr
      refine .cons (fun x hx => ?_) (by simp [hn, hne]) hpos ?_
      · by_contra hlt
        obtain ⟨h3, h4⟩ := hrest.mem_iff.1 (show (x.1, x.2) ∈ tally rest block from hx)
        have h5 : x.1 ≠ block := fun e => by omega
        rw [if_neg h5, Nat.add_zero] at h3
        exact hlt (hb x (hr.mem_iff.2 ⟨h3, h4⟩))
      · convert hrest using 1
        funext y
        by_cases hy : y = b
        · subst hy
          simp [hne]
        · simp [Function.update_of_ne hy]

/-- all blocks of a list are counted -/
theorem counts_foldl_tally {l : List Nat} {counts : List (Nat × Nat)} {f : Nat → Nat} (h : Counts counts f) :
    Counts (l.foldl tally counts) fun b => f b + l.count b := by
  induction l generalizing counts f with
  | nil => simpa using h
  | cons x l ih =>
    have hf : (fun b => f b + (x :: l).count b) = fun b => (f b + if b = x then 1 else 0) + l.count b := by
      funext b
      rw [List.count_cons, beq_eq_decide]
      simp only [decide_eq_true_eq, eq_comm (a := x)]
      omega
    rw [List.foldl_cons, hf]
    exact ih (counts_tally h x)

theorem counts_nil : Counts [] fun _ => 0 :=
  ⟨List.Pairwise.nil, fun {b c} => by simp⟩

/-! ## Splitting the touched blocks -/

/-- what it means that the blocks of a refinement that `touched` names were split into marked and unmarked states -/
structure SplitAll (n k : Nat) (touched : Nat → Prop) (r r' : Refinement) : Prop where
  consistent : r'.partition.Consistent n
  marked_eq : r'.marked = r.marked
  size_le : r.partition.blocks.size ≤ r'.partition.blocks.size
  number : ∀ {q}, q < n → r'.partition.blockNumber q = r.partition.blockNumber q ∨
    r.partition.blocks.size ≤ r'.partition.blockNumber q ∧ touched (r.partition.blockNumber q)
  same : ∀ {p q}, p < n → q < n → (r'.partition.blockNumber p = r'.partition.blockNumber q ↔
    r.partition.blockNumber p = r.partition.blockNumber q ∧
      (touched (r.partition.blockNumber p) → (Marked r.marked p ↔ Marked r.marked q)))
  pending_eq : r'.pending = r.pending ++
    (List.range' r.partition.blocks.size (r'.partition.blocks.size - r.partition.blocks.size)).flatMap (splitters k)

variable {n k : Nat}

/-- the first touched block -/
theorem splitAll_splitBlock {r : Refinement} (h : r.partition.Consistent n) {b c : Nat} (hb : b < r.partition.blocks.size)
    (hc : c = (r.partition.block b).countP fun q => (r.marked[q]?).getD false) (hpos : 0 < c) :
    SplitAll n k (· = b) r (splitBlock k r (b, c)) ∧
      ∀ {d}, d < r.partition.blocks.size → d ≠ b → (splitBlock k r (b, c)).partition.block d = r.partition.block d := by
  cases hs : r.partition.split? b c r.marked with
  | none =>
    have hall : ∀ q ∈ r.partition.block b, Marked r.marked q := by
      rw [Partition.split?_eq_none_iff, hc] at hs
      exact List.countP_eq_length.1 hs
    have he : splitBlock k r (b, c) = r := by simp only [splitBlock, hs]
    rw [he]
    refine ⟨⟨h, rfl, Nat.le_refl _, fun _ => Or.inl rfl, fun {p q} hp hq => ?_, by simp⟩, fun _ _ => rfl⟩
    refine ⟨fun hpq => ⟨hpq, fun hpb => ?_⟩, And.left⟩
    exact iff_of_true (hall p ((h.mem_iff hb).2 ⟨hp, hpb⟩)) (hall q ((h.mem_iff hb).2 ⟨hq, hpq ▸ hpb⟩))
  | some p' =>
    have hsplit := h.split hb hc hpos hs
    have he : splitBlock k r (b, c) = { r with
        partition := p', pending := r.pending ++ splitters k r.partition.blocks.size } := by simp only [splitBlock, hs]
    rw [he]
    refine ⟨⟨hsplit.consistent, rfl, ?_, fun {q} hq => ?_, hsplit.same, ?_⟩, hsplit.block_eq⟩
    · show r.partition.blocks.size ≤ p'.blocks.size
      rw [hsplit.size_eq]
      exact Nat.le_succ _
    · exact (hsplit.number hq).imp_right fun ⟨h1, h2⟩ => ⟨Nat.le_of_eq h1.symm, h2⟩
    · simp [hsplit.size_eq]

theorem SplitAll.trans {r r' r'' : Refinement} {s t : Nat → Prop} (h : SplitAll n k s r r') (h' : SplitAll n k t r' r'')
    (ht : ∀ {b}, t b → b < r.partition.blocks.size ∧ ¬s b) : SplitAll n k (fun b => s b ∨ t b) r r'' := by
  -- a block that is split later has not been changed before
  have hkeep {q : Nat} (hq : q < n) : t (r'.partition.blockNumber q) ↔ t (r.partition.blockNumber q) := by
    rcases h.number hq with he | ⟨hle, hs⟩
    · rw [he]
    · exact ⟨fun h1 => absurd (ht h1).1 (by omega), fun h1 => absurd hs (ht h1).2⟩
  refine ⟨h'.consistent, h'.marked_eq.trans h.marked_eq, h.size_le.trans h'.size_le, fun {q} hq => ?_,
    fun {p q} hp hq => ?_, ?_⟩
  · rcases h'.number hq with he | ⟨hle, h1⟩
    · rw [he]
      exact (h.number hq).imp_right fun ⟨h2, h3⟩ => ⟨h2, Or.inl h3⟩
    · exact Or.inr ⟨h.size_le.trans hle, Or.inr ((hkeep hq).1 h1)⟩
  · rw [h'.same hp hq, h.same hp hq, hkeep hp, h.marked_eq, and_assoc, or_imp]
  · obtain ⟨d, hd⟩ := Nat.exists_eq_add_of_le h.size_le
    obtain ⟨e, he⟩ := Nat.exists_eq_add_of_le h'.size_le
    have h1 : r'.partition.blocks.size - r.partition.blocks.size = d := by omega
    have h2 : r''.partition.blocks.size - r'.partition.blocks.size = e := by omega
    have h3 : r''.partition.blocks.size - r.partition.blocks.size = d + e := by omega
    rw [h'.pending_eq, h.pending_eq, List.append_assoc, ← List.flatMap_append, h1, h2, h3, hd, List.range'_append_1]

/-- a block that is not touched keeps its states -/
theorem SplitAll.perm_block {r r' : Refinement} {touched : Nat → Prop} (h : SplitAll n k touched r r')
    (hr : r.partition.Consistent n) {b : Nat} (hb : b < r.partition.blocks.size) (hnot : ¬touched b) :
    (r'.partition.block b).Perm (r.partition.block b) := by
  refine (List.perm_ext_iff_of_nodup (h.consistent.nodup b) (hr.nodup b)).2 fun q => ?_
  rw [h.consistent.mem_iff (hb.trans_le h.size_le), hr.mem_iff hb]
  refine and_congr_right fun hq => ?_
  rcases h.number hq with he | ⟨hle, ht⟩
  · rw [he]
  · constructor
    · intro hqb
      omega
    · rintro rfl
      exact absurd ht hnot

/-- the counts stay right while blocks are split, because splitting one touched block does not change another -/
theorem splitAll_foldl {ts : List (Nat × Nat)} {r : Refinement} (h : r.partition.Consistent n)
    (hts : ts.Pairwise fun x y => x.1 < y.1) (hc : ∀ t ∈ ts, t.1 < r.partition.blocks.size ∧ 0 < t.2 ∧
      t.2 = (r.partition.block t.1).countP fun q => (r.marked[q]?).getD false) :
    SplitAll n k (fun b => ∃ t ∈ ts, t.1 = b) r (ts.foldl (splitBlock k) r) := by
  induction ts generalizing r with
  | nil => exact ⟨h, rfl, Nat.le_refl _, fun _ => Or.inl rfl, fun _ _ => by simp, by simp⟩
  | cons t ts ih =>
    obtain ⟨ht, hts⟩ := List.pairwise_cons.1 hts
    obtain ⟨hb, hpos, hct⟩ := hc t List.mem_cons_self
    obtain ⟨hfirst, hblock⟩ := splitAll_splitBlock (k := k) h hb hct hpos
    have hne : ∀ s ∈ ts, s.1 ≠ t.1 := fun s hs => Nat.ne_of_gt (ht s hs)
    have hrest := ih hfirst.consistent hts fun s hs => by
      obtain ⟨h1, h2, h3⟩ := hc s (List.mem_cons_of_mem t hs)
      exact ⟨h1.trans_le hfirst.size_le, h2, by rw [hblock h1 (hne s hs), hfirst.marked_eq, h3]⟩
    have hboth := hfirst.trans hrest fun {b} => by
      rintro ⟨s, hs, rfl⟩
      exact ⟨(hc s (List.mem_cons_of_mem t hs)).1, hne s hs⟩
    have htouched : (fun b => ∃ s ∈ t :: ts, s.1 = b) = fun b => b = t.1 ∨ ∃ s ∈ ts, s.1 = b := by
      funext b
      rw [List.exists_mem_cons_iff, eq_comm (a := t.1)]
    rw [htouched]
    exact hboth

/-! ## A splitter -/

/-- what it means that a splitter was applied: blocks fell apart by whether their states move into it -/
structure Applied (m : Automaton) (r r' : Refinement) (splitter : Nat × Nat) : Prop where
  consistent : r'.partition.Consistent m.stateCount
  clean : r'.marked = Array.replicate m.stateCount false
  size_le : r.partition.blocks.size ≤ r'.partition.blocks.size
  number : ∀ {q}, q < m.stateCount → r'.partition.blockNumber q = r.partition.blockNumber q ∨
    r.partition.blocks.size ≤ r'.partition.blockNumber q
  same : ∀ {p q}, p < m.stateCount → q < m.stateCount →
    (r'.partition.blockNumber p = r'.partition.blockNumber q ↔
      r.partition.blockNumber p = r.partition.blockNumber q ∧
        (r.partition.blockNumber (m.step p splitter.2) = splitter.1 ↔
          r.partition.blockNumber (m.step q splitter.2) = splitter.1))
  pending_eq : r'.pending = r.pending ++
    (List.range' r.partition.blocks.size (r'.partition.blocks.size - r.partition.blocks.size)).flatMap
      (splitters m.alphabetSize)

/-- a block has as many marked states as the list of all marked states has states of the block -/
theorem count_blockNumber {p : Partition} (h : p.Consistent n) {marked : Array Bool} {found : List Nat}
    (hnd : found.Nodup) (hlt : ∀ q ∈ found, q < n) (hm : ∀ q, q ∈ found ↔ Marked marked q) {b : Nat}
    (hb : b < p.blocks.size) :
    (found.map p.blockNumber).count b = (p.block b).countP fun q => (marked[q]?).getD false := by
  rw [List.count, List.countP_map, List.countP_eq_length_filter, List.countP_eq_length_filter]
  refine List.Perm.length_eq ((List.perm_ext_iff_of_nodup (hnd.filter _) ((h.nodup b).filter _)).2 fun q => ?_)
  rw [List.mem_filter, List.mem_filter, h.mem_iff hb, Function.comp_apply, beq_iff_eq]
  constructor
  · rintro ⟨hq, hqb⟩
    exact ⟨⟨hlt q hq, hqb⟩, (hm q).1 hq⟩
  · rintro ⟨⟨-, hqb⟩, hq⟩
    exact ⟨(hm q).2 hq, hqb⟩

/-- the states that move into a block on a symbol -/
theorem mem_incoming_iff {m : Automaton} (hm : m.Complete) {p : Partition} (h : p.Consistent m.stateCount) {b a q : Nat}
    (hb : b < p.blocks.size) (ha : a < m.alphabetSize) :
    q ∈ (p.block b).flatMap (fun t => (Predecessors.ofAutomaton m).of t a) ↔
      q < m.stateCount ∧ p.blockNumber (m.step q a) = b := by
  rw [List.mem_flatMap]
  constructor
  · rintro ⟨t, ht, hq⟩
    obtain ⟨htn, htb⟩ := (h.mem_iff hb).1 ht
    have hmv := (Predecessors.mem_of_iff hm.wellFormed htn ha).1 hq
    have hqn := Automaton.source_lt hmv
    obtain rfl := ((hm.moves_iff hqn).1 hmv).2
    exact ⟨hqn, htb⟩
  · rintro ⟨hq, hqb⟩
    have hs := hm.step_lt hq ha
    exact ⟨m.step q a, (h.mem_iff hb).2 ⟨hs, hqb⟩,
      (Predecessors.mem_of_iff hm.wellFormed hs ha).2 ((hm.moves_iff hq).2 ⟨ha, rfl⟩)⟩

/-- the marks and the list of the states that move into the block of a splitter -/
def marking (ps : Predecessors) (splitter : Nat × Nat) (r : Refinement) : Array Bool × List Nat :=
  ((r.partition.block splitter.1).flatMap fun q => ps.of q splitter.2).foldl mark (r.marked, [])

/-- the blocks that have such states, with their counts -/
def touched (ps : Predecessors) (splitter : Nat × Nat) (r : Refinement) : List (Nat × Nat) :=
  ((marking ps splitter r).2.map r.partition.blockNumber).foldl tally []

/-- the round of a splitter, when `k` of the blocks that it touches have been split -/
def during (m : Automaton) (ps : Predecessors) (splitter : Nat × Nat) (r : Refinement) (k : Nat) : Refinement :=
  ((touched ps splitter r).take k).foldl (splitBlock m.alphabetSize) { r with marked := (marking ps splitter r).1 }

/-- at the end of the round all of them have been split, and the marks are taken away -/
theorem apply_eq (m : Automaton) (ps : Predecessors) (splitter : Nat × Nat) (r : Refinement) :
    apply m ps splitter r =
      let r' := during m ps splitter r (touched ps splitter r).length
      { r' with
        marked := (marking ps splitter r).2.foldl (fun marked q => marked.setIfInBounds q false) r'.marked } := by
  rw [during, List.take_length]
  rfl

theorem touched_ascending (ps : Predecessors) (splitter : Nat × Nat) (r : Refinement) :
    (touched ps splitter r).Pairwise fun x y => x.1 < y.1 :=
  (counts_foldl_tally counts_nil).ascending

section Splitter

variable {m : Automaton} (hm : m.Complete) {r : Refinement} (h : r.partition.Consistent m.stateCount)
  (hclean : r.marked = Array.replicate m.stateCount false) {b a : Nat} (hb : b < r.partition.blocks.size)
  (ha : a < m.alphabetSize)
include hm h hclean hb ha

theorem marks_marking : Marks m.stateCount (marking (.ofAutomaton m) (b, a) r) fun q =>
    q < m.stateCount ∧ r.partition.blockNumber (m.step q a) = b := by
  have hpred {q : Nat} := mem_incoming_iff hm h (q := q) hb ha
  have hmarks := marks_foldl_mark (fun q hq => (hpred.1 hq).1) (hclean ▸ marks_clean m.stateCount)
  simp only [hpred, false_or] at hmarks
  exact hmarks

/-- each touched block is counted as often as it has marked states -/
theorem count_touched {t : Nat × Nat} (ht : t ∈ touched (.ofAutomaton m) (b, a) r) :
    t.1 < r.partition.blocks.size ∧ 0 < t.2 ∧ t.2 = (r.partition.block t.1).countP fun q =>
      ((marking (.ofAutomaton m) (b, a) r).1[q]?).getD false := by
  have hmarks := marks_marking hm h hclean hb ha
  obtain ⟨c, d⟩ := t
  obtain ⟨hd, hpos⟩ := (counts_foldl_tally counts_nil).mem_iff.1 ht
  rw [Nat.zero_add] at hd
  have hlt : ∀ q ∈ (marking (.ofAutomaton m) (b, a) r).2, q < m.stateCount := fun q hq => (hmarks.mem_iff.1 hq).1
  have hfound (q : Nat) := hmarks.mem_iff.trans (hmarks.marked_iff (q := q)).symm
  obtain ⟨q, hq, rfl⟩ := List.mem_map.1 (List.count_pos_iff.1 (hd ▸ hpos))
  have hc := h.number_lt (hlt q hq)
  exact ⟨hc, hpos, hd.trans (count_blockNumber h hmarks.nodup hlt hfound hc)⟩

/-- a block with a marked state is touched -/
theorem exists_touched {q : Nat} (hq : Marked (marking (.ofAutomaton m) (b, a) r).1 q) :
    ∃ t ∈ touched (.ofAutomaton m) (b, a) r, t.1 = r.partition.blockNumber q := by
  have hmarks := marks_marking hm h hclean hb ha
  have hmem := List.mem_map_of_mem (f := r.partition.blockNumber) (hmarks.mem_iff.2 (hmarks.marked_iff.1 hq))
  refine ⟨_, (counts_foldl_tally counts_nil).mem_iff.2 ⟨rfl, ?_⟩, rfl⟩
  exact Nat.add_pos_right 0 (List.count_pos_iff.2 hmem)

/-- blocks that have been split by the time of `i` touched blocks -/
theorem splitAll_during (i : Nat) :
    SplitAll m.stateCount m.alphabetSize (fun c => ∃ t ∈ (touched (.ofAutomaton m) (b, a) r).take i, t.1 = c)
      { r with marked := (marking (.ofAutomaton m) (b, a) r).1 } (during m (.ofAutomaton m) (b, a) r i) := by
  have hascending := (touched_ascending (.ofAutomaton m) (b, a) r).sublist (List.take_sublist i _)
  exact splitAll_foldl (r := { r with marked := (marking (.ofAutomaton m) (b, a) r).1 }) h hascending
    fun t ht => count_touched hm h hclean hb ha (List.mem_of_mem_take ht)

theorem applied_apply : Applied m r (apply m (.ofAutomaton m) (b, a) r) (b, a) := by
  have hmarks := marks_marking hm h hclean hb ha
  have hsplit := splitAll_during hm h hclean hb ha (touched (.ofAutomaton m) (b, a) r).length
  have htouched {q : Nat} := exists_touched hm h hclean hb ha (q := q)
  rw [List.take_length] at hsplit
  rw [apply_eq]
  generalize marking (.ofAutomaton m) (b, a) r = x at hmarks hsplit htouched ⊢
  have hmarked (q : Nat) : Marked x.1 q ↔ q < m.stateCount ∧ r.partition.blockNumber (m.step q a) = b :=
    hmarks.marked_iff
  exact
    { consistent := hsplit.consistent
      clean := by
        show x.2.foldl _ _ = _
        rw [hsplit.marked_eq]
        exact unmark_eq hmarks.size_eq fun q hq => hmarks.mem_iff.2 (hmarks.marked_iff.1 hq)
      size_le := hsplit.size_le
      number := fun hq => (hsplit.number hq).imp_right And.left
      same := fun {p q} hp hq => by
        refine (hsplit.same hp hq).trans (and_congr_right fun hpq => ?_)
        have hp' : Marked x.1 p ↔ r.partition.blockNumber (m.step p a) = b := by rw [hmarked, and_iff_right hp]
        have hq' : Marked x.1 q ↔ r.partition.blockNumber (m.step q a) = b := by rw [hmarked, and_iff_right hq]
        rw [← hp', ← hq']
        refine ⟨fun hboth => ?_, fun hboth _ => hboth⟩
        constructor
        · intro hmp
          exact (hboth (htouched hmp)).1 hmp
        · intro hmq
          exact (hboth (hpq ▸ htouched hmq)).2 hmq
      pending_eq := hsplit.pending_eq }

end Splitter

end Refinement

end Munch
