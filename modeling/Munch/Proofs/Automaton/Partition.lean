/-
Partitions of the states of an automaton into numbered blocks.

A partition is kept twice, as the blocks and as the number of the block of each state. `Partition.Consistent` says that
the two agree, that every state is in exactly one block, and that no block is empty.

Results:
- `Consistent.size_le`: there are no more blocks than states.
- `consistent_ofBlocks`: lists of states that hold each state once are the blocks of a consistent partition.
- `split?_eq_none_iff`, `Consistent.split`: a block is split if and only if some of its states have a mark and some have
  none; the rest of the partition stays, and what leaves the block gets a new number.
-/
import Mathlib.Tactic
import Munch.Proofs.Automaton.Marks

namespace Munch

namespace Partition

variable {p p' : Partition} {n : Nat}

/-- both forms of a partition of the states below `n` agree -/
structure Consistent (p : Partition) (n : Nat) : Prop where
  size_eq : p.blockOf.size = n
  number_lt : ∀ {q}, q < n → p.blockNumber q < p.blocks.size
  mem_iff : ∀ {b}, b < p.blocks.size → ∀ {q}, q ∈ p.block b ↔ q < n ∧ p.blockNumber q = b
  nonempty : ∀ {b}, b < p.blocks.size → p.block b ≠ []
  nodup : ∀ b, (p.block b).Nodup

theorem Consistent.mem_block (h : p.Consistent n) {q : Nat} (hq : q < n) : q ∈ p.block (p.blockNumber q) :=
  (h.mem_iff (h.number_lt hq)).2 ⟨hq, rfl⟩

theorem Consistent.exists_mem (h : p.Consistent n) {b : Nat} (hb : b < p.blocks.size) :
    ∃ q < n, p.blockNumber q = b := by
  obtain ⟨q, hq⟩ := List.exists_mem_of_ne_nil _ (h.nonempty hb)
  exact ⟨q, (h.mem_iff hb).1 hq⟩

/-- each block has a state of its own -/
theorem Consistent.size_le (h : p.Consistent n) : p.blocks.size ≤ n := by
  have hsub : List.range p.blocks.size ⊆ (List.range n).map p.blockNumber := by
    intro b hb
    obtain ⟨q, hq, rfl⟩ := h.exists_mem (List.mem_range.1 hb)
    exact List.mem_map_of_mem (List.mem_range.2 hq)
  simpa using (List.subperm_of_subset List.nodup_range hsub).length_le

/-! ## Numbers of blocks -/

@[simp] theorem size_enter (blockOf : Array Nat) (block : List Nat) (number : Nat) :
    (enter blockOf block number).size = blockOf.size := by
  unfold enter
  induction block generalizing blockOf with
  | nil => rfl
  | cons q rest ih => rw [List.foldl_cons, ih, Array.size_setIfInBounds]

theorem getD_enter (blockOf : Array Nat) (block : List Nat) (number : Nat) {q : Nat} (hq : q < blockOf.size) :
    ((enter blockOf block number)[q]?).getD 0 = if q ∈ block then number else (blockOf[q]?).getD 0 := by
  unfold enter
  induction block generalizing blockOf with
  | nil => rfl
  | cons r rest ih =>
    rw [List.foldl_cons, ih _ (by simpa using hq)]
    by_cases hr : q ∈ rest
    · rw [if_pos hr, if_pos (List.mem_cons_of_mem r hr)]
    · rw [if_neg hr, Array.getElem?_setIfInBounds]
      by_cases hrq : r = q
      · subst hrq
        simp [hq]
      · have : q ∉ r :: rest := fun hm => (List.mem_cons.1 hm).elim (fun e => hrq e.symm) hr
        rw [if_neg hrq, if_neg this]

@[simp] theorem size_enterAll (blockOf : Array Nat) (number : Nat) (blocks : List (List Nat)) :
    (enterAll blockOf number blocks).size = blockOf.size := by
  induction blocks generalizing blockOf number with
  | nil => rfl
  | cons block rest ih => rw [enterAll, ih, size_enter]

theorem getD_enterAll_of_not_mem {blocks : List (List Nat)} {q : Nat} (h : ∀ g ∈ blocks, q ∉ g) (blockOf : Array Nat)
    (number : Nat) (hq : q < blockOf.size) :
    ((enterAll blockOf number blocks)[q]?).getD 0 = (blockOf[q]?).getD 0 := by
  induction blocks generalizing blockOf number with
  | nil => rfl
  | cons block rest ih =>
    rw [enterAll, ih (fun g hg => h g (List.mem_cons_of_mem block hg)) _ _ (by simpa using hq), getD_enter _ _ _ hq,
      if_neg (h block List.mem_cons_self)]

/-- a state of the block at position `i` is entered under the number of that position -/
theorem getD_enterAll {blocks : List (List Nat)} (hd : blocks.Pairwise List.Disjoint) {i q : Nat} {g : List Nat}
    (hg : blocks[i]? = some g) (hqg : q ∈ g) (blockOf : Array Nat) (number : Nat) (hq : q < blockOf.size) :
    ((enterAll blockOf number blocks)[q]?).getD 0 = number + i := by
  induction blocks generalizing blockOf number i with
  | nil => cases hg
  | cons block rest ih =>
    obtain ⟨hb, hr⟩ := List.pairwise_cons.1 hd
    cases i with
    | zero =>
      cases hg
      rw [enterAll, getD_enterAll_of_not_mem (fun g' hg' hm => hb g' hg' hqg hm) _ _ (by simpa using hq),
        getD_enter _ _ _ hq, if_pos hqg]
      rfl
    | succ i =>
      rw [enterAll, ih hr (by simpa using hg) _ _ (by simpa using hq)]
      omega

theorem blockNumber_ofBlocks {blocks : List (List Nat)} (hd : blocks.Pairwise List.Disjoint) {i q : Nat} {g : List Nat}
    (hg : blocks[i]? = some g) (hqg : q ∈ g) (hq : q < n) : (ofBlocks n blocks).blockNumber q = i := by
  have := getD_enterAll hd hg hqg (Array.replicate n 0) 0 (by simpa using hq)
  rwa [Nat.zero_add] at this

theorem block_ofBlocks (n : Nat) (blocks : List (List Nat)) (i : Nat) :
    (ofBlocks n blocks).block i = (blocks[i]?).getD [] := by
  simp [block, ofBlocks]

/-- lists that together hold each state once, and are not empty, are the blocks of a consistent partition -/
theorem consistent_ofBlocks {blocks : List (List Nat)} (hp : blocks.flatten.Perm (List.range n))
    (hne : ∀ g ∈ blocks, g ≠ []) : (ofBlocks n blocks).Consistent n := by
  obtain ⟨hnd, hdis⟩ := List.nodup_flatten.1 (hp.nodup_iff.2 List.nodup_range)
  have hlt : ∀ g ∈ blocks, ∀ q ∈ g, q < n := fun g hg q hq =>
    List.mem_range.1 (hp.subset (List.mem_flatten.2 ⟨g, hg, hq⟩))
  have hmem : ∀ q < n, ∃ i g, blocks[i]? = some g ∧ q ∈ g := fun q hq => by
    obtain ⟨g, hg, hqg⟩ := List.mem_flatten.1 (hp.symm.subset (List.mem_range.2 hq))
    obtain ⟨i, hi⟩ := List.mem_iff_getElem?.1 hg
    exact ⟨i, g, hi, hqg⟩
  have hsize : (ofBlocks n blocks).blocks.size = blocks.length := by simp [ofBlocks]
  have hblock {b : Nat} (hb : b < (ofBlocks n blocks).blocks.size) :
      ∃ g, blocks[b]? = some g ∧ (ofBlocks n blocks).block b = g := by
    rw [hsize] at hb
    exact ⟨blocks[b], List.getElem?_eq_getElem hb, by rw [block_ofBlocks, List.getElem?_eq_getElem hb]; rfl⟩
  exact
    { size_eq := by simp [ofBlocks]
      number_lt := fun {q} hq => by
        obtain ⟨i, g, hi, hqg⟩ := hmem q hq
        rw [blockNumber_ofBlocks hdis hi hqg hq, hsize]
        exact (List.getElem?_eq_some_iff.1 hi).1
      mem_iff := fun {b} hb {q} => by
        obtain ⟨g, hg, hbg⟩ := hblock hb
        rw [hbg]
        constructor
        · intro hqg
          have hq := hlt g (List.mem_of_getElem? hg) q hqg
          exact ⟨hq, blockNumber_ofBlocks hdis hg hqg hq⟩
        · rintro ⟨hq, hn⟩
          obtain ⟨i, g', hi, hqg⟩ := hmem q hq
          rw [blockNumber_ofBlocks hdis hi hqg hq] at hn
          subst hn
          rw [hg] at hi
          cases hi
          exact hqg
      nonempty := fun {b} hb => by
        obtain ⟨g, hg, hbg⟩ := hblock hb
        rw [hbg]
        exact hne g (List.mem_of_getElem? hg)
      nodup := fun b => by
        rw [block_ofBlocks]
        cases hb : blocks[b]? with
        | none => exact List.nodup_nil
        | some g => exact hnd g (List.mem_of_getElem? hb) }

/-! ## Splitting a block -/

/-- what it means that block `b` of a partition was split into the marked states and the others -/
structure SplitAt (p p' : Partition) (n b : Nat) (marked : Array Bool) : Prop where
  consistent : p'.Consistent n
  size_eq : p'.blocks.size = p.blocks.size + 1
  /-- the states that leave the block get a new number -/
  number : ∀ {q}, q < n → p'.blockNumber q = p.blockNumber q ∨ p'.blockNumber q = p.blocks.size ∧ p.blockNumber q = b
  same : ∀ {q r}, q < n → r < n →
    (p'.blockNumber q = p'.blockNumber r ↔
      p.blockNumber q = p.blockNumber r ∧ (p.blockNumber q = b → (Marked marked q ↔ Marked marked r)))
  block_eq : ∀ {c}, c < p.blocks.size → c ≠ b → p'.block c = p.block c

theorem split?_eq_none_iff {b count : Nat} {marked : Array Bool} :
    p.split? b count marked = none ↔ count = (p.block b).length := by
  unfold split?
  simp only
  split_ifs with h <;> simp [h]

section Halves

variable {b : Nat} {marked : Array Bool} {larger smaller : List Nat}

/-- the partition in which `larger` keeps the number `b` and `smaller` gets a new one -/
def halved (p : Partition) (b : Nat) (larger smaller : List Nat) : Partition :=
  { blocks := (p.blocks.setIfInBounds b larger).push smaller, blockOf := enter p.blockOf smaller p.blocks.size }

theorem size_halved (p : Partition) (b : Nat) (larger smaller : List Nat) :
    (p.halved b larger smaller).blocks.size = p.blocks.size + 1 := by
  simp [halved]

theorem blockNumber_halved (h : p.Consistent n) {q : Nat} (hq : q < n) :
    (p.halved b larger smaller).blockNumber q = if q ∈ smaller then p.blocks.size else p.blockNumber q :=
  getD_enter _ _ _ (h.size_eq ▸ hq)

theorem block_halved (hb : b < p.blocks.size) (c : Nat) : (p.halved b larger smaller).block c =
    if c = p.blocks.size then smaller else if c = b then larger else p.block c := by
  simp only [block, halved, Array.getElem?_push, Array.size_setIfInBounds, Array.getElem?_setIfInBounds]
  by_cases hc : c = p.blocks.size
  · simp [hc]
  · by_cases hcb : c = b
    · subst hcb
      simp [hc, hb]
    · have : ¬b = c := fun e => hcb e.symm
      simp [hc, hcb, this]

/-- the states of block `b` with a mark or without, as `side` says, and the others -/
structure Halves (p : Partition) (n b : Nat) (marked : Array Bool) (side : Bool) (larger smaller : List Nat) : Prop where
  mem_larger : ∀ {q}, q ∈ larger ↔ (q < n ∧ p.blockNumber q = b) ∧ (marked[q]?).getD false = side
  mem_smaller : ∀ {q}, q ∈ smaller ↔ (q < n ∧ p.blockNumber q = b) ∧ (marked[q]?).getD false ≠ side
  nodup_larger : larger.Nodup
  nodup_smaller : smaller.Nodup
  larger_ne_nil : larger ≠ []
  smaller_ne_nil : smaller ≠ []

variable {side : Bool} (hv : Halves p n b marked side larger smaller) (h : p.Consistent n) (hb : b < p.blocks.size)
include hv h hb

theorem Halves.mem_block {c q : Nat} (hc : c < p.blocks.size + 1) :
    q ∈ (p.halved b larger smaller).block c ↔ q < n ∧ (p.halved b larger smaller).blockNumber q = c := by
  rw [block_halved hb]
  split_ifs with hcs hcb
  · -- the new block
    subst hcs
    constructor
    · intro hq
      have hqn := (hv.mem_smaller.1 hq).1.1
      exact ⟨hqn, by rw [blockNumber_halved h hqn, if_pos hq]⟩
    · rintro ⟨hq, he⟩
      by_contra hn
      rw [blockNumber_halved h hq, if_neg hn] at he
      exact (h.number_lt hq).ne he
  · -- the block that is split
    subst hcb
    constructor
    · intro hq
      obtain ⟨⟨hqn, hqb⟩, hm⟩ := hv.mem_larger.1 hq
      have hn : q ∉ smaller := fun hs => (hv.mem_smaller.1 hs).2 hm
      exact ⟨hqn, by rw [blockNumber_halved h hqn, if_neg hn, hqb]⟩
    · rintro ⟨hq, he⟩
      rw [blockNumber_halved h hq] at he
      by_cases hn : q ∈ smaller
      · rw [if_pos hn] at he
        omega
      · rw [if_neg hn] at he
        refine hv.mem_larger.2 ⟨⟨hq, he⟩, ?_⟩
        by_contra hm
        exact hn (hv.mem_smaller.2 ⟨⟨hq, he⟩, hm⟩)
  · rw [h.mem_iff (by omega)]
    refine and_congr_right fun hq => ?_
    rw [blockNumber_halved h hq]
    by_cases hn : q ∈ smaller
    · have := (hv.mem_smaller.1 hn).1.2
      rw [if_pos hn]
      omega
    · rw [if_neg hn]

theorem Halves.consistent : (p.halved b larger smaller).Consistent n where
  size_eq := by simp [halved, h.size_eq]
  number_lt {q} hq := by
    have := h.number_lt hq
    rw [blockNumber_halved h hq, size_halved]
    split <;> omega
  mem_iff {c} hc {q} := hv.mem_block h hb (size_halved p b larger smaller ▸ hc)
  nonempty {c} hc := by
    rw [size_halved] at hc
    rw [block_halved hb]
    split_ifs with hcs hcb
    · exact hv.smaller_ne_nil
    · exact hv.larger_ne_nil
    · exact h.nonempty (by omega)
  nodup c := by
    rw [block_halved hb]
    split_ifs with hcs hcb
    · exact hv.nodup_smaller
    · exact hv.nodup_larger
    · exact h.nodup c

/-- a block with marked and unmarked states falls into two parts, of which one keeps the number -/
theorem Halves.splitAt : SplitAt p (p.halved b larger smaller) n b marked where
  consistent := hv.consistent h hb
  size_eq := size_halved _ _ _ _
  number {q} hq := by
    rw [blockNumber_halved h hq]
    split_ifs with hqs
    · exact Or.inr ⟨rfl, (hv.mem_smaller.1 hqs).1.2⟩
    · exact Or.inl rfl
  same {q r} hq hr := by
    have hlq := h.number_lt hq
    have hlr := h.number_lt hr
    rw [blockNumber_halved h hq, blockNumber_halved h hr]
    simp only [hv.mem_smaller, hq, hr, true_and, Marked]
    cases side <;> cases hmq : (marked[q]?).getD false <;> cases hmr : (marked[r]?).getD false <;>
      simp <;> split_ifs <;> omega
  block_eq {c} hc hcb := by rw [block_halved hb, if_neg (by omega), if_neg hcb]

end Halves

/-- a split for which the marked states have been counted, and are not none -/
theorem Consistent.split {b count : Nat} {marked : Array Bool} (h : p.Consistent n) (hb : b < p.blocks.size)
    (hc : count = (p.block b).countP fun q => (marked[q]?).getD false) (hpos : 0 < count)
    (hp' : p.split? b count marked = some p') : SplitAt p p' n b marked := by
  have hne : count ≠ (p.block b).length := fun he => by
    rw [split?_eq_none_iff.2 he] at hp'
    cases hp'
  have hhalves (side : Bool) {larger smaller : List Nat}
      (hl : larger = (p.block b).filter fun q => (marked[q]?).getD false == side)
      (hs : smaller = (p.block b).filter fun q => (marked[q]?).getD false != side) (hlne : larger ≠ [])
      (hsne : smaller ≠ []) : Halves p n b marked side larger smaller :=
    { mem_larger := fun {q} => by rw [hl, List.mem_filter, h.mem_iff hb, beq_iff_eq]
      mem_smaller := fun {q} => by rw [hs, List.mem_filter, h.mem_iff hb, bne_iff_ne]
      nodup_larger := hl ▸ (h.nodup b).filter _
      nodup_smaller := hs ▸ (h.nodup b).filter _
      larger_ne_nil := hlne
      smaller_ne_nil := hsne }
  have hin : ((p.block b).filter fun q => (marked[q]?).getD false) ≠ [] := by
    intro he
    rw [hc, List.countP_eq_length_filter, he] at hpos
    exact Nat.lt_irrefl 0 hpos
  have hout : ((p.block b).filter fun q => !(marked[q]?).getD false) ≠ [] := by
    intro he
    refine hne ?_
    rw [hc, List.countP_eq_length]
    intro q hq
    simpa using List.filter_eq_nil_iff.1 he q hq
  unfold split? at hp'
  simp only [if_neg hne, List.partition_eq_filter_filter, Function.comp_def] at hp'
  split_ifs at hp'
  · obtain rfl := Option.some.inj hp'
    exact (hhalves true (by simp) (by simp) hin hout).splitAt h hb
  · obtain rfl := Option.some.inj hp'
    exact (hhalves false (by simp) (by simp) hout hin).splitAt h hb

end Partition

end Munch
