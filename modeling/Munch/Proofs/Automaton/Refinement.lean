/-
The refinement loop.

`Refinement.Inv` is what every round keeps. Its last field makes the short work list right: wherever the moves of two
states of one block lead to two blocks, one of these is pending for the symbol. A split of a pending block leaves the
larger half under the old number and queues the smaller one, so a splitter of the old number is never lost; and the block
of the states that do not accept needs no place in the list, because every other block has one.

Results:
- `inv_initial`, `Inv.apply`: the invariant holds at the beginning, and one round keeps it.
- `Inv.rounds`: so does any number of rounds.
- `Inv.exists_rounds`: the rounds end; a round takes one splitter, and only new blocks bring some.
- `blockNumber_finest_iff`: two states end in one block if and only if no word tells them apart.
-/
import Mathlib.Tactic
import Munch.Proofs.Automaton.Splitting

namespace Munch

namespace Automaton

variable {m : Automaton} {groups : List (List Nat)}

/-- the words over the symbols of an automaton -/
def IsWord (m : Automaton) (w : List Nat) : Prop :=
  ∀ s ∈ w, s < m.alphabetSize

/-- two states that the groups do not tell apart: none accepts, or both are in one group -/
def Alike (m : Automaton) (groups : List (List Nat)) (p q : Nat) : Prop :=
  (m.isAccepting p = false ∧ m.isAccepting q = false) ∨ ∃ g ∈ groups, p ∈ g ∧ q ∈ g

/-- two states that no word tells apart -/
def Equivalent (m : Automaton) (groups : List (List Nat)) (p q : Nat) : Prop :=
  ∀ w, m.IsWord w → m.Alike groups (m.after p w) (m.after q w)

theorem Equivalent.alike {p q : Nat} (h : m.Equivalent groups p q) : m.Alike groups p q :=
  h [] (by simp [IsWord])

theorem Equivalent.step {p q a : Nat} (h : m.Equivalent groups p q) (ha : a < m.alphabetSize) :
    m.Equivalent groups (m.step p a) (m.step q a) :=
  fun w hw => h (a :: w) (List.forall_mem_cons.2 ⟨ha, hw⟩)

theorem mem_acceptingStates {q : Nat} : q ∈ m.acceptingStates ↔ q < m.stateCount ∧ m.isAccepting q = true := by
  simp [acceptingStates]

end Automaton

namespace Refinement

open Munch.Partition (Consistent)

variable {m : Automaton} {groups : List (List Nat)} {r : Refinement}

/-- what every round of the refinement keeps -/
structure Inv (m : Automaton) (groups : List (List Nat)) (r : Refinement) : Prop where
  consistent : r.partition.Consistent m.stateCount
  clean : r.marked = Array.replicate m.stateCount false
  valid : ∀ {b a}, (b, a) ∈ r.pending → b < r.partition.blocks.size ∧ a < m.alphabetSize
  /-- no split was too many -/
  sound : ∀ {p q}, p < m.stateCount → q < m.stateCount → m.Equivalent groups p q →
    r.partition.blockNumber p = r.partition.blockNumber q
  refines : ∀ {p q}, p < m.stateCount → q < m.stateCount → r.partition.blockNumber p = r.partition.blockNumber q →
    m.Alike groups p q
  /-- no split is forgotten -/
  queued : ∀ {p q a}, p < m.stateCount → q < m.stateCount → a < m.alphabetSize →
    r.partition.blockNumber p = r.partition.blockNumber q →
    r.partition.blockNumber (m.step p a) ≠ r.partition.blockNumber (m.step q a) →
    (r.partition.blockNumber (m.step p a), a) ∈ r.pending ∨ (r.partition.blockNumber (m.step q a), a) ∈ r.pending

theorem mem_splitters {k block : Nat} {s : Nat × Nat} : s ∈ splitters k block ↔ s.1 = block ∧ s.2 < k := by
  obtain ⟨b, a⟩ := s
  simp only [splitters, List.mem_map, List.mem_range, Prod.mk.injEq]
  constructor
  · rintro ⟨a, ha, rfl, rfl⟩
    exact ⟨rfl, ha⟩
  · rintro ⟨rfl, ha⟩
    exact ⟨a, ha, rfl, rfl⟩

/-! ## The beginning -/

/-- the blocks at the beginning -/
def firstBlocks (m : Automaton) (groups : List (List Nat)) : List (List Nat) :=
  let others := (List.range m.stateCount).filter fun q => !m.isAccepting q
  (groups.filter fun g => !g.isEmpty) ++ if others.isEmpty then [] else [others]

theorem partition_initial (m : Automaton) (groups : List (List Nat)) :
    (initial m groups).partition = .ofBlocks m.stateCount (firstBlocks m groups) := rfl

theorem flatten_filter_not_isEmpty (groups : List (List Nat)) :
    (groups.filter fun g => !g.isEmpty).flatten = groups.flatten := by
  induction groups with
  | nil => rfl
  | cons g groups ih => cases g <;> simp [ih]

theorem flatten_firstBlocks (hg : groups.flatten.Perm m.acceptingStates) :
    (firstBlocks m groups).flatten.Perm (List.range m.stateCount) := by
  have hothers (l : List Nat) : (if l.isEmpty = true then ([] : List (List Nat)) else [l]).flatten = l := by
    cases l <;> simp
  rw [firstBlocks, List.flatten_append, flatten_filter_not_isEmpty, hothers]
  exact (hg.append_right _).trans (List.filter_append_perm _ _)

theorem ne_nil_of_mem_firstBlocks (m : Automaton) (groups : List (List Nat)) : ∀ g ∈ firstBlocks m groups, g ≠ [] := by
  intro g hg
  rcases List.mem_append.1 hg with hg | hg
  · simpa using (List.mem_filter.1 hg).2
  · split at hg
    · cases hg
    · rename_i hne
      obtain rfl := List.mem_singleton.1 hg
      simpa using hne

/-- two blocks of the beginning cannot both be the one of the states that do not accept -/
theorem firstBlocks_cases {i : Nat} {g : List Nat} (hi : (firstBlocks m groups)[i]? = some g) :
    (i < (groups.filter fun g => !g.isEmpty).length ∧ g ∈ groups) ∨
      i = (groups.filter fun g => !g.isEmpty).length ∧ ∀ q ∈ g, m.isAccepting q = false := by
  rw [firstBlocks] at hi
  by_cases hlt : i < (groups.filter fun g => !g.isEmpty).length
  · rw [List.getElem?_append_left hlt] at hi
    exact Or.inl ⟨hlt, (List.mem_filter.1 (List.mem_of_getElem? hi)).1⟩
  · rw [List.getElem?_append_right (Nat.not_lt.1 hlt)] at hi
    split at hi
    · cases hi
    · rw [List.getElem?_singleton] at hi
      split at hi
      · cases hi
        exact Or.inr ⟨by omega, by simp⟩
      · cases hi

/-- the block of a state at the beginning -/
theorem exists_firstBlock (hg : groups.flatten.Perm m.acceptingStates) {q : Nat} (hq : q < m.stateCount) :
    ∃ g, (firstBlocks m groups)[(initial m groups).partition.blockNumber q]? = some g ∧ q ∈ g := by
  have hcons := Partition.consistent_ofBlocks (flatten_firstBlocks hg) (ne_nil_of_mem_firstBlocks m groups)
  have hmem := hcons.mem_block hq
  rw [Partition.block_ofBlocks] at hmem
  cases hb : (firstBlocks m groups)[(initial m groups).partition.blockNumber q]? with
  | none => rw [← partition_initial, hb] at hmem; cases hmem
  | some g => rw [← partition_initial, hb] at hmem; exact ⟨g, rfl, hmem⟩

theorem mem_pending_initial {b a : Nat} : (b, a) ∈ (initial m groups).pending ↔
    b < (groups.filter fun g => !g.isEmpty).length ∧ a < m.alphabetSize := by
  simp only [initial, List.mem_flatMap, List.mem_range, mem_splitters]
  constructor
  · rintro ⟨b', hb, rfl, ha⟩
    exact ⟨hb, ha⟩
  · rintro ⟨hb, ha⟩
    exact ⟨b, hb, rfl, ha⟩

theorem exists_firstBlock_of_alike {p q : Nat} (hp : p < m.stateCount) (hq : q < m.stateCount) (h : m.Alike groups p q) :
    ∃ g ∈ firstBlocks m groups, p ∈ g ∧ q ∈ g := by
  rcases h with ⟨hp', hq'⟩ | ⟨g, hg, hpg, hqg⟩
  · have hmem {q : Nat} (hq : q < m.stateCount) (hq' : m.isAccepting q = false) :
        q ∈ (List.range m.stateCount).filter fun q => !m.isAccepting q := by simp [hq, hq']
    refine ⟨_, List.mem_append_right _ ?_, hmem hp hp', hmem hq hq'⟩
    rw [if_neg (by simpa using ⟨p, hp, hp'⟩)]
    exact List.mem_singleton_self _
  · refine ⟨g, List.mem_append_left _ (List.mem_filter.2 ⟨hg, ?_⟩), hpg, hqg⟩
    cases g with
    | nil => cases hpg
    | cons => rfl

theorem blockNumber_initial_le (hg : groups.flatten.Perm m.acceptingStates) {q : Nat} (hq : q < m.stateCount) :
    (initial m groups).partition.blockNumber q ≤ (groups.filter fun g => !g.isEmpty).length := by
  obtain ⟨g, hgq, -⟩ := exists_firstBlock hg hq
  rcases firstBlocks_cases hgq with h | h
  · exact Nat.le_of_lt h.1
  · exact Nat.le_of_eq h.1

theorem inv_initial (hm : m.Complete) (hg : groups.flatten.Perm m.acceptingStates) : Inv m groups (initial m groups) := by
  have hcons := Partition.consistent_ofBlocks (flatten_firstBlocks hg) (ne_nil_of_mem_firstBlocks m groups)
  have hsize : (groups.filter fun g => !g.isEmpty).length ≤ (initial m groups).partition.blocks.size := by
    simp [partition_initial, Partition.ofBlocks, firstBlocks]
  exact
    { consistent := hcons
      clean := rfl
      valid := fun {b a} hba => by
        obtain ⟨hb, ha⟩ := mem_pending_initial.1 hba
        exact ⟨hb.trans_le hsize, ha⟩
      sound := fun {p q} hp hq hpq => by
        obtain ⟨g, hgm, hpg, hqg⟩ := exists_firstBlock_of_alike hp hq hpq.alike
        obtain ⟨i, hi⟩ := List.mem_iff_getElem?.1 hgm
        have hd := (List.nodup_flatten.1 ((flatten_firstBlocks hg).nodup_iff.2 List.nodup_range)).2
        rw [partition_initial, Partition.blockNumber_ofBlocks hd hi hpg hp,
          Partition.blockNumber_ofBlocks hd hi hqg hq]
      refines := fun {p q} hp hq hpq => by
        obtain ⟨g, hpg, hp'⟩ := exists_firstBlock hg hp
        obtain ⟨g', hqg, hq'⟩ := exists_firstBlock hg hq
        rw [hpq, hqg] at hpg
        cases hpg
        rcases firstBlocks_cases hqg with ⟨-, hgg⟩ | ⟨-, hno⟩
        · exact Or.inr ⟨g, hgg, hp', hq'⟩
        · exact Or.inl ⟨hno p hp', hno q hq'⟩
      queued := fun {p q a} hp hq ha _ hne => by
        -- of two blocks one is a group, and all groups are pending
        have hp' := blockNumber_initial_le hg (hm.step_lt hp ha)
        have hq' := blockNumber_initial_le hg (hm.step_lt hq ha)
        rw [mem_pending_initial, mem_pending_initial]
        omega }

/-! ## One round -/

theorem mem_pending_iff {r' : Refinement} {s : Nat × Nat} (h : Applied m r r' s) {b a : Nat} : (b, a) ∈ r'.pending ↔
    (b, a) ∈ r.pending ∨
      r.partition.blocks.size ≤ b ∧ b < r'.partition.blocks.size ∧ a < m.alphabetSize := by
  have := h.size_le
  rw [h.pending_eq, List.mem_append, List.mem_flatMap]
  refine or_congr_right ⟨?_, ?_⟩
  · rintro ⟨c, hc, hb⟩
    obtain ⟨rfl, ha⟩ := mem_splitters.1 hb
    rw [List.mem_range'_1] at hc
    simp only at *
    omega
  · rintro ⟨h1, h2, ha⟩
    exact ⟨b, List.mem_range'_1.2 (by omega), mem_splitters.2 ⟨rfl, ha⟩⟩

theorem Inv.applied (hm : m.Complete) {s : Nat × Nat} {rest : List (Nat × Nat)} (h : Inv m groups r)
    (hr : r.pending = s :: rest) :
    Applied m { r with pending := rest } (apply m (.ofAutomaton m) s { r with pending := rest }) s := by
  obtain ⟨hb, ha⟩ := h.valid (hr ▸ List.mem_cons_self)
  exact applied_apply hm (r := { r with pending := rest }) h.consistent h.clean hb ha

/-- one round keeps the invariant: a pending splitter that is split leaves one of its halves under its number, and the
other one is new and therefore pending as well -/
theorem Inv.apply (hm : m.Complete) {s : Nat × Nat} {rest : List (Nat × Nat)} (h : Inv m groups r)
    (hr : r.pending = s :: rest) :
    Inv m groups (apply m (.ofAutomaton m) s { r with pending := rest }) := by
  obtain ⟨b, a⟩ := s
  obtain ⟨-, ha⟩ := h.valid (hr ▸ List.mem_cons_self)
  have happ := h.applied hm hr
  generalize Refinement.apply m (.ofAutomaton m) (b, a) { r with pending := rest } = r' at happ ⊢
  have hnumber {q : Nat} (hq : q < m.stateCount) : r'.partition.blockNumber q = r.partition.blockNumber q ∨
    r.partition.blocks.size ≤ r'.partition.blockNumber q := happ.number hq
  have hsame {p q : Nat} (hp : p < m.stateCount) (hq : q < m.stateCount) :
      r'.partition.blockNumber p = r'.partition.blockNumber q ↔ r.partition.blockNumber p = r.partition.blockNumber q ∧
        (r.partition.blockNumber (m.step p a) = b ↔ r.partition.blockNumber (m.step q a) = b) := happ.same hp hq
  have hpending {c d : Nat} : (c, d) ∈ r'.pending ↔ (c, d) ∈ rest ∨
    r.partition.blocks.size ≤ c ∧ c < r'.partition.blocks.size ∧ d < m.alphabetSize := mem_pending_iff happ
  -- a new block is pending
  have hnew {q d : Nat} (hq : q < m.stateCount) (hd : d < m.alphabetSize)
      (hle : r.partition.blocks.size ≤ r'.partition.blockNumber q) : (r'.partition.blockNumber q, d) ∈ r'.pending :=
    hpending.2 (Or.inr ⟨hle, happ.consistent.number_lt hq, hd⟩)
  -- a block that is pending stays pending, under its old number or a new one, for each of its states
  have hold {q d : Nat} (hq : q < m.stateCount) (hd : d < m.alphabetSize)
      (hmem : (r.partition.blockNumber q, d) ∈ rest) : (r'.partition.blockNumber q, d) ∈ r'.pending := by
    rcases hnumber hq with he | hle
    · exact he ▸ hpending.2 (Or.inl hmem)
    · exact hnew hq hd hle
  -- the splitter of this round does not tell apart what it has left in one block
  have hspare {p q c d : Nat} (hpq : r.partition.blockNumber (m.step p a) = b ↔ r.partition.blockNumber (m.step q a) = b)
      (hne : r.partition.blockNumber (m.step p d) ≠ r.partition.blockNumber (m.step q d)) (hc : (c, d) ∈ r.pending)
      (hcpq : c = r.partition.blockNumber (m.step p d) ∨ c = r.partition.blockNumber (m.step q d)) : (c, d) ∈ rest := by
    rw [hr] at hc
    rcases List.mem_cons.1 hc with hcb | hc
    · cases hcb
      rcases hcpq with h1 | h1
      · exact absurd (h1.symm.trans (hpq.1 h1.symm).symm) hne
      · exact absurd ((hpq.2 h1.symm).trans h1) hne
    · exact hc
  exact
    { consistent := happ.consistent
      clean := happ.clean
      valid := fun {c d} hcd => by
        rcases hpending.1 hcd with hmem | ⟨-, hlt, hd⟩
        · obtain ⟨h1, h2⟩ := h.valid (hr ▸ List.mem_cons_of_mem _ hmem)
          exact ⟨h1.trans_le happ.size_le, h2⟩
        · exact ⟨hlt, hd⟩
      sound := fun {p q} hp hq hpq => by
        have hstep := h.sound (hm.step_lt hp ha) (hm.step_lt hq ha) (hpq.step ha)
        exact (hsame hp hq).2 ⟨h.sound hp hq hpq, by rw [hstep]⟩
      refines := fun {p q} hp hq hpq => h.refines hp hq ((hsame hp hq).1 hpq).1
      queued := fun {p q d} hp hq hd hpq hne => by
        obtain ⟨hpq, hiff⟩ := (hsame hp hq).1 hpq
        have hp' := hm.step_lt hp hd
        have hq' := hm.step_lt hq hd
        by_cases he : r.partition.blockNumber (m.step p d) = r.partition.blockNumber (m.step q d)
        · -- the two blocks were one: one of them is new
          rcases hnumber hp' with h1 | h1
          · rcases hnumber hq' with h2 | h2
            · exact absurd (h1.trans (he.trans h2.symm)) hne
            · exact Or.inr (hnew hq' hd h2)
          · exact Or.inl (hnew hp' hd h1)
        · rcases h.queued hp hq hd hpq he with hmem | hmem
          · exact Or.inl (hold hp' hd (hspare hiff he hmem (Or.inl rfl)))
          · exact Or.inr (hold hq' hd (hspare hiff he hmem (Or.inr rfl))) }

/-! ## The whole run -/

/-- rounds that are enough: one for each pending splitter, and one for each splitter that a new block can bring -/
def work (m : Automaton) (r : Refinement) : Nat :=
  r.pending.length + (m.stateCount - r.partition.blocks.size) * m.alphabetSize

theorem work_apply (hm : m.Complete) {s : Nat × Nat} {rest : List (Nat × Nat)} (h : Inv m groups r)
    (hr : r.pending = s :: rest) : work m (apply m (.ofAutomaton m) s { r with pending := rest }) + 1 = work m r := by
  have happ := h.applied hm hr
  generalize apply m (.ofAutomaton m) s { r with pending := rest } = r' at happ ⊢
  obtain ⟨d, hd⟩ := Nat.exists_eq_add_of_le happ.size_le
  obtain ⟨e, he⟩ := Nat.exists_eq_add_of_le happ.consistent.size_le
  have hsplitters (b : Nat) : (splitters m.alphabetSize b).length = m.alphabetSize := by simp [splitters]
  have hlen : r'.pending.length = rest.length + d * m.alphabetSize := by
    have h1 : r'.partition.blocks.size - r.partition.blocks.size = d := Nat.sub_eq_of_eq_add' hd
    rw [happ.pending_eq, List.length_append, List.length_flatMap]
    simp only [hsplitters, h1, List.map_const', List.length_range', List.sum_replicate, smul_eq_mul]
  have h2 : m.stateCount - r'.partition.blocks.size = e := Nat.sub_eq_of_eq_add' he
  have h3 : m.stateCount - r.partition.blocks.size = d + e := by
    simp only at hd
    omega
  rw [work, work, hlen, hr, h2, h3, List.length_cons]
  ring

theorem run_of_nil {ps : Predecessors} (hr : r.pending = []) (rounds : Nat) : run m ps rounds r = r := by
  cases rounds with
  | zero => rfl
  | succ rounds => simp only [run, hr]

theorem run_of_cons {ps : Predecessors} {s : Nat × Nat} {rest : List (Nat × Nat)} (hr : r.pending = s :: rest)
    (rounds : Nat) : run m ps (rounds + 1) r = run m ps rounds (apply m ps s { r with pending := rest }) := by
  simp only [run, hr]

/-- one more round at the end -/
theorem run_succ (m : Automaton) (ps : Predecessors) (rounds : Nat) (r : Refinement) :
    run m ps (rounds + 1) r = run m ps 1 (run m ps rounds r) := by
  induction rounds generalizing r with
  | zero => rfl
  | succ rounds ih =>
    cases hr : r.pending with
    | nil => rw [run_of_nil hr, run_of_nil hr, run_of_nil hr]
    | cons s rest => rw [run_of_cons hr, ih, ← run_of_cons hr]

/-- when no splitter is pending any more, further rounds change nothing -/
theorem run_of_le {ps : Predecessors} {rounds more : Nat} (hend : (run m ps rounds r).pending = []) (hle : rounds ≤ more) :
    run m ps more r = run m ps rounds r := by
  induction more, hle using Nat.le_induction with
  | base => rfl
  | succ more _ ih => rw [run_succ, ih, run_of_nil hend]

/-- any number of rounds keeps what one round keeps -/
theorem Inv.rounds (hm : m.Complete) (h : Inv m groups r) (rounds : Nat) :
    Inv m groups (run m (.ofAutomaton m) rounds r) := by
  induction rounds generalizing r with
  | zero => exact h
  | succ rounds ih =>
    cases hr : r.pending with
    | nil => rwa [run_of_nil hr]
    | cons s rest =>
      rw [run_of_cons hr]
      exact ih (h.apply hm hr)

/-- the rounds end: each takes one splitter and does one piece of the work -/
theorem Inv.exists_rounds (hm : m.Complete) (h : Inv m groups r) :
    ∃ rounds, (run m (.ofAutomaton m) rounds r).pending = [] ∧
      (∀ k < rounds, (run m (.ofAutomaton m) k r).pending ≠ []) ∧
      work m (run m (.ofAutomaton m) rounds r) + rounds = work m r ∧
      r.partition.blocks.size ≤ (run m (.ofAutomaton m) rounds r).partition.blocks.size := by
  induction hwork : work m r generalizing r with
  | zero =>
    have hend : r.pending = [] := List.length_eq_zero_iff.1 (Nat.eq_zero_of_add_eq_zero_right hwork)
    exact ⟨0, hend, nofun, hwork, Nat.le_refl _⟩
  | succ left ih =>
    cases hr : r.pending with
    | nil => exact ⟨0, hr, nofun, hwork, Nat.le_refl _⟩
    | cons s rest =>
      have hless := work_apply hm h hr
      have hgrow : r.partition.blocks.size ≤ _ := (h.applied hm hr).size_le
      obtain ⟨rounds, hend, hbefore, hsum, hsize⟩ := ih (h.apply hm hr) (by omega)
      refine ⟨rounds + 1, ?_, ?_, ?_, ?_⟩
      · rwa [run_of_cons hr]
      · intro k hk
        cases k with
        | zero => exact hr ▸ List.cons_ne_nil s rest
        | succ k =>
          rw [run_of_cons hr]
          exact hbefore k (Nat.lt_of_succ_lt_succ hk)
      · rw [run_of_cons hr]
        omega
      · rw [run_of_cons hr]
        exact hgrow.trans hsize

/-- when no splitter is left, no word tells states of one block apart -/
theorem Inv.equivalent (hm : m.Complete) (h : Inv m groups r) (hr : r.pending = []) {p q : Nat} (hp : p < m.stateCount)
    (hq : q < m.stateCount) (hpq : r.partition.blockNumber p = r.partition.blockNumber q) :
    m.Equivalent groups p q := by
  intro w hw
  induction w generalizing p q with
  | nil => exact h.refines hp hq hpq
  | cons a w ih =>
    obtain ⟨ha, hw⟩ := List.forall_mem_cons.1 hw
    refine ih (hm.step_lt hp ha) (hm.step_lt hq ha) ?_ hw
    by_contra hne
    have := h.queued hp hq ha hpq hne
    simp [hr] at this

/-- the rounds that `finest` allows are enough -/
theorem finest_eq {rounds : Nat} (hend : (run m (.ofAutomaton m) rounds (initial m groups)).pending = [])
    (hle : rounds ≤ work m (initial m groups)) :
    finest m groups = (run m (.ofAutomaton m) rounds (initial m groups)).partition := by
  have hwork : work m (initial m groups) ≤ (initial m groups).pending.length + m.stateCount * m.alphabetSize :=
    Nat.add_le_add_left (Nat.mul_le_mul_right _ (Nat.sub_le _ _)) _
  exact congrArg partition (run_of_le hend (hle.trans hwork))

/-- the state of the refinement in which it ends -/
theorem exists_finest (hm : m.Complete) (hg : groups.flatten.Perm m.acceptingStates) :
    ∃ r, finest m groups = r.partition ∧ Inv m groups r ∧ r.pending = [] := by
  have hinv := inv_initial hm hg
  obtain ⟨rounds, hend, -, hwork, -⟩ := hinv.exists_rounds hm
  exact ⟨_, finest_eq hend (hwork ▸ Nat.le_add_left _ _), hinv.rounds hm rounds, hend⟩

theorem consistent_finest (hm : m.Complete) (hg : groups.flatten.Perm m.acceptingStates) :
    (finest m groups).Consistent m.stateCount := by
  obtain ⟨r, he, h, -⟩ := exists_finest hm hg
  exact he ▸ h.consistent

/-- two states end in one block if and only if no word tells them apart -/
theorem blockNumber_finest_iff (hm : m.Complete) (hg : groups.flatten.Perm m.acceptingStates) {p q : Nat}
    (hp : p < m.stateCount) (hq : q < m.stateCount) :
    (finest m groups).blockNumber p = (finest m groups).blockNumber q ↔ m.Equivalent groups p q := by
  obtain ⟨r, he, h, hr⟩ := exists_finest hm hg
  rw [he]
  exact ⟨h.equivalent hm hr hp hq, h.sound hp hq⟩

end Refinement

end Munch
