/-
Merged states.

`Merges m n f` says that `n` is `m` with states merged by `f`: every move, and whether a state accepts, can be read off any
of the states that are merged into one. The quotient by a partition whose blocks move and accept alike
(`Partition.Stable`) is merged by `Partition.place`.

Results:
- `place_lt_place_iff`: the merged states are numbered in the order of their smallest members.
- `merges_quotient`: the quotient by a stable partition merges its blocks.
- `minimizeGroups_merges_iff`: the states that are merged are those that no word tells apart.
-/
import Mathlib.Tactic
import Munch.Automaton.Minimal
import Munch.Proofs.Automaton.Refinement
import Munch.Proofs.Sorted

namespace Munch

namespace Partition

variable {p : Partition} {n : Nat}

/-! ## Smallest members -/

theorem least_mem {block : List Nat} (h : block ≠ []) : least block ∈ block := by
  cases block with
  | nil => exact absurd rfl h
  | cons q rest =>
    show rest.foldl min q ∈ q :: rest
    clear h
    induction rest generalizing q with
    | nil => exact List.mem_cons_self
    | cons r rest ih =>
      rw [List.foldl_cons]
      rcases List.mem_cons.1 (ih (min q r)) with he | hm
      · rw [he]
        rcases Nat.le_total q r with hle | hle
        · simp [Nat.min_eq_left hle]
        · simp [Nat.min_eq_right hle]
      · exact List.mem_cons_of_mem _ (List.mem_cons_of_mem _ hm)

theorem foldl_min_le (rest : List Nat) (q : Nat) : rest.foldl min q ≤ q ∧ ∀ r ∈ rest, rest.foldl min q ≤ r := by
  induction rest generalizing q with
  | nil => simp
  | cons s rest ih =>
    obtain ⟨h1, h2⟩ := ih (min q s)
    rw [List.foldl_cons]
    refine ⟨h1.trans (Nat.min_le_left _ _), fun r hr => ?_⟩
    rcases List.mem_cons.1 hr with rfl | hr
    · exact h1.trans (Nat.min_le_right _ _)
    · exact h2 r hr

theorem least_le {block : List Nat} {q : Nat} (h : q ∈ block) : least block ≤ q := by
  cases block with
  | nil => cases h
  | cons r rest =>
    obtain ⟨h1, h2⟩ := foldl_min_le rest r
    rcases List.mem_cons.1 h with rfl | h
    · exact h1
    · exact h2 q h

/-- the smallest state in the block of a state -/
def leader (p : Partition) (q : Nat) : Nat :=
  least (p.block (p.blockNumber q))

namespace Consistent

variable (h : p.Consistent n)
include h

theorem least_block_mem {b : Nat} (hb : b < p.blocks.size) : least (p.block b) < n ∧ p.blockNumber (least (p.block b)) = b :=
  (h.mem_iff hb).1 (least_mem (h.nonempty hb))

theorem leader_lt {q : Nat} (hq : q < n) : p.leader q < n :=
  (h.least_block_mem (h.number_lt hq)).1

theorem blockNumber_leader {q : Nat} (hq : q < n) : p.blockNumber (p.leader q) = p.blockNumber q :=
  (h.least_block_mem (h.number_lt hq)).2

theorem leader_le {q r : Nat} (hq : q < n) (hr : r < n) (hqr : p.blockNumber r = p.blockNumber q) : p.leader q ≤ r :=
  least_le ((h.mem_iff (h.number_lt hq)).2 ⟨hr, hqr⟩)

theorem leader_eq_iff {q r : Nat} (hq : q < n) (hr : r < n) :
    p.leader q = p.leader r ↔ p.blockNumber q = p.blockNumber r := by
  constructor
  · intro he
    rw [← h.blockNumber_leader hq, he, h.blockNumber_leader hr]
  · intro he
    rw [leader, leader, he]

end Consistent

/-! ## Numbers in the order of the smallest members -/

/-- the number of a state when the states of each block are merged -/
def place (p : Partition) (q : Nat) : Nat :=
  p.ordered.idxOf (p.blockNumber q)

theorem perm_ordered (p : Partition) : p.ordered.Perm (List.range p.blocks.size) :=
  List.mergeSort_perm _ _

theorem length_ordered (p : Partition) : p.ordered.length = p.blocks.size := by
  rw [p.perm_ordered.length_eq, List.length_range]

theorem pairwise_ordered (p : Partition) : p.ordered.Pairwise fun a b => least (p.block a) ≤ least (p.block b) :=
  pairwise_sort (fun a => least (p.block a)) (List.range p.blocks.size)

namespace Consistent

variable (h : p.Consistent n)
include h

theorem mem_ordered {q : Nat} (hq : q < n) : p.blockNumber q ∈ p.ordered :=
  p.perm_ordered.mem_iff.2 (List.mem_range.2 (h.number_lt hq))

theorem place_lt {q : Nat} (hq : q < n) : p.place q < p.blocks.size :=
  p.length_ordered ▸ List.idxOf_lt_length_of_mem (h.mem_ordered hq)

theorem getElem?_place {q : Nat} (hq : q < n) : p.ordered[p.place q]? = some (p.blockNumber q) :=
  List.getElem?_idxOf (h.mem_ordered hq)

theorem place_eq_iff {q r : Nat} (hq : q < n) (hr : r < n) : p.place q = p.place r ↔ p.blockNumber q = p.blockNumber r := by
  constructor
  · intro he
    have := h.getElem?_place hq
    rw [he, h.getElem?_place hr] at this
    exact (Option.some.inj this).symm
  · intro he
    rw [place, he, place]

theorem exists_place_eq {i : Nat} (hi : i < p.blocks.size) : ∃ q < n, p.place q = i := by
  have hi' : i < p.ordered.length := p.length_ordered.symm ▸ hi
  obtain ⟨q, hq, hqi⟩ := h.exists_mem (List.mem_range.1 (p.perm_ordered.subset (List.getElem_mem hi')))
  have hnd : p.ordered.Nodup := p.perm_ordered.nodup_iff.2 List.nodup_range
  exact ⟨q, hq, by rw [place, hqi, hnd.idxOf_getElem]⟩

theorem leader_lt_of_place_lt {q r : Nat} (hq : q < n) (hr : r < n) (hlt : p.place q < p.place r) :
    p.leader q < p.leader r := by
  have hne : p.leader q ≠ p.leader r := fun he =>
    Nat.ne_of_lt hlt ((h.place_eq_iff hq hr).2 ((h.leader_eq_iff hq hr).1 he))
  obtain ⟨hi, hqi⟩ := List.getElem?_eq_some_iff.1 (h.getElem?_place hq)
  obtain ⟨hj, hrj⟩ := List.getElem?_eq_some_iff.1 (h.getElem?_place hr)
  have := List.pairwise_iff_getElem.1 p.pairwise_ordered _ _ hi hj hlt
  rw [hqi, hrj] at this
  exact Nat.lt_of_le_of_ne this hne

theorem place_lt_place_iff {q r : Nat} (hq : q < n) (hr : r < n) : p.place q < p.place r ↔ p.leader q < p.leader r := by
  refine ⟨h.leader_lt_of_place_lt hq hr, fun hlt => ?_⟩
  rcases Nat.lt_trichotomy (p.place q) (p.place r) with hqr | hqr | hqr
  · exact hqr
  · have := (h.leader_eq_iff hq hr).2 ((h.place_eq_iff hq hr).1 hqr)
    omega
  · have := h.leader_lt_of_place_lt hr hq hqr
    omega

end Consistent

/-- states of one block move into one block, and accept or not alike -/
structure Stable (p : Partition) (m : Automaton) : Prop where
  consistent : p.Consistent m.stateCount
  step : ∀ {q r s}, q < m.stateCount → r < m.stateCount → s < m.alphabetSize → p.blockNumber q = p.blockNumber r →
    p.blockNumber (m.step q s) = p.blockNumber (m.step r s)
  accepting : ∀ {q r}, q < m.stateCount → r < m.stateCount → p.blockNumber q = p.blockNumber r →
    m.isAccepting q = m.isAccepting r

end Partition

namespace Automaton

variable {m n : Automaton} {p : Partition} {f : Nat → Nat}

/-! ## Quotients -/

/-- `n` is `m` with states merged by `f` -/
structure Merges (m n : Automaton) (f : Nat → Nat) : Prop where
  alphabetSize_eq : n.alphabetSize = m.alphabetSize
  complete : n.Complete
  lt : ∀ {q}, q < m.stateCount → f q < n.stateCount
  surjective : ∀ {i}, i < n.stateCount → ∃ q < m.stateCount, f q = i
  start_eq : n.start = f m.start
  error_eq : n.errorState = m.errorState.map f
  step_eq : ∀ {q s}, q < m.stateCount → s < m.alphabetSize → n.step (f q) s = f (m.step q s)
  accepting_eq : ∀ {q}, q < m.stateCount → n.isAccepting (f q) = m.isAccepting q

theorem Merges.after_eq (h : Merges m n f) (hm : m.Complete) {q : Nat} (hq : q < m.stateCount) {w : List Nat}
    (hw : m.IsWord w) : n.after (f q) w = f (m.after q w) := by
  induction w generalizing q with
  | nil => rfl
  | cons s w ih =>
    obtain ⟨hs, hw⟩ := List.forall_mem_cons.1 hw
    rw [after_cons, after_cons, h.step_eq hq hs]
    exact ih (hm.step_lt hq hs) hw

theorem filter_range_eq {k i : Nat} (hi : i < k) : (List.range k).filter (· == i) = [i] := by
  induction k with
  | zero => omega
  | succ k ih =>
    rw [List.range_succ, List.filter_append]
    by_cases hk : i = k
    · subst hk
      have : (List.range i).filter (· == i) = [] := List.filter_eq_nil_iff.2 fun j hj => by
        have := List.mem_range.1 hj
        simp only [beq_iff_eq]
        omega
      rw [this]
      simp
    · have : ¬k = i := fun e => hk e.symm
      rw [ih (by omega)]
      simp [this]

/-- a block has one representative, its smallest state -/
theorem filter_representatives (h : p.Consistent m.stateCount) {b : Nat} (hb : b < p.blocks.size) :
    (p.representatives.filter fun q => p.blockNumber q == b) = [Partition.least (p.block b)] := by
  have hreps : p.representatives = (List.range p.blocks.size).map fun b => Partition.least (p.block b) := by
    refine List.ext_getElem (by simp [Partition.representatives]) fun i h1 h2 => ?_
    have hi : i < p.blocks.size := by simpa using h2
    simp [Partition.representatives, Partition.block, hi]
  have hfilter : ((List.range p.blocks.size).filter fun c => p.blockNumber (Partition.least (p.block c)) == b) =
      (List.range p.blocks.size).filter (· == b) :=
    List.filter_congr fun c hc => by rw [(h.least_block_mem (List.mem_range.1 hc)).2]
  rw [hreps, List.filter_map]
  show ((List.range p.blocks.size).filter fun c => p.blockNumber (Partition.least (p.block c)) == b).map _ = _
  rw [hfilter, filter_range_eq hb]
  rfl

theorem blockState_eq (h : p.Consistent m.stateCount) {q : Nat} (hq : q < m.stateCount) :
    m.blockState p p.place (p.blockNumber q) = {
      edges := (m.edges (p.leader q)).map fun e => { e with target := p.place e.target }
      accepting := m.isAccepting (p.leader q)
      token := m.blockToken? p (p.blockNumber q) } := by
  simp only [blockState, filter_representatives h (h.number_lt hq), Partition.leader]
  simp

theorem quotient_eq (m : Automaton) (p : Partition) : m.quotient p =
    { alphabetSize := m.alphabetSize
      states := (p.ordered.map (m.blockState p p.place)).toArray
      start := p.place m.start
      errorState := m.errorState.map p.place } := rfl

theorem stateCount_quotient (m : Automaton) (p : Partition) : (m.quotient p).stateCount = p.blocks.size := by
  simp [quotient_eq, stateCount, p.length_ordered]

theorem states_quotient (h : p.Consistent m.stateCount) {q : Nat} (hq : q < m.stateCount) :
    (m.quotient p).states[p.place q]? = some (m.blockState p p.place (p.blockNumber q)) := by
  simp [quotient_eq, h.getElem?_place hq]

theorem token?_quotient (h : p.Consistent m.stateCount) {q : Nat} (hq : q < m.stateCount) :
    (m.quotient p).token? (p.place q) = m.blockToken? p (p.blockNumber q) := by
  rw [token?, states_quotient h hq, blockState_eq h hq]
  rfl

theorem isAccepting_quotient (h : p.Consistent m.stateCount) {q : Nat} (hq : q < m.stateCount) :
    (m.quotient p).isAccepting (p.place q) = m.isAccepting (p.leader q) := by
  rw [isAccepting, states_quotient h hq, blockState_eq h hq]
  rfl

/-- the moves of merged states are those of the smallest of them -/
theorem edges_quotient (hm : m.Complete) (h : p.Consistent m.stateCount) {q : Nat} (hq : q < m.stateCount) :
    (m.quotient p).edges (p.place q) = row m.alphabetSize fun s => p.place (m.step (p.leader q) s) := by
  rw [edges, edges?, states_quotient h hq, blockState_eq h hq]
  simp [hm.edges_eq (h.leader_lt hq), row]

theorem merges_quotient (hm : m.Complete) (h : p.Stable m) : Merges m (m.quotient p) p.place := by
  have hc := h.consistent
  have hcount := stateCount_quotient m p
  -- the moves can be read off any member of the block
  have hrow {q : Nat} (hq : q < m.stateCount) :
      (m.quotient p).edges (p.place q) = row (m.quotient p).alphabetSize fun s => p.place (m.step q s) := by
    rw [edges_quotient hm hc hq]
    have hl := hc.leader_lt hq
    exact row_congr fun s hs => (hc.place_eq_iff (hm.step_lt hl hs) (hm.step_lt hq hs)).2
      (h.step hl hq hs (hc.blockNumber_leader hq))
  have hsurj : ∀ i < (m.quotient p).stateCount, ∃ q < m.stateCount, p.place q = i := fun i hi =>
    hc.exists_place_eq (hcount ▸ hi)
  have hlt {q : Nat} (hq : q < m.stateCount) : p.place q < (m.quotient p).stateCount :=
    hcount.symm ▸ hc.place_lt hq
  choose! member hmember hplace using hsurj
  have hrows : ∀ i < (m.quotient p).stateCount, (m.quotient p).edges i =
      row (m.quotient p).alphabetSize fun s => p.place (m.step (member i) s) := fun i hi => by
    conv_lhs => rw [← hplace i hi]
    exact hrow (hmember i hi)
  exact
    { alphabetSize_eq := rfl
      complete := complete_of_rows (hlt hm.start_lt) hrows fun i hi s hs => hlt (hm.step_lt (hmember i hi) hs)
      lt := hlt
      surjective := fun {i} hi => ⟨member i, hmember i hi, hplace i hi⟩
      start_eq := rfl
      error_eq := rfl
      step_eq := fun {q s} hq hs => by
        have hq' := hmember _ (hlt hq)
        rw [step_of_rows hrows (hlt hq) hs, hc.place_eq_iff (hm.step_lt hq' hs) (hm.step_lt hq hs)]
        exact h.step hq' hq hs ((hc.place_eq_iff hq' hq).1 (hplace _ (hlt hq)))
      accepting_eq := fun {q} hq => by
        rw [isAccepting_quotient hc hq]
        exact h.accepting (hc.leader_lt hq) hq (hc.blockNumber_leader hq) }

/-! ## The smallest automaton -/

variable {groups : List (List Nat)}

theorem Alike.accepting_eq (hg : groups.flatten.Perm m.acceptingStates) {q r : Nat} (h : m.Alike groups q r) :
    m.isAccepting q = m.isAccepting r := by
  rcases h with ⟨hq, hr⟩ | ⟨g, hgg, hq, hr⟩
  · rw [hq, hr]
  · have hacc {q : Nat} (hq : q ∈ g) : m.isAccepting q = true :=
      (mem_acceptingStates.1 (hg.subset (List.mem_flatten.2 ⟨g, hgg, hq⟩))).2
    rw [hacc hq, hacc hr]

theorem stable_finest (hm : m.Complete) (hg : groups.flatten.Perm m.acceptingStates) :
    (Refinement.finest m groups).Stable m where
  consistent := Refinement.consistent_finest hm hg
  step hq hr hs he := by
    rw [Refinement.blockNumber_finest_iff hm hg hq hr] at he
    exact (Refinement.blockNumber_finest_iff hm hg (hm.step_lt hq hs) (hm.step_lt hr hs)).2 (he.step hs)
  accepting hq hr he := ((Refinement.blockNumber_finest_iff hm hg hq hr).1 he).alike.accepting_eq hg

theorem minimizeGroups_eq (hm : m.Complete) (hg : groups.flatten.Perm m.acceptingStates)
    (he : ∀ e, m.errorState = some e → e < m.stateCount) :
    m.minimizeGroups groups = .ok (m.quotient (Refinement.finest m groups)) := by
  have hlt : ∀ g ∈ groups, ∀ q ∈ g, q < m.stateCount := fun g hgg q hq =>
    (mem_acceptingStates.1 (hg.subset (List.mem_flatten.2 ⟨g, hgg, hq⟩))).1
  rw [minimizeGroups, hm.isComplete, if_neg (by simp), if_pos ⟨hlt, hm.start_lt, he⟩]

/-- an error state that is not there has no block -/
theorem minimizeGroups_eq_error (hc : m.isComplete = true) {e : Nat} (he : m.errorState = some e)
    (hlt : m.stateCount ≤ e) : m.minimizeGroups groups = .error .outOfRange := by
  rw [minimizeGroups, hc, if_neg (by simp), if_neg]
  rintro ⟨-, -, hall⟩
  exact Nat.not_lt.2 hlt (hall e he)

theorem place_finest_iff (hm : m.Complete) (hg : groups.flatten.Perm m.acceptingStates) {q r : Nat}
    (hq : q < m.stateCount) (hr : r < m.stateCount) : (Refinement.finest m groups).place q =
      (Refinement.finest m groups).place r ↔ m.Equivalent groups q r := by
  rw [(Refinement.consistent_finest hm hg).place_eq_iff hq hr, Refinement.blockNumber_finest_iff hm hg hq hr]

/-- **States are merged if and only if no word tells them apart.** A complete automaton is merged by the order of blocks in
which the refinement of the groups ends, and two states get one number if and only if every word leads from them to two
states that do not accept or to two states of one group. It is refused only if its error state is not a state. -/
theorem minimizeGroups_merges_iff (hw : m.WellFormed) (hc : m.isComplete = true)
    (hg : groups.flatten.Perm m.acceptingStates) :
    ((∀ e, m.errorState = some e → e < m.stateCount) →
      ∃ n, m.minimizeGroups groups = .ok n ∧ Merges m n (Refinement.finest m groups).place ∧
        ∀ q < m.stateCount, ∀ r < m.stateCount,
          ((Refinement.finest m groups).place q = (Refinement.finest m groups).place r ↔
            ∀ w, (∀ s ∈ w, s < m.alphabetSize) →
              (m.isAccepting (m.after q w) = false ∧ m.isAccepting (m.after r w) = false) ∨
                ∃ g ∈ groups, m.after q w ∈ g ∧ m.after r w ∈ g)) ∧
      ∀ e, m.errorState = some e → m.stateCount ≤ e → m.minimizeGroups groups = .error .outOfRange := by
  have hm := hw.complete hc
  refine ⟨fun he => ⟨_, minimizeGroups_eq hm hg he, merges_quotient hm (stable_finest hm hg), ?_⟩, ?_⟩
  · exact fun q hq r hr => place_finest_iff hm hg hq hr
  · exact fun e he hlt => minimizeGroups_eq_error hc he hlt

/-- three states, of which the two that accept move to each other -/
def twins : Automaton :=
  { alphabetSize := 1
    states := #[{ edges := row 1 fun _ => 1 }, { edges := row 1 fun _ => 2, accepting := true },
      { edges := row 1 fun _ => 1, accepting := true }] }

theorem complete_twins : twins.Complete :=
  complete_of_rows (f := fun q _ => if q = 1 then 2 else 1) (by decide) (by decide) (by decide)

theorem after_twins {q : Nat} (hq : q ∈ [1, 2]) {w : List Nat} (hw : twins.IsWord w) : twins.after q w ∈ [1, 2] := by
  induction w generalizing q with
  | nil => exact hq
  | cons s w ih =>
    obtain ⟨hs, hw'⟩ := List.forall_mem_cons.1 hw
    obtain rfl : s = 0 := Nat.lt_one_iff.1 hs
    refine ih ?_ hw'
    fin_cases hq <;> decide

/-- three states, and an error state beyond them -/
def stray : Automaton :=
  { twins with errorState := some 7 }

theorem complete_stray : stray.Complete :=
  complete_of_rows (f := fun q _ => if q = 1 then 2 else 1) (by decide) (by decide) (by decide)

/-- the two that accept are merged if they are one group, and are not if they are two -/
theorem minimizeGroups_merges_twins :
    (Refinement.finest twins [[1, 2]]).place 1 = (Refinement.finest twins [[1, 2]]).place 2 ∧
      (Refinement.finest twins [[1], [2]]).place 1 ≠ (Refinement.finest twins [[1], [2]]).place 2 ∧
      stray.minimizeGroups [[1, 2]] = .error .outOfRange := by
  have hw := complete_twins.wellFormed
  have hc := complete_twins.isComplete
  have he : ∀ e, twins.errorState = some e → e < twins.stateCount := nofun
  have hone : [[1, 2]].flatten.Perm twins.acceptingStates := by decide
  have htwo : [[1], [2]].flatten.Perm twins.acceptingStates := by decide
  have hstray : [[1, 2]].flatten.Perm stray.acceptingStates := by decide
  obtain ⟨-, -, -, h1⟩ := (minimizeGroups_merges_iff hw hc hone).1 he
  obtain ⟨-, -, -, h2⟩ := (minimizeGroups_merges_iff hw hc htwo).1 he
  refine ⟨?_, ?_, (minimizeGroups_merges_iff complete_stray.wellFormed complete_stray.isComplete hstray).2 7 rfl (by decide)⟩
  · refine (h1 1 (by decide) 2 (by decide)).2 fun w hw => Or.inr ⟨[1, 2], List.mem_singleton_self _, ?_⟩
    exact ⟨after_twins (by decide) hw, after_twins (by decide) hw⟩
  · intro he
    -- the empty word tells them apart
    have := (h2 1 (by decide) 2 (by decide)).1 he [] (by simp)
    revert this
    decide

end Automaton

end Munch
