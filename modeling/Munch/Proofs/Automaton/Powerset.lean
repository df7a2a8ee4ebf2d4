/-
The states of the deterministic automaton as sets.

A set belongs to the deterministic automaton if it is not empty and the given automaton can be in exactly its members after
some word (`Automaton.wordSets`). Each state stands for one of these sets (`Subsets.members`) and each of them has one state;
a word leads to the state of the set behind it, and to no state if the set behind it is empty. A state answers as its set: it
accepts if a member does, and it has the least of the token types of the members.

Results:
- `explore_of_le`: when all sets have been followed up, more rounds change nothing.
- `bijOn_members`: one state for each set.
- `Determinizes.simulates`: where words lead, and what is answered there.
- `determinize_exact`: all of this for every automaton.
-/
import Mathlib.Tactic
import Munch.Proofs.Automaton.Deterministic
import Munch.Proofs.Automaton.InRange

namespace Munch

namespace Subsets

variable {m : Automaton} {c : Subsets} {i j : Nat}

/-! ## The end of the exploration -/

theorem explore_of_done (h : c.rows.size = c.sets.size) (rounds : Nat) : explore m rounds c = c := by
  cases rounds with
  | zero => rfl
  | succ rounds =>
    have hnone : c.sets[c.rows.size]? = none := Array.getElem?_eq_none (Nat.le_of_eq h.symm)
    rw [explore, hnone]

/-- when all sets have been followed up, more rounds change nothing -/
theorem explore_of_le {rounds more : Nat} (h : (explore m rounds c).rows.size = (explore m rounds c).sets.size)
    (hle : rounds ≤ more) : explore m more c = explore m rounds c := by
  induction rounds generalizing c more with
  | zero => exact explore_of_done h more
  | succ rounds ih =>
    obtain ⟨more, rfl⟩ := Nat.exists_eq_add_of_le' (Nat.zero_lt_of_lt hle)
    rw [explore] at h ⊢
    rw [explore]
    cases hset : c.sets[c.rows.size]? with
    | none => rfl
    | some set =>
      rw [hset] at h
      exact ih h (Nat.le_of_succ_le_succ hle)

/-! ## The set of a state -/

/-- the members of the set with a number -/
def members (c : Subsets) (i : Nat) : Set Nat :=
  {q | ∃ set, c.sets[i]? = some set ∧ q ∈ set}

theorem members_eq {set : List Nat} (h : c.sets[i]? = some set) : c.members i = {q | q ∈ set} := by
  ext q
  constructor
  · intro hq
    obtain ⟨set', hset, hm⟩ := hq
    rw [h] at hset
    cases hset
    exact hm
  · intro hq
    exact ⟨set, h, hq⟩

end Subsets

namespace Automaton

open Subsets (Followed Gathers)

variable {m d : Automaton} {c : Subsets} {w : List Nat} {i : Nat}

/-- the states in which an automaton can be after a word -/
def reached (m : Automaton) (w : List Nat) : Set Nat :=
  {q | m.Reads m.start w q}

/-- the sets of states in which an automaton can be after a word, without the empty one -/
def wordSets (m : Automaton) : Set (Set Nat) :=
  {S | S.Nonempty ∧ ∃ w, m.IsWord w ∧ m.reached w = S}

/-- a state of `d` answers as a set of states of `m` -/
structure AnswersAs (m d : Automaton) (i : Nat) (S : Set Nat) : Prop where
  accepting_iff : d.isAccepting i = true ↔ ∃ q ∈ S, m.isAccepting q = true
  token_eq_some_iff : ∀ t, d.token? i = some t ↔ IsLeast {t | ∃ q ∈ S, m.token? q = some t} t
  token_eq_none_iff : d.token? i = none ↔ ∀ q ∈ S, m.token? q = none

/-- the states of `d` stand for the sets in which `m` can be after a word, and `d` runs and answers as these sets do -/
structure Simulates (m d : Automaton) (members : Nat → Set Nat) : Prop where
  bijOn : Set.BijOn members {i | i < d.stateCount} m.wordSets
  run_isSome_iff : ∀ w, m.IsWord w → ((d.run? d.start w).isSome = true ↔ (m.reached w).Nonempty)
  members_run : ∀ w i, m.IsWord w → d.run? d.start w = some i → members i = m.reached w
  answers_run : ∀ w i, m.IsWord w → d.run? d.start w = some i → AnswersAs m d i (m.reached w)

/-- without a least token type there is none -/
theorem AnswersAs.of_iff {S : Set Nat} (hacc : d.isAccepting i = true ↔ ∃ q ∈ S, m.isAccepting q = true)
    (htok : ∀ t, d.token? i = some t ↔ IsLeast {t | ∃ q ∈ S, m.token? q = some t} t) : AnswersAs m d i S where
  accepting_iff := hacc
  token_eq_some_iff := htok
  token_eq_none_iff := by
    rw [Option.eq_none_iff_forall_ne_some]
    constructor
    · intro hnone q hq
      by_contra hsome
      obtain ⟨t, ht⟩ := Option.ne_none_iff_exists'.1 hsome
      have hne : {t | ∃ q ∈ S, m.token? q = some t}.Nonempty := ⟨t, q, hq, ht⟩
      exact hnone (sInf _) ((htok _).2 ⟨Nat.sInf_mem hne, fun _ => Nat.sInf_le⟩)
    · intro hall t ht
      obtain ⟨q, hq, hqt⟩ := ((htok t).1 ht).1
      rw [hall q hq] at hqt
      cases hqt

/-! ## One state for each set -/

section OfSubsets

variable (hw : m.WellFormed) (hf : Followed m c 0 []) (hsize : c.rows.size = c.sets.size)
include hw hf

/-- the set of a number is not empty, and it is the set of a word -/
theorem members_mem_wordSets (hi : i < c.sets.size) : c.members i ∈ m.wordSets := by
  have hset : c.sets[i]? = some c.sets[i] := Array.getElem?_eq_getElem hi
  obtain ⟨hne, u, hu⟩ := hf.explored.word hset
  obtain ⟨q, hq⟩ := List.exists_mem_of_ne_nil _ hne
  rw [Subsets.members_eq hset]
  refine ⟨⟨q, hq⟩, u, (hu.mem_iff.1 hq).symbol_lt hw, ?_⟩
  ext q
  exact hu.mem_iff.symm

omit hw in
/-- different numbers stand for different sets -/
theorem injOn_members : Set.InjOn c.members {i | i < c.sets.size} := by
  intro i hi j hj he
  have hseti : c.sets[i]? = some c.sets[i] := Array.getElem?_eq_getElem hi
  have hsetj : c.sets[j]? = some c.sets[j] := Array.getElem?_eq_getElem hj
  obtain ⟨-, u, hu⟩ := hf.explored.word hseti
  obtain ⟨-, v, hv⟩ := hf.explored.word hsetj
  rw [Subsets.members_eq hseti, Subsets.members_eq hsetj] at he
  have hsets : c.sets[i] = c.sets[j] := hu.ascending.eq_of_mem_iff hv.ascending (Set.ext_iff.1 he)
  exact getElem?_unique hf.explored.nodup hseti (hsets ▸ hsetj)

include hsize

/-- a word leads to the state of the set behind it -/
theorem members_of_run? (hr : (ofSubsets m c).run? 0 w = some i) : i < c.sets.size ∧ c.members i = m.reached w := by
  have h := run?_ofSubsets (v := w) hw hf hsize hf.explored.first (Subsets.gathers_first hw)
  rw [hr] at h
  obtain ⟨set, hset, hg⟩ := h
  refine ⟨(Array.getElem?_eq_some_iff.1 hset).1, ?_⟩
  rw [Subsets.members_eq hset]
  ext q
  exact hg.mem_iff

/-- a word cannot be read where the set behind it is empty -/
theorem reached_of_run?_eq_none (hr : (ofSubsets m c).run? 0 w = none) : m.reached w = ∅ := by
  have h := run?_ofSubsets (v := w) hw hf hsize hf.explored.first (Subsets.gathers_first hw)
  rw [hr] at h
  exact Set.eq_empty_of_forall_notMem h

/-- one state for each set -/
theorem bijOn_members : Set.BijOn c.members {i | i < c.sets.size} m.wordSets := by
  refine ⟨fun i hi => members_mem_wordSets hw hf hi, injOn_members hf, ?_⟩
  intro S hS
  obtain ⟨hne, w, -, rfl⟩ := hS
  cases hr : (ofSubsets m c).run? 0 w with
  | none =>
    rw [reached_of_run?_eq_none hw hf hsize hr] at hne
    exact absurd hne Set.not_nonempty_empty
  | some i =>
    obtain ⟨hi, he⟩ := members_of_run? hw hf hsize hr
    exact ⟨i, hi, he⟩

end OfSubsets

/-! ## Where words lead -/

/-- what `Determinizes` says of the words that lead to a state, said of their sets -/
theorem Determinizes.answersAs (h : Determinizes m d) (hr : d.run? d.start w = some i) :
    AnswersAs m d i (m.reached w) := by
  apply AnswersAs.of_iff
  · exact h.accepting_iff hr
  · intro t
    exact h.token_iff hr

theorem simulates_ofSubsets (hw : m.WellFormed) (hf : Followed m c 0 []) (hsize : c.rows.size = c.sets.size)
    (h : Determinizes m (ofSubsets m c)) : Simulates m (ofSubsets m c) c.members where
  bijOn := by
    rw [stateCount_ofSubsets hsize]
    exact bijOn_members hw hf hsize
  run_isSome_iff w _ := by
    rw [h.start_eq]
    cases hr : (ofSubsets m c).run? 0 w with
    | none =>
      rw [reached_of_run?_eq_none hw hf hsize hr]
      simp
    | some i =>
      obtain ⟨hi, he⟩ := members_of_run? hw hf hsize hr
      rw [← he]
      exact iff_of_true rfl (members_mem_wordSets hw hf hi).1
  members_run w i _ hr := (members_of_run? hw hf hsize hr).2
  answers_run w i _ hr := h.answersAs hr

/-- **The subset construction is exact.** The exploration of the sets comes to its end, after which more rounds change nothing.
The automaton that it gives moves on symbols only and has no choice, starts in `0`, and has one state for each set in which
the given automaton can be after a word; words lead to the states of their sets, which answer as these do. -/
theorem determinize_exact (hw : m.WellFormed) :
    (Subsets.ofAutomaton m).rows.size = (Subsets.ofAutomaton m).sets.size ∧
      (∀ rounds, 2 ^ m.stateCount ≤ rounds → Subsets.explore m rounds (.initial m) = Subsets.ofAutomaton m) ∧
      ∃ d, m.determinize = .ok d ∧ d.alphabetSize = m.alphabetSize ∧ d.start = 0 ∧ (∀ p q, ¬d.moves p .epsilon q) ∧
        (∀ p s q r, d.moves p (.symbol s) q → d.moves p (.symbol s) r → q = r) ∧
        Simulates m d (Subsets.ofAutomaton m).members := by
  obtain ⟨hf, hsize⟩ := Subsets.exists_explored hw
  obtain ⟨d, hd, h⟩ := determinizes_determinize hw
  obtain rfl : ofSubsets m (.ofAutomaton m) = d := by
    rw [determinize, if_pos hw.start_lt] at hd
    exact Except.ok.inj hd
  refine ⟨hsize, ?_, _, hd, h.alphabetSize_eq, h.start_eq, h.deterministic.1, h.deterministic.2,
    simulates_ofSubsets hw hf hsize h⟩
  intro rounds hle
  rw [Subsets.ofAutomaton_eq] at hsize ⊢
  exact Subsets.explore_of_le hsize hle

/-- three states, of which the first two move to each other without input; two of them have a token type -/
def ring : Automaton :=
  { alphabetSize := 1
    states := #[{ edges := [⟨.epsilon, 1⟩, ⟨.symbol 0, 1⟩, ⟨.symbol 0, 2⟩], token := some 4 },
      { edges := [⟨.epsilon, 0⟩] }, { edges := [], accepting := true, token := some 3 }] }

theorem wellFormed_ring : ring.WellFormed :=
  wellFormed_of_edges (by decide) (by decide)

theorem determinize_exact_ring : ring.WellFormed ∧ ∃ d, ring.determinize = .ok d ∧ d.start = 0 ∧
    Simulates ring d (Subsets.ofAutomaton ring).members := by
  obtain ⟨-, -, d, hd, -, hstart, -, -, h⟩ := determinize_exact wellFormed_ring
  exact ⟨wellFormed_ring, d, hd, hstart, h⟩

end Automaton

end Munch
