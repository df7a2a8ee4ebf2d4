/-
The numbers of states.

`Automaton.search` is a breadth-first search: the states that were found wait in a queue, the first one is taken out, and its
moves are followed in the order of their symbols. The error state is not looked at. In a finished lexer the states have the
numbers in which the search finds them, so that after some steps the states up to a number are found, and of these the last
ones wait.

Results:
- `Follows.step_eq_of_lt`: a state that is new to the search has the next number.
- `Follows.discover`, `Follows.expand`: so one symbol, and one step of the search, keeps the order.
- `Canonical.search_eq`: the search of a canonical automaton.
- `states_numbered`: the states of a lexer.
-/
import Mathlib.Tactic
import Munch.Proofs.Lexer.Tables

namespace Munch

namespace Automaton

/-! ## A breadth-first search -/

/-- a search: the states that wait to be looked at, and all that were found, in the order in which they were -/
structure Search where
  queue : List Nat
  found : List Nat
  deriving DecidableEq, Repr

/-- follow a symbol from a state; what is found for the first time, and is not the error state, is put at the end -/
def discover (m : Automaton) (q : Nat) (s : Search) (a : Nat) : Search :=
  match m.target? q a with
  | none => s
  | some r =>
    if m.errorState = some r ∨ r ∈ s.found then s else { queue := s.queue ++ [r], found := s.found ++ [r] }

/-- look at the first state that waits: follow all symbols from it, in ascending order -/
def expand (m : Automaton) (s : Search) : Search :=
  match s.queue with
  | [] => s
  | q :: queue => (List.range m.alphabetSize).foldl (m.discover q) { s with queue := queue }

/-- a number of steps of the search from the start state -/
def search (m : Automaton) : Nat → Search
  | 0 => { queue := [m.start], found := [m.start] }
  | count + 1 => m.expand (m.search count)

open Subsets (Before before_succ)

variable {m : Automaton} {q a f : Nat} {s : Search}

/-- what is known when the states before `q` were looked at, and of `q` the symbols before `a`: the states up to `f` are
found, those behind `q` wait, and all moves that were followed lead to these states -/
structure Follows (m : Automaton) (q a f : Nat) (s : Search) : Prop where
  queue : s.queue = List.range' (q + 1) (f - q)
  found : s.found = List.range' 1 f
  le : q ≤ f
  lt : f < m.stateCount
  closed : ∀ {i b j}, 1 ≤ i → Before i b q a → m.moves i (.symbol b) j → j ≤ f

/-- in front of the end of a row are the moves of its state and of the states before -/
theorem before_end {i b k : Nat} (hi : i ≤ q) (hb : b < k) : Before i b q k := by
  unfold Before
  omega

theorem before_start {i b : Nat} (h : Before i b (q + 1) 0) : i ≤ q := by
  unfold Before at h
  omega

/-- one more state at the end of a list of successive numbers -/
theorem range'_snoc {i n : Nat} (h : i ≤ n) : List.range' i (n - i) ++ [n] = List.range' i (n + 1 - i) := by
  rw [Nat.sub_add_comm h, List.range'_concat, Nat.one_mul, Nat.add_sub_cancel' h]

namespace Follows

variable (h : m.Canonical)
include h

/-- a state that is new to the search has the next number: one that was left out would have been found before -/
theorem step_eq_of_lt (hs : m.Follows q a f s) (hq : 1 ≤ q) (ha : a < m.alphabetSize) (hnew : f < m.step q a) :
    m.step q a = f + 1 := by
  by_contra hne
  have hmove : m.moves q (.symbol a) (m.step q a) := h.moves_iff.2 ⟨hs.le.trans_lt hs.lt, ha, rfl⟩
  have hf : 1 ≤ f := hq.trans hs.le
  obtain ⟨i, b, hi, hb, hmv⟩ := h.numbered.order (h := f + 1) hq hmove (Nat.lt_succ_of_le hf) (by omega)
  exact absurd (hs.closed hi hb hmv) (Nat.not_succ_le_self f)

/-- what is known of the moves when one more symbol is followed -/
theorem closed_succ (hs : m.Follows q a f s) {f' : Nat} (hf : f ≤ f') (hstep : m.step q a ≤ f') {i b j : Nat}
    (hi : 1 ≤ i) (hb : Before i b q (a + 1)) (hmv : m.moves i (.symbol b) j) : j ≤ f' := by
  rcases before_succ.1 hb with hb | ⟨rfl, rfl⟩
  · exact (hs.closed hi hb hmv).trans hf
  · obtain ⟨-, -, rfl⟩ := h.moves_iff.1 hmv
    exact hstep

/-- one symbol: the state that it leads to was found before, or it is put behind those that were -/
theorem discover (hs : m.Follows q a f s) (hq : 1 ≤ q) (ha : a < m.alphabetSize) :
    ∃ f', m.Follows q (a + 1) f' (m.discover q s a) := by
  have hlt : q < m.stateCount := hs.le.trans_lt hs.lt
  have hold : m.errorState = some (m.step q a) ∨ m.step q a ∈ s.found ↔ m.step q a ≤ f := by
    rw [h.error_eq, hs.found, List.mem_range'_1, Option.some.injEq]
    omega
  rw [Automaton.discover, h.complete.target?_eq hlt ha]
  simp only [hold]
  split_ifs with hle
  · exact ⟨f, hs.queue, hs.found, hs.le, hs.lt, hs.closed_succ h le_rfl hle⟩
  · have hnext := hs.step_eq_of_lt h hq ha (Nat.lt_of_not_le hle)
    refine ⟨f + 1, ?_, ?_, hs.le.trans (Nat.le_succ f), hnext ▸ h.complete.step_lt hlt ha,
      hs.closed_succ h (Nat.le_succ f) hnext.le⟩
    · calc s.queue ++ [m.step q a] = List.range' (q + 1) (f + 1 - (q + 1)) ++ [f + 1] := by
            rw [hs.queue, hnext, Nat.add_sub_add_right]
        _ = List.range' (q + 1) (f + 1 + 1 - (q + 1)) := range'_snoc (Nat.succ_le_succ hs.le)
        _ = List.range' (q + 1) (f + 1 - q) := by rw [Nat.add_sub_add_right]
    · calc s.found ++ [m.step q a] = List.range' 1 (f + 1 - 1) ++ [f + 1] := by
            rw [hs.found, hnext, Nat.add_sub_cancel]
        _ = List.range' 1 (f + 1) := range'_snoc (Nat.le_add_left 1 f)

/-- all symbols of a state -/
theorem discoverAll (hs : m.Follows q 0 f s) (hq : 1 ≤ q) (ha : a ≤ m.alphabetSize) :
    ∃ f', m.Follows q a f' ((List.range a).foldl (m.discover q) s) := by
  induction a with
  | zero => exact ⟨f, hs⟩
  | succ a ih =>
    obtain ⟨f', hs'⟩ := ih (Nat.le_of_succ_le ha)
    rw [List.range_succ, List.foldl_append, List.foldl_cons, List.foldl_nil]
    exact hs'.discover h hq ha

/-- the next state waits, unless all have been looked at -/
theorem succ_le (hs : m.Follows q m.alphabetSize f s) (hstart : 1 ≤ f) (hq : q + 1 < m.stateCount) : q + 1 ≤ f := by
  rcases Nat.eq_zero_or_pos q with rfl | hpos
  · exact hstart
  · obtain ⟨i, b, hi, hiq, hmv⟩ := h.numbered.found (j := q + 1) (by omega) hq
    exact hs.closed hi (before_end (Nat.le_of_lt_succ hiq) (h.moves_iff.1 hmv).2.1) hmv

/-- one step of the search -/
theorem expand (hs : m.Follows q m.alphabetSize f s) (hstart : 1 ≤ f) (hq : q + 1 < m.stateCount) :
    ∃ f', 1 ≤ f' ∧ m.Follows (q + 1) m.alphabetSize f' (m.expand s) := by
  have hle := hs.succ_le h hstart hq
  have hqueue : s.queue = (q + 1) :: List.range' (q + 2) (f - (q + 1)) := by
    rw [hs.queue, show f - q = f - (q + 1) + 1 by omega, List.range'_succ]
  have hopen : m.Follows (q + 1) 0 f { s with queue := List.range' (q + 2) (f - (q + 1)) } := by
    refine ⟨rfl, hs.found, hle, hs.lt, ?_⟩
    intro i b j hi hb hmv
    exact hs.closed hi (before_end (before_start hb) (h.moves_iff.1 hmv).2.1) hmv
  obtain ⟨f', hs'⟩ := hopen.discoverAll h (Nat.le_add_left 1 q) le_rfl
  refine ⟨f', (Nat.le_add_left 1 q).trans hs'.le, ?_⟩
  rw [Automaton.expand, hqueue]
  exact hs'

end Follows

namespace Canonical

variable (h : m.Canonical)
include h

/-- as many steps as there are numbers up to `q` -/
theorem follows_search (hone : 1 < m.stateCount) (hq : q < m.stateCount) :
    ∃ f, 1 ≤ f ∧ m.Follows q m.alphabetSize f (m.search q) := by
  induction q with
  | zero =>
    have hstart : m.start = 1 := h.start_eq.resolve_left hone.ne'
    refine ⟨1, le_rfl, ?_, ?_, Nat.zero_le 1, hone, ?_⟩
    · simp [search, hstart]
    · simp [search, hstart]
    · intro i b j hi hb
      unfold Before at hb
      omega
  | succ q ih =>
    obtain ⟨f, hf, hs⟩ := ih (Nat.lt_of_succ_lt hq)
    exact hs.expand h hf hq

/-- the search looks at all states but the error state, and finds them in the order of their numbers -/
theorem search_eq (hone : 1 < m.stateCount) {count : Nat} (hcount : m.stateCount ≤ count + 1) :
    m.search count = { queue := [], found := List.range' 1 (m.stateCount - 1) } := by
  obtain ⟨k, rfl⟩ : ∃ k, count = m.stateCount - 1 + k := Nat.exists_eq_add_of_le (by omega)
  clear hcount
  induction k with
  | zero =>
    obtain ⟨f, -, hs⟩ := h.follows_search hone (q := m.stateCount - 1) (by omega)
    obtain rfl : m.stateCount - 1 = f := Nat.le_antisymm hs.le (Nat.le_sub_one_of_lt hs.lt)
    have hqueue := hs.queue
    rw [Nat.sub_self] at hqueue
    rw [Nat.add_zero, ← hs.found, ← List.range'_zero, ← hqueue]
  | succ k ih => rw [← Nat.add_assoc, search, ih, expand]

end Canonical

end Automaton

namespace Definition

variable {d : Description Regex} {l : Definition}

/-- **Breadth-first numbers.** The error state of every lexer is `0`. If there are more states, the lexer starts in `1`, and
a breadth-first search from there finds the states behind the error state in the order `1, 2, 3` and so on, and then has
nothing left to look at. -/
theorem states_numbered (hb : build d = .ok l) : l.errorState = 0 ∧ l.automaton.errorState = some 0 ∧
    (1 < l.automaton.stateCount → l.automaton.start = 1 ∧ ∀ count, l.automaton.stateCount ≤ count + 1 →
      l.automaton.search count = { queue := [], found := List.range' 1 (l.automaton.stateCount - 1) }) := by
  have h := built_of_build hb
  refine ⟨h.errorState_eq, h.canonical.error_eq, ?_⟩
  intro hone
  refine ⟨h.canonical.start_eq.resolve_left hone.ne', ?_⟩
  intro count hcount
  exact h.canonical.search_eq hone hcount

/-- a lexer with a token has a state behind its error state -/
theorem states_numbered_letters : ∃ l, build letters = .ok l ∧ 1 < l.automaton.stateCount ∧ l.automaton.start = 1 ∧
    l.automaton.search l.automaton.stateCount =
      { queue := [], found := List.range' 1 (l.automaton.stateCount - 1) } := by
  obtain ⟨l, hb, h⟩ := exists_build (d := letters) (by decide)
  obtain ⟨-, -, hnumbered⟩ := states_numbered hb
  have hname : l.modeNames[0]? = some "text" := by
    rw [h.modeNames_eq]
    rfl
  have hone : 1 < l.automaton.stateCount := by
    by_contra hle
    have hlt := h.follow_lt (h.modeStart_lt hname) [97]
    have hfollow : l.follow (l.automaton.step l.automaton.start 0) [97] = 0 := by omega
    have haccepting := (h.accepting_follow_iff hname [97]).2 ⟨0, _, rfl, .set ⟨_, List.mem_singleton_self _, by decide⟩⟩
    rw [hfollow, h.canonical.isAccepting_zero] at haccepting
    cases haccepting
  obtain ⟨hstart, hsearch⟩ := hnumbered hone
  exact ⟨l, hb, hone, hstart, hsearch _ (Nat.le_succ _)⟩

end Definition

end Munch
