/-
What the compilation of an expression adds.

Compilation looks at the number of states of an automaton and at nothing else in it, so it adds to every automaton the moves
that it makes in a bare one, with as many states and no moves (`Regex.added`). From the start to the end of the expression
these moves, and no others, read the symbols of the words that the expression matches.

Results:
- `Over.compile`: compilation in an automaton goes along with compilation where some of its moves are missing.
- `added_iff_of_inRange`: where no move leads to a state that is not there, the added moves are those that were not there.
- `added_reads_iff`: the added moves read the words that the expression matches.
-/
import Mathlib.Tactic
import Munch.Proofs.Automaton.Fragment

namespace Munch

/-- any number of repetitions are compiled as one or more of them, and a way past them -/
theorem Regex.compile_star (a : Alphabet) (x : Regex) (start : Nat) (m : Automaton) :
    (star x).compile a start m = do
      let (stop, m') ← (plus x).compile a start m
      let m' ← m'.connect m.stateCount .epsilon stop
      return (stop, m') := by
  simp only [compile, bind_assoc]
  rfl

namespace Automaton

/-- the automaton with as many states and no moves -/
def bare (m : Automaton) : Automaton :=
  withStates m.stateCount m.alphabetSize

/-- `m` has as many states as `n`, the moves of `n` and, besides, those of `base` -/
structure Over (base : Moves) (n m : Automaton) : Prop where
  stateCount_eq : m.stateCount = n.stateCount
  moves_iff : ∀ p l q, m.moves p l q ↔ base p l q ∨ n.moves p l q

@[simp] theorem stateCount_bare (m : Automaton) : m.bare.stateCount = m.stateCount := by
  simp [bare, withStates, stateCount]

theorem edges_withStates (count k p : Nat) : (withStates count k).edges p = [] := by
  by_cases hp : p < count
  · simp [withStates, edges, edges?, hp]
  · simp [withStates, edges, edges?, hp]

theorem not_moves_withStates (count k p : Nat) (l : Label) (q : Nat) : ¬(withStates count k).moves p l q := by
  rw [moves, edges_withStates]
  exact List.not_mem_nil

theorem not_moves_bare (m : Automaton) (p : Nat) (l : Label) (q : Nat) : ¬m.bare.moves p l q :=
  not_moves_withStates _ _ p l q

namespace Over

variable {base : Moves} {n m n' : Automaton} {a : Alphabet} {p q start stop : Nat} {l : Label}

theorem of_bare (m : Automaton) : Over m.moves m.bare m where
  stateCount_eq := (stateCount_bare m).symm
  moves_iff p l q := by simp [not_moves_bare]

theorem addState (h : Over base n m) : Over base n.addState m.addState where
  stateCount_eq := by simp [h.stateCount_eq]
  moves_iff p l q := by
    have := h.moves_iff p l q
    simpa [moves] using this

theorem addEdge (h : Over base n m) (hp : p < n.stateCount) : Over base (n.addEdge p l q) (m.addEdge p l q) where
  stateCount_eq := by simp [h.stateCount_eq]
  moves_iff p' l' q' := by
    have := h.moves_iff p' l' q'
    rw [moves] at this
    rw [moves, moves, mem_edges_addEdge (h.stateCount_eq ▸ hp), mem_edges_addEdge hp, this]
    exact or_left_comm

/-- a move that can be added to the smaller automaton can be added to the larger one -/
theorem connect (h : Over base n m) (hn : n.connect p l q = .ok n') :
    ∃ m', m.connect p l q = .ok m' ∧ Over base n' m' := by
  obtain ⟨hp, rfl⟩ := of_connect_eq_ok hn
  exact ⟨_, connect_eq_ok (h.stateCount_eq ▸ hp), h.addEdge hp⟩

/-- steps that go along one by one go along one after the other -/
theorem foldlM {α : Type} {f : Automaton → α → Except Fault Automaton}
    (hf : ∀ {n m n' x}, Over base n m → f n x = .ok n' → ∃ m', f m x = .ok m' ∧ Over base n' m') {xs : List α}
    (h : Over base n m) (hn : xs.foldlM f n = .ok n') : ∃ m', xs.foldlM f m = .ok m' ∧ Over base n' m' := by
  induction xs generalizing n m with
  | nil =>
    cases hn
    exact ⟨m, rfl, h⟩
  | cons x xs ih =>
    obtain ⟨n1, h1, hrest⟩ := exists_of_bind_eq_ok hn
    obtain ⟨m1, hm1, h1⟩ := hf h h1
    obtain ⟨m', hm', h'⟩ := ih h1 hrest
    refine ⟨m', ?_, h'⟩
    rw [List.foldlM_cons, hm1]
    exact hm'

theorem connectAll {symbols : List Nat} (h : Over base n m) (hn : n.connectAll p symbols q = .ok n') :
    ∃ m', m.connectAll p symbols q = .ok m' ∧ Over base n' m' := by
  refine foldlM ?_ h hn
  intro n m n' s h hn
  exact h.connect hn

theorem connectSet {is : List Interval} (h : Over base n m) (hn : n.connectSet a p is q = .ok n') :
    ∃ m', m.connectSet a p is q = .ok m' ∧ Over base n' m' := by
  refine foldlM ?_ h hn
  intro n m n' i h hn
  obtain ⟨symbols, hsymbols, hn⟩ := exists_of_bind_eq_ok hn
  obtain ⟨m', hm', h'⟩ := h.connectAll hn
  refine ⟨m', ?_, h'⟩
  rw [hsymbols]
  exact hm'

/-- the steps of a repetition go along, if those of its body do -/
theorem compile_plus {x : Regex} (hx : ∀ {start stop n m n'}, Over base n m → x.compile a start n = .ok (stop, n') →
    ∃ m', x.compile a start m = .ok (stop, m') ∧ Over base n' m') (h : Over base n m)
    (hn : (Regex.plus x).compile a start n = .ok (stop, n')) :
    ∃ m', (Regex.plus x).compile a start m = .ok (stop, m') ∧ Over base n' m' := by
  obtain ⟨n1, h1, hn⟩ := exists_of_bind_eq_ok hn
  obtain ⟨⟨last, n2⟩, h2, hn⟩ := exists_of_bind_eq_ok hn
  obtain ⟨n3, h3, hn⟩ := exists_of_bind_eq_ok hn
  obtain ⟨n4, h4, hend⟩ := exists_of_bind_eq_ok hn
  cases hend
  obtain ⟨m1, hm1, h1⟩ := h.addState.connect h1
  obtain ⟨m2, hm2, h2⟩ := hx h1 h2
  obtain ⟨m3, hm3, h3⟩ := h2.addState.connect h3
  obtain ⟨m4, hm4, h4⟩ := h3.connect h4
  refine ⟨m4, ?_, h4⟩
  simp only [Regex.compile, bind, Except.bind, h.stateCount_eq, hm1, hm2, h2.stateCount_eq, hm3, hm4]
  rfl

/-- the compilation of an expression goes along, step by step -/
theorem compile {r : Regex} (h : Over base n m) (hn : r.compile a start n = .ok (stop, n')) :
    ∃ m', r.compile a start m = .ok (stop, m') ∧ Over base n' m' := by
  induction r generalizing start stop n m n' with
  | set is =>
    obtain ⟨n1, h1, hend⟩ := exists_of_bind_eq_ok hn
    cases hend
    obtain ⟨m1, hm1, h1⟩ := h.addState.connectSet h1
    refine ⟨m1, ?_, h1⟩
    simp only [Regex.compile, bind, Except.bind, h.stateCount_eq, hm1]
    rfl
  | cat x y ihx ihy =>
    obtain ⟨⟨middle, n1⟩, h1, h2⟩ := exists_of_bind_eq_ok hn
    obtain ⟨m1, hm1, h1⟩ := ihx h h1
    obtain ⟨m2, hm2, h2⟩ := ihy h1 h2
    refine ⟨m2, ?_, h2⟩
    simp only [Regex.compile, bind, Except.bind, hm1, hm2]
  | alt x y ihx ihy =>
    obtain ⟨n1, h1, hn⟩ := exists_of_bind_eq_ok hn
    obtain ⟨n2, h2, hn⟩ := exists_of_bind_eq_ok hn
    obtain ⟨⟨leftStop, n3⟩, h3, hn⟩ := exists_of_bind_eq_ok hn
    obtain ⟨⟨rightStop, n4⟩, h4, hn⟩ := exists_of_bind_eq_ok hn
    obtain ⟨n5, h5, hn⟩ := exists_of_bind_eq_ok hn
    obtain ⟨n6, h6, hend⟩ := exists_of_bind_eq_ok hn
    cases hend
    obtain ⟨m1, hm1, h1⟩ := h.addState.addState.connect h1
    obtain ⟨m2, hm2, h2⟩ := h1.connect h2
    obtain ⟨m3, hm3, h3⟩ := ihx h2 h3
    obtain ⟨m4, hm4, h4⟩ := ihy h3 h4
    obtain ⟨m5, hm5, h5⟩ := h4.addState.connect h5
    obtain ⟨m6, hm6, h6⟩ := h5.connect h6
    refine ⟨m6, ?_, h6⟩
    simp only [Regex.compile, bind, Except.bind, h.stateCount_eq, hm1, hm2, hm3, hm4, h4.stateCount_eq, hm5, hm6]
    rfl
  | star x ih =>
    rw [Regex.compile_star] at hn
    obtain ⟨⟨stop, n1⟩, h1, hn⟩ := exists_of_bind_eq_ok hn
    obtain ⟨n2, h2, hend⟩ := exists_of_bind_eq_ok hn
    cases hend
    obtain ⟨m1, hm1, h1⟩ := h.compile_plus ih h1
    obtain ⟨m2, hm2, h2⟩ := h1.connect h2
    refine ⟨m2, ?_, h2⟩
    simp only [Regex.compile_star, bind, Except.bind, h.stateCount_eq, hm1, hm2]
    rfl
  | plus x ih => exact h.compile_plus ih hn
  | opt x ih =>
    obtain ⟨⟨stop, n1⟩, h1, hn⟩ := exists_of_bind_eq_ok hn
    obtain ⟨n2, h2, hend⟩ := exists_of_bind_eq_ok hn
    cases hend
    obtain ⟨m1, hm1, h1⟩ := ih h h1
    obtain ⟨m2, hm2, h2⟩ := h1.connect h2
    refine ⟨m2, ?_, h2⟩
    simp only [Regex.compile, bind, Except.bind, hm1, hm2]
    rfl

end Over

end Automaton

namespace Regex

open Automaton (Over)

variable {r : Regex} {a : Alphabet} {m n : Automaton} {start stop p q : Nat} {l : Label}

/-- the moves that the compilation of an expression adds to an automaton: those that it makes where there are none -/
def added (a : Alphabet) (r : Regex) (start : Nat) (m : Automaton) : Moves :=
  fun p l q => ∃ stop n, r.compile a start m.bare = .ok (stop, n) ∧ n.moves p l q

theorem added_iff (h : r.compile a start m.bare = .ok (stop, n)) : r.added a start m p l q ↔ n.moves p l q := by
  constructor
  · intro hadded
    obtain ⟨stop', n', h', hmoves⟩ := hadded
    rw [h] at h'
    cases h'
    exact hmoves
  · intro hmoves
    exact ⟨stop, n, h, hmoves⟩

/-- compilation adds a piece that reads what the expression spells -/
theorem exists_added (hr : r.TiledBy a) (hs : start < m.stateCount) :
    ∃ stop m' hi, r.compile a start m = .ok (stop, m') ∧ Piece (r.added a start m) start stop m.stateCount hi ∧
      (∀ p l q, m'.moves p l q ↔ m.moves p l q ∨ r.added a start m p l q) ∧
      ∀ v, Path (r.added a start m) start v stop ↔ r.Spells a v := by
  obtain ⟨stop, n, F, hn, hF⟩ := compiles_of_tiledBy hr (m := m.bare) (by rwa [Automaton.stateCount_bare])
  obtain ⟨m', hm', hover⟩ := (Over.of_bare m).compile hn
  have hadded : r.added a start m = F := by
    ext p l q
    rw [added_iff hn, hF.moves, or_iff_right (Automaton.not_moves_bare m p l q)]
  have hpiece := hF.piece
  rw [Automaton.stateCount_bare] at hpiece
  refine ⟨stop, m', n.stateCount, hm', by rwa [hadded], ?_, by rw [hadded]; exact hF.reads⟩
  intro p l q
  rw [hover.moves_iff, added_iff hn]

/-- where no move leads to a state that is not there, the added moves are those that were not there -/
theorem added_iff_of_inRange {m' : Automaton} {hi : Nat} (hp : Piece (r.added a start m) start stop m.stateCount hi)
    (hm' : ∀ p l q, m'.moves p l q ↔ m.moves p l q ∨ r.added a start m p l q)
    (hlt : ∀ p l q, m.moves p l q → q < m.stateCount) :
    r.added a start m p l q ↔ m'.moves p l q ∧ ¬m.moves p l q := by
  rw [hm']
  constructor
  · intro hadded
    refine ⟨Or.inr hadded, ?_⟩
    intro hold
    have := hlt p l q hold
    have := hp.target hadded
    omega
  · intro h
    exact h.1.resolve_left h.2

/-- **Compilation adds what the expression matches.** Over an alphabet in order that tiles an expression, the expression is
compiled from any state of any automaton on. For every word whose code points have symbols, the moves that are added lead
from the start of the expression to its end on these symbols if and only if the expression matches the word. -/
theorem added_reads_iff (ho : a.Ordered) (hr : r.TiledBy a) (hs : start < m.stateCount) :
    ∃ stop m', r.compile a start m = .ok (stop, m') ∧
      (∀ p l q, m'.moves p l q ↔ m.moves p l q ∨ r.added a start m p l q) ∧
      ((∀ p l q, m.moves p l q → q < m.stateCount) →
        ∀ p l q, r.added a start m p l q ↔ m'.moves p l q ∧ ¬m.moves p l q) ∧
      ∀ w v, a.word? w = some v → (Path (r.added a start m) start v stop ↔ r.Matches w) := by
  obtain ⟨stop, m', hi, hm', hp, hmoves, hreads⟩ := exists_added hr hs
  refine ⟨stop, m', hm', hmoves, ?_, ?_⟩
  · intro hlt p l q
    exact added_iff_of_inRange hp hmoves hlt
  · intro w v hv
    rw [hreads, matches_iff_spells ho hr]
    simp [hv]

/-- loops over operands that match the empty word, and a set of nothing -/
def knots : Regex :=
  .star (.alt (.plus (.opt (.set []))) (.plus (.star (.set [⟨0x61, 0x63, by decide⟩]))))

/-- two states and a move back from the second one -/
def back : Automaton :=
  (Automaton.withStates 2 1).addEdge 1 .epsilon 0

/-- an alphabet that has a symbol more than the expression -/
def knotsAlphabet : Alphabet :=
  .ofIntervals (.single 'd' :: knots.intervals)

theorem matches_knots {c : Nat} (hc : 0x61 ≤ c ∧ c ≤ 0x63) : knots.Matches [c] := by
  have hset : Matches (.set [⟨0x61, 0x63, by decide⟩]) [c] :=
    .set ⟨_, List.mem_singleton_self _, Interval.contains_iff.2 hc⟩
  have hloop : Matches (.plus (.star (.set [⟨0x61, 0x63, by decide⟩]))) [c] :=
    .plus (u := [c]) (.starCons (u := [c]) hset .starNil) .starNil
  exact .starCons (u := [c]) (.altRight hloop) .starNil

theorem not_matches_knots {c : Nat} (hc : 0x63 < c) : ¬knots.Matches [c] := by
  intro h
  obtain ⟨is, his, i, hi, hic⟩ := Lang.exists_atom h (List.mem_singleton_self c)
  rw [Interval.contains_iff] at hic
  simp only [knots, sets, List.singleton_append, List.mem_cons, List.not_mem_nil, or_false] at his
  rcases his with rfl | rfl
  · cases hi
  · obtain rfl := List.mem_singleton.1 hi
    simp only at hic
    omega

theorem inRange_back (p : Nat) (l : Label) (q : Nat) (h : back.moves p l q) : q < back.stateCount := by
  rw [Automaton.moves, back, Automaton.mem_edges_addEdge (by decide)] at h
  rcases h with ⟨-, he⟩ | h
  · cases he
    decide
  · exact absurd h (Automaton.not_moves_withStates 2 1 p l q)

theorem exists_word_knotsAlphabet {c : Nat} (hc : ∃ i ∈ Interval.single 'd' :: knots.intervals, i.contains c = true) :
    ∃ v, knotsAlphabet.word? [c] = some v := by
  obtain ⟨i, hi, hic⟩ := hc
  obtain ⟨symbols, -, -, hcontains⟩ := Alphabet.exists_symbols_of_mem hi
  obtain ⟨s, -, hs⟩ := (hcontains c).1 hic
  refine ⟨[s], ?_⟩
  rw [knotsAlphabet, Alphabet.word?_cons, hs]
  rfl

/-- a letter of the set leads to the end, and a letter that is only in the alphabet does not -/
theorem added_reads_iff_knots : knotsAlphabet.Ordered ∧ knots.TiledBy knotsAlphabet ∧ 1 < back.stateCount ∧
    ∃ stop m', knots.compile knotsAlphabet 1 back = .ok (stop, m') ∧
      (∀ p l q, knots.added knotsAlphabet 1 back p l q ↔ m'.moves p l q ∧ ¬back.moves p l q) ∧
      (∃ v, knotsAlphabet.word? [0x62] = some v ∧ Path (knots.added knotsAlphabet 1 back) 1 v stop) ∧
      ∃ v, knotsAlphabet.word? [0x64] = some v ∧ ¬Path (knots.added knotsAlphabet 1 back) 1 v stop := by
  have ho : knotsAlphabet.Ordered := Alphabet.ordered_ofIntervals _
  have ht : knots.TiledBy knotsAlphabet := tiledBy_ofIntervals fun i hi => List.mem_cons_of_mem _ hi
  have hs : 1 < back.stateCount := by decide
  obtain ⟨stop, m', hm', -, hnew, hreads⟩ := added_reads_iff ho ht hs
  obtain ⟨b, hb⟩ := exists_word_knotsAlphabet (c := 0x62) (by decide)
  obtain ⟨d, hd⟩ := exists_word_knotsAlphabet (c := 0x64) (by decide)
  refine ⟨ho, ht, hs, stop, m', hm', hnew inRange_back, ⟨b, hb, ?_⟩, d, hd, ?_⟩
  · exact (hreads _ b hb).2 (matches_knots (by decide))
  · intro hpath
    exact not_matches_knots (by decide) ((hreads _ d hd).1 hpath)

end Regex

end Munch
