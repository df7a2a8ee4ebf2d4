/-
Automata as the moves that were added to them.

An automaton begins with some states and no moves, and gets more states and moves in any order (`Addition`, `addAll`). The
moves that were added are a relation (`Addition.moves`), which keeps neither their order nor how often each one was added.
`Reflects` says that an automaton answers what is asked of it as such a relation does. No question looks at all moves: those
without input are taken from the front of the edges of a state, those on a symbol from a range of them, a choice of moves is
looked for between neighbours, and the moves of a state are counted instead of looked up one by one.

Results:
- `extends_addAll`: additions that fit are made one after the other, and add the moves that were asked for and no other.
- `transitions_ascend`, `ascend_on`: the list of all moves is in order, and so are the targets on each label.
- `targets_eq_between`: the moves on a symbol are the edges from the one to state `0` to the one to the last state.
- `addAll_reflects`: an automaton that is made by additions reflects the moves that were added.
-/
import Mathlib.Tactic
import Munch.Proofs.Automaton.Compilation
import Munch.Proofs.Automaton.Run

namespace Munch

/-- the edges of a list from one edge to another, these two included -/
def Edge.between (lower upper : Edge) (es : List Edge) : List Edge :=
  es.filter fun e => ¬e.before lower ∧ ¬upper.before e

namespace Automaton

/-! ## Additions -/

/-- what is added to an automaton: a state, or a move from `p` to `q` -/
inductive Addition where
  | state
  | move (p : Nat) (l : Label) (q : Nat)
  deriving DecidableEq, Repr

namespace Addition

/-- the moves that are added -/
def moves (xs : List Addition) : Moves :=
  fun p l q => move p l q ∈ xs

/-- additions to an automaton with `n` states over `k` symbols in which each move leaves a state that is there by then, and
reads a symbol of the alphabet if it reads one; where it leads is not asked -/
def Fit (k : Nat) : Nat → List Addition → Prop
  | _, [] => True
  | n, state :: xs => Fit k (n + 1) xs
  | n, move p l _ :: xs => p < n ∧ (∀ a ∈ l.letters, a < k) ∧ Fit k n xs

instance Fit.decidable (k : Nat) : (n : Nat) → (xs : List Addition) → Decidable (Fit k n xs)
  | _, [] => .isTrue trivial
  | n, state :: xs => Fit.decidable k (n + 1) xs
  | n, move p l _ :: xs =>
    have := Fit.decidable k n xs
    inferInstanceAs (Decidable (p < n ∧ (∀ a ∈ l.letters, a < k) ∧ Fit k n xs))

theorem Fit.symbol_lt {k n p s q : Nat} {xs : List Addition} (h : Fit k n xs) (hm : moves xs p (.symbol s) q) : s < k := by
  induction xs generalizing n with
  | nil => cases hm
  | cons x xs ih =>
    cases x with
    | state =>
      rcases List.mem_cons.1 hm with heq | hm
      · cases heq
      · exact ih h hm
    | move p' l' q' =>
      obtain ⟨-, hl, hrest⟩ := h
      rcases List.mem_cons.1 hm with heq | hm
      · cases heq
        exact hl s (List.mem_singleton_self s)
      · exact ih hrest hm

end Addition

/-- the automaton with one more state or move -/
def add (m : Automaton) : Addition → Except Fault Automaton
  | .state => .ok m.addState
  | .move p l q => m.connect p l q

/-- the automaton with more states and moves, added one after the other -/
def addAll (m : Automaton) (xs : List Addition) : Except Fault Automaton :=
  xs.foldlM add m

variable {m : Automaton} {F : Moves} {k p q s : Nat} {xs : List Addition}

/-- one addition that fits is made, and the rest of them fit then -/
theorem extends_add {x : Addition} (h : Addition.Fit k m.stateCount (x :: xs)) :
    ∃ m', m.add x = .ok m' ∧ m'.stateCount = m.stateCount + [x].count .state ∧ Extends m m' (Addition.moves [x]) ∧
      Addition.Fit k m'.stateCount xs := by
  cases x with
  | state =>
    refine ⟨m.addState, rfl, stateCount_addState m, (Extends.addState m).congr ?_, ?_⟩
    · intro p l q
      simp [Addition.moves]
    · rw [stateCount_addState]
      exact h
  | move p l q =>
    obtain ⟨hp, -, hrest⟩ := h
    obtain ⟨m', hm', hcount, hext⟩ := Extends.connect hp l q
    refine ⟨m', hm', hcount, hext.congr ?_, hcount ▸ hrest⟩
    intro p' l' q'
    simp [Addition.moves, arc]

/-- additions that fit are made, and add the moves that were asked for -/
theorem extends_addAll (h : Addition.Fit k m.stateCount xs) :
    ∃ m', m.addAll xs = .ok m' ∧ m'.stateCount = m.stateCount + xs.count .state ∧
      Extends m m' (Addition.moves xs) := by
  induction xs generalizing m with
  | nil =>
    refine ⟨m, rfl, rfl, (Extends.refl m).congr ?_⟩
    intro p l q
    simp [Addition.moves]
  | cons x xs ih =>
    obtain ⟨m1, hm1, hcount1, hext1, hrest⟩ := extends_add h
    obtain ⟨m2, hm2, hcount2, hext2⟩ := ih hrest
    refine ⟨m2, ?_, ?_, (hext1.trans hext2).congr ?_⟩
    · rw [addAll, List.foldlM_cons, hm1]
      exact hm2
    · rw [hcount2, hcount1, ← List.singleton_append (l := xs), List.count_append, Nat.add_assoc]
    · intro p l q
      show _ ∈ [x] ∨ _ ∈ xs ↔ _ ∈ x :: xs
      rw [← List.mem_append, List.singleton_append]

/-! ## Lists in order -/

/-- the order of moves: by the state that is left, then by what is read, no input first, and then by the target -/
def Precedes (t u : Nat × Edge) : Prop :=
  t.1 < u.1 ∨ t.1 = u.1 ∧ (t.2.label.rank < u.2.label.rank ∨ t.2.label.rank = u.2.label.rank ∧ t.2.target < u.2.target)

instance asymm_precedes : Std.Asymm Precedes where
  asymm t u hlt hlt' := by
    unfold Precedes at hlt hlt'
    omega

theorem transitions_ascend (h : m.Ascending) : m.transitions.Pairwise Precedes := by
  rw [transitions, List.pairwise_flatMap]
  constructor
  · intro q _
    rw [List.pairwise_map]
    refine (h q).imp ?_
    intro e f hb
    exact Or.inr ⟨rfl, Edge.before_iff.1 hb⟩
  · refine List.pairwise_lt_range.imp ?_
    intro p q hpq t ht u hu
    obtain ⟨e, -, rfl⟩ := List.mem_map.1 ht
    obtain ⟨f, -, rfl⟩ := List.mem_map.1 hu
    exact Or.inl hpq

/-- edges with one label are in the order of their targets -/
theorem ascend_on (h : m.Ascending) (q : Nat) (l : Label) :
    (((m.edges q).filter fun e => e.label == l).map Edge.target).Pairwise (· < ·) := by
  rw [List.pairwise_map]
  refine ((h q).filter _).imp_of_mem ?_
  intro e f he hf hb
  have hel : e.label = l := beq_iff_eq.1 (List.mem_filter.1 he).2
  have hfl : f.label = l := beq_iff_eq.1 (List.mem_filter.1 hf).2
  rw [Edge.before_iff, hel, hfl] at hb
  omega

/-- the moves on a symbol are those between the least and the greatest edge that there could be -/
theorem targets_eq_between {limit : Nat} (h : m.Ascending) (hlimit : ∀ r, m.moves q (.symbol s) r → r ≤ limit) :
    m.targets q s = (Edge.between ⟨.symbol s, 0⟩ ⟨.symbol s, limit⟩ (m.edges q)).map Edge.target := by
  rw [targets_eq h, Edge.between]
  congr 1
  refine List.filter_congr ?_
  rintro ⟨l, r⟩ he
  rw [Bool.eq_iff_iff, beq_iff_eq, decide_eq_true_iff, Edge.before_iff, Edge.before_iff]
  constructor
  · intro hl
    have := hlimit r (hl ▸ he)
    simp only at hl
    subst hl
    simp only
    omega
  · rintro ⟨hlower, hupper⟩
    apply Label.rank_injective
    simp only at hlower hupper ⊢
    omega

/-! ## Answers -/

/-- an automaton answers what is asked about its moves as the relation `F` does -/
structure Reflects (m : Automaton) (F : Moves) : Prop where
  mem_transitions_iff : ∀ {p l q}, (p, ⟨l, q⟩) ∈ m.transitions ↔ F p l q
  transitions_once : m.transitions.Nodup
  transitions_ascend : m.transitions.Pairwise Precedes
  mem_epsilonTargets_iff : ∀ {p q}, q ∈ m.epsilonTargets p ↔ F p .epsilon q
  epsilonTargets_ascend : ∀ p, (m.epsilonTargets p).Pairwise (· < ·)
  mem_targets_iff : ∀ {p s q}, q ∈ m.targets p s ↔ F p (.symbol s) q
  targets_ascend : ∀ p s, (m.targets p s).Pairwise (· < ·)
  /-- from the edge to state `0` to the edge to the last state that could be -/
  targets_eq_between : ∀ {p s limit}, (∀ q, F p (.symbol s) q → q ≤ limit) →
    m.targets p s = (Edge.between ⟨.symbol s, 0⟩ ⟨.symbol s, limit⟩ (m.edges p)).map Edge.target
  isDeterministic_iff : m.isDeterministic = true ↔
    (∀ p q, ¬F p .epsilon q) ∧ ∀ p s q r, F p (.symbol s) q → F p (.symbol s) r → q = r
  isComplete_iff : m.isComplete = true ↔
    ((∀ p q, ¬F p .epsilon q) ∧ ∀ p s q r, F p (.symbol s) q → F p (.symbol s) r → q = r) ∧
      ∀ p < m.stateCount, ∀ s < m.alphabetSize, ∃ q, F p (.symbol s) q

/-- an automaton with ascending edges on its symbols reflects its own moves -/
theorem Ascending.reflects (h : m.Ascending)
    (hsymbol : ∀ {p s q}, m.moves p (.symbol s) q → s < m.alphabetSize) : m.Reflects m.moves where
  mem_transitions_iff := Automaton.mem_transitions_iff
  transitions_once := (Automaton.transitions_ascend h).nodup
  transitions_ascend := Automaton.transitions_ascend h
  mem_epsilonTargets_iff := Automaton.mem_epsilonTargets_iff h
  epsilonTargets_ascend p := epsilonTargets_eq h p ▸ ascend_on h p .epsilon
  mem_targets_iff := Automaton.mem_targets_iff h
  targets_ascend p s := targets_eq h p s ▸ ascend_on h p (.symbol s)
  targets_eq_between := Automaton.targets_eq_between h
  isDeterministic_iff := Automaton.isDeterministic_iff h
  isComplete_iff := Automaton.isComplete_iff h hsymbol

/-- the order and the moves leave no choice in how the moves are listed -/
theorem Reflects.transitions_eq {ts : List (Nat × Edge)} (h : m.Reflects F) (hts : ts.Pairwise Precedes)
    (hmem : ∀ p l q, (p, ⟨l, q⟩) ∈ ts ↔ F p l q) : m.transitions = ts := by
  apply h.transitions_ascend.eq_of_mem_iff hts
  rintro ⟨p, l, q⟩
  exact h.mem_transitions_iff.trans (hmem p l q).symm

theorem ascending_withStates (count k : Nat) : (withStates count k).Ascending := by
  intro q
  rw [edges_withStates]
  exact List.Pairwise.nil

/-- **An automaton reflects the moves that were added to it.** States and moves are added in any order to an automaton that
begins with some states and no moves, each move from a state that is there and, if it reads a symbol, on one of the alphabet.
Then all additions are made, and the automaton has the states of the beginning and those that were added. It lists each move
that was added once, by the state that is left, the label, no input first, and the target; the targets without input and on a
symbol are those of the moves that were added, in ascending order. It calls itself deterministic if no move without input was
added and no two moves from one state on one symbol to different states, and complete if, besides, a move on each symbol of
the alphabet was added to each state. -/
theorem addAll_reflects {count : Nat} (h : Addition.Fit k count xs) :
    ∃ m, (withStates count k).addAll xs = .ok m ∧ m.alphabetSize = k ∧ m.stateCount = count + xs.count .state ∧
      m.Reflects (Addition.moves xs) := by
  have hcount0 : (withStates count k).stateCount = count := by
    simp [withStates, stateCount]
  obtain ⟨m, hm, hcount, hext⟩ := extends_addAll (m := withStates count k) (hcount0.symm ▸ h)
  have hmoves : m.moves = Addition.moves xs := by
    funext p l q
    rw [hext.moves]
    simp [not_moves_withStates]
  have hasc : m.Ascending := hext.ascending (ascending_withStates count k)
  have halphabet : m.alphabetSize = k := hext.alphabetSize
  refine ⟨m, hm, halphabet, hcount.trans (by rw [hcount0]), hmoves ▸ hasc.reflects ?_⟩
  intro p s q hF
  rw [halphabet]
  exact h.symbol_lt (hmoves ▸ hF)

/-- two states that are changed on the one symbol and kept on the other, with the moves out of order and one of them twice -/
def switch : List Addition :=
  [.move 0 (.symbol 1) 0, .state, .move 1 (.symbol 1) 1, .move 1 (.symbol 0) 0, .move 0 (.symbol 1) 0,
    .move 0 (.symbol 0) 1]

/-- the switch is complete, and one more move without input leaves it a choice -/
theorem addAll_reflects_switch : Addition.Fit 2 1 switch ∧
    (∃ m, (withStates 1 2).addAll switch = .ok m ∧ m.transitions = [(0, ⟨.symbol 0, 1⟩), (0, ⟨.symbol 1, 0⟩),
      (1, ⟨.symbol 0, 0⟩), (1, ⟨.symbol 1, 1⟩)] ∧ m.isComplete = true) ∧
    ∃ m, (withStates 1 2).addAll (switch ++ [.move 0 .epsilon 1]) = .ok m ∧ 1 ∈ m.epsilonTargets 0 ∧
      m.isDeterministic = false := by
  have hfit : Addition.Fit 2 1 switch := by decide
  obtain ⟨m, hm, halphabet, hcount, h⟩ := addAll_reflects hfit
  obtain ⟨n, hn, -, -, hchoice⟩ := addAll_reflects (show Addition.Fit 2 1 (switch ++ [.move 0 .epsilon 1]) by decide)
  refine ⟨hfit, ⟨m, hm, h.transitions_eq ?_ ?_, h.isComplete_iff.2 ⟨⟨?_, ?_⟩, ?_⟩⟩, n, hn, ?_, ?_⟩
  · simp [Precedes, Label.rank]
  · intro p l q
    simp only [Addition.moves, switch, List.mem_cons, List.not_mem_nil, Prod.mk.injEq, Edge.mk.injEq,
      Addition.move.injEq, reduceCtorEq, or_false, false_or]
    grind
  · simp [Addition.moves, switch]
  · intro p s q r hq hr
    simp only [Addition.moves, switch, List.mem_cons, List.not_mem_nil, Addition.move.injEq, Label.symbol.injEq,
      reduceCtorEq, or_false, false_or] at hq hr
    omega
  · intro p hp s hs
    rw [hcount.trans (by decide : _ = 2)] at hp
    rw [halphabet] at hs
    interval_cases p <;> interval_cases s <;> simp [Addition.moves, switch]
  · exact hchoice.mem_epsilonTargets_iff.2 (by simp [Addition.moves])
  · rw [← Bool.not_eq_true, hchoice.isDeterministic_iff]
    intro hdet
    exact hdet.1 0 1 (by simp [Addition.moves])

end Automaton

end Munch
