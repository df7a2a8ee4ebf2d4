/-
What the compilation of an expression leaves alone.

The part that compilation adds to an automaton has one way in, the state that it starts from, and no way out: its moves enter
new states only, so no loop of it runs into what was there before, and what was there before reads the same words as before
(`Isolated.reads_iff`). It ends in a new state that nothing leaves, from where another expression can be compiled.

Results:
- `Isolated.of_fragment`: an automaton that has grown by a piece has grown by such a part.
- `Isolated.entered_iff`, `Isolated.left_iff`: no older state is entered by a new move, and only the first one is left by one.
- `compile_isolated`: this for every expression, from any state of any automaton on.
-/
import Mathlib.Tactic
import Munch.Proofs.Automaton.Compilation
import Munch.Proofs.Automaton.Run

namespace Munch

/-- more states than `n` change nothing if they have no value -/
theorem filterMap_range_eq {α : Type} {f : Nat → Option α} {n k : Nat} (hle : n ≤ k) (hf : ∀ q, n ≤ q → f q = none) :
    (List.range k).filterMap f = (List.range n).filterMap f := by
  obtain ⟨d, rfl⟩ := Nat.exists_eq_add_of_le hle
  have hrest : ((List.range d).map fun x => n + x).filterMap f = [] := by
    rw [List.filterMap_map, List.filterMap_eq_nil_iff]
    intro x _
    exact hf (n + x) (Nat.le_add_right n x)
  rw [List.range_add, List.filterMap_append, hrest, List.append_nil]

namespace Extends

variable {m m' : Automaton} {F : Moves}

theorem acceptingStates_eq (h : Extends m m' F) : m'.acceptingStates = m.acceptingStates := by
  have haccepting : m'.isAccepting = m.isAccepting := funext h.accepting
  rw [Automaton.acceptingStates, Automaton.acceptingStates, haccepting, ← List.filterMap_eq_filter]
  apply filterMap_range_eq h.le
  intro q hq
  simp [Option.guard, Automaton.isAccepting_eq_false hq]

theorem tokenStates_eq (h : Extends m m' F) : m'.tokenStates = m.tokenStates := by
  have htoken : m'.token? = m.token? := funext h.token
  rw [Automaton.tokenStates, Automaton.tokenStates, htoken]
  apply filterMap_range_eq h.le
  intro q hq
  rw [Automaton.token?_eq_none hq, Option.map_none]

end Extends

/-- an automaton has grown by a part that is entered from `start` alone, that nothing leaves, and that ends in `stop` -/
structure Isolated (m m' : Automaton) (start stop : Nat) : Prop where
  le : m.stateCount ≤ m'.stateCount
  same : ∀ q < m.stateCount, q ≠ start → m'.states[q]? = m.states[q]?
  edges : ∀ q, (m.edges q).Sublist (m'.edges q)
  start_eq : m'.start = m.start
  acceptingStates_eq : m'.acceptingStates = m.acceptingStates
  tokenStates_eq : m'.tokenStates = m.tokenStates
  errorState_eq : m'.errorState = m.errorState
  alphabetSize_eq : m'.alphabetSize = m.alphabetSize
  source : ∀ {p l q}, m'.moves p l q → ¬m.moves p l q → p = start ∨ m.stateCount ≤ p ∧ p < m'.stateCount
  target : ∀ {p l q}, m'.moves p l q → ¬m.moves p l q → m.stateCount ≤ q ∧ q < m'.stateCount
  stop_new : m.stateCount ≤ stop ∧ stop < m'.stateCount
  stop_last : m'.edges stop = []

namespace Isolated

variable {m m' : Automaton} {start stop p q : Nat} {l : Label} {w : List Nat}

theorem of_fragment {a : Alphabet} {r : Regex} {F : Moves} (h : Fragment a r m m' start stop F) :
    Isolated m m' start stop where
  le := h.le
  same := by
    intro q hq hne
    apply h.same hq
    intro l r hF
    have := h.piece.source hF
    omega
  edges := h.edges
  start_eq := h.start
  acceptingStates_eq := h.acceptingStates_eq
  tokenStates_eq := h.tokenStates_eq
  errorState_eq := h.errorState
  alphabetSize_eq := h.alphabetSize
  source := fun hnew hold => h.piece.source (((h.moves _ _ _).1 hnew).resolve_left hold)
  target := fun hnew hold => h.piece.target (((h.moves _ _ _).1 hnew).resolve_left hold)
  stop_new := h.piece.stop_new
  stop_last := by
    rw [List.eq_nil_iff_forall_not_mem]
    rintro ⟨l, q⟩ he
    rcases (h.moves stop l q).1 he with hold | hnew
    · have := Automaton.source_lt hold
      have := h.piece.stop_new
      omega
    · exact h.piece.stop_last l q hnew

theorem moves_mono (h : Isolated m m' start stop) (hm : m.moves p l q) : m'.moves p l q :=
  (h.edges p).mem hm

/-- no older state is entered by a new move -/
theorem entered_iff (h : Isolated m m' start stop) (hq : q < m.stateCount) : m'.moves p l q ↔ m.moves p l q := by
  refine ⟨?_, h.moves_mono⟩
  intro hnew
  by_contra hold
  have := h.target hnew hold
  omega

/-- no older state but the first one is left by a new move -/
theorem left_iff (h : Isolated m m' start stop) (hp : p < m.stateCount) (hne : p ≠ start) :
    m'.moves p l q ↔ m.moves p l q := by
  refine ⟨?_, h.moves_mono⟩
  intro hnew
  by_contra hold
  have := h.source hnew hold
  omega

/-- the words that lead to an older state are those that led there before -/
theorem reads_iff (h : Isolated m m' start stop) (hq : q < m.stateCount) : m'.Reads p w q ↔ m.Reads p w q := by
  constructor
  · intro hw
    induction hw with
    | done => exact .done
    | @step p r q l w hm _ ih =>
      -- from `r` on the older automaton reads the rest, so `r` is one of its states
      have hrest := ih hq
      have hr : r < m.stateCount := by
        cases hrest with
        | done => exact hq
        | step hm' _ => exact Automaton.source_lt hm'
      exact .step ((h.entered_iff hr).1 hm) hrest
  · intro hw
    exact hw.mono fun _ _ _ => h.moves_mono

end Isolated

namespace Regex

variable {r : Regex} {a : Alphabet} {m : Automaton} {start : Nat}

/-- **Compiled expressions are isolated.** Over an alphabet that tiles an expression, the expression is compiled from any
state of any automaton on. The states that were there keep their numbers, their moves and their marks; no move is added that
enters one of them or leaves one of them except the first state, and the new state that is returned has no moves. -/
theorem compile_isolated (hr : r.TiledBy a) (hs : start < m.stateCount) :
    ∃ stop m', r.compile a start m = .ok (stop, m') ∧ Isolated m m' start stop ∧
      (∀ p l q, q < m.stateCount → (m'.moves p l q ↔ m.moves p l q)) ∧
      ∀ p l q, p < m.stateCount → p ≠ start → (m'.moves p l q ↔ m.moves p l q) := by
  obtain ⟨stop, m', F, hm', hF⟩ := compiles_of_tiledBy hr hs
  have h := Isolated.of_fragment hF
  exact ⟨stop, m', hm', h, fun _ _ _ hq => h.entered_iff hq, fun _ _ _ hp hne => h.left_iff hp hne⟩

/-- two states, the first one of which accepts, and a move back to it -/
def marked : Automaton :=
  { alphabetSize := 1, states := #[⟨[], true, some 3⟩, ⟨[⟨.epsilon, 0⟩], false, none⟩] }

theorem moves_marked {p q : Nat} {l : Label} : marked.moves p l q ↔ p = 1 ∧ l = .epsilon ∧ q = 0 := by
  match p with
  | 0 => simp [Automaton.moves, Automaton.edges, Automaton.edges?, marked]
  | 1 => simp [Automaton.moves, Automaton.edges, Automaton.edges?, marked]
  | n + 2 => simp [Automaton.moves, Automaton.edges, Automaton.edges?, marked]

/-- loops compiled from the second state lead neither back to it nor to the first one -/
theorem compile_isolated_knots : knots.TiledBy knotsAlphabet ∧ 1 < marked.stateCount ∧
    ∃ stop m', knots.compile knotsAlphabet 1 marked = .ok (stop, m') ∧ 2 ≤ stop ∧ m'.edges stop = [] ∧
      m'.acceptingStates = [0] ∧ m'.tokenStates = [(0, 3)] ∧ m'.edges 0 = [] ∧
      (∀ p l, ¬m'.moves p l 1) ∧ ∀ p l, m'.moves p l 0 ↔ p = 1 ∧ l = .epsilon := by
  have ht : knots.TiledBy knotsAlphabet := tiledBy_ofIntervals fun i hi => List.mem_cons_of_mem _ hi
  have hs : 1 < marked.stateCount := by decide
  obtain ⟨stop, m', hm', h, hentered, -⟩ := compile_isolated ht hs
  refine ⟨ht, hs, stop, m', hm', h.stop_new.1, h.stop_last, h.acceptingStates_eq.trans (by decide),
    h.tokenStates_eq.trans (by decide), ?_, ?_, ?_⟩
  · rw [Automaton.edges, Automaton.edges?, h.same 0 (by decide) (by decide)]
    decide
  · intro p l
    rw [hentered p l 1 hs, moves_marked]
    simp
  · intro p l
    rw [hentered p l 0 (by decide), moves_marked]
    simp

end Regex

end Munch
