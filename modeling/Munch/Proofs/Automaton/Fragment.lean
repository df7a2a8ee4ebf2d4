/-
The automata of regular expressions.

What `Regex.compile` adds to an automaton is a piece (`Piece`): moves that leave the first state or new states, enter new
states only, and end in a new state without moves. How pieces are put together is said about moves alone; `Extends` says
how an automaton has grown by some moves, and `Fragment` is both.

Results:
- `Piece.cat`, `Piece.alt`, `Piece.opt`, `Piece.loop`: pieces are put together to pieces, and what these read.
- `compiles_set` .. `compiles_star`: each form of expression is compiled to a piece if its parts are.
- `compiles_of_tiledBy`: over an alphabet that tiles the expression, compilation succeeds, it adds a piece, and the piece
  reads exactly the words of symbols that the expression spells.
-/
import Mathlib.Tactic
import Munch.Automaton.Fragment
import Munch.Proofs.Alphabet.Symbols
import Munch.Proofs.Automaton.Path

namespace Munch

/-- moves from `start` to `stop` whose other states are from `lo` up to `hi` -/
structure Piece (F : Moves) (start stop lo hi : Nat) : Prop where
  source : ∀ {p l q}, F p l q → p = start ∨ lo ≤ p ∧ p < hi
  target : ∀ {p l q}, F p l q → lo ≤ q ∧ q < hi
  stop_new : lo ≤ stop ∧ stop < hi
  stop_last : ∀ l q, ¬F stop l q

namespace Piece

variable {F A B : Moves} {start stop lo hi k : Nat} {w : List Nat}

/-- a new state, and moves to it on some symbols -/
theorem set (S : Nat → Prop) (hs : start < lo) :
    Piece (arcs start S lo) start lo lo (lo + 1) ∧ (Path (arcs start S lo) start w lo ↔ ∃ s, w = [s] ∧ S s) := by
  have hp : Piece (arcs start S lo) start lo lo (lo + 1) :=
    ⟨fun h => Or.inl h.1, fun h => by have := h.2.1; omega, by omega, fun l q h => by have := h.1; omega⟩
  refine ⟨hp, ?_, ?_⟩
  · intro h
    cases h with
    | done => omega
    | step hm hw =>
      obtain ⟨-, rfl, s, rfl, hS⟩ := hm
      obtain ⟨-, rfl⟩ := hw.of_last hp.stop_last
      exact ⟨s, rfl, hS⟩
  · rintro ⟨s, rfl, hS⟩
    exact .read ⟨rfl, rfl, s, rfl, hS⟩ .done

/-- two pieces one behind the other -/
theorem cat {middle : Nat} (hA : Piece A start middle lo k) (hB : Piece B middle stop k hi) (hs : start < lo) :
    Piece (A ⊔ B) start stop lo hi ∧
      (Path (A ⊔ B) start w stop ↔ ∃ u v, w = u ++ v ∧ Path A start u middle ∧ Path B middle v stop) := by
  have hmid := hA.stop_new
  have hstop := hB.stop_new
  refine ⟨⟨?_, ?_, by omega, ?_⟩, ?_, ?_⟩
  · rintro p l q (h | h)
    · rcases hA.source h with h | h
      · exact Or.inl h
      · exact Or.inr (by omega)
    · rcases hB.source h with h | h
      · exact Or.inr (by omega)
      · exact Or.inr (by omega)
  · rintro p l q (h | h)
    · have := hA.target h
      omega
    · have := hB.target h
      omega
  · rintro l q (h | h)
    · have := hA.source h
      omega
    · exact hB.stop_last l q h
  · intro h
    obtain ⟨u, m, l, q, v, rfl, hu, hm, he, hv⟩ := h.cut (S := fun p => p = start ∨ lo ≤ p ∧ p < k) (G := A) (E := B)
      (fun p l q _ hm => hm.imp_left fun h => ⟨h, Or.inr (hA.target h)⟩) (Or.inl rfl) (by omega)
    obtain rfl : m = middle := by
      rcases hB.source he with h | h
      · exact h
      · omega
    refine ⟨u, l.letters ++ v, rfl, hu, .step he (hv.within (S := fun p => k ≤ p) ?_ (hB.target he).1).1⟩
    rintro p l q hp (h | h)
    · have := hA.source h
      omega
    · exact ⟨h, (hB.target h).1⟩
  · rintro ⟨u, v, rfl, hu, hv⟩
    exact (hu.mono fun _ _ _ h => Or.inl h).trans (hv.mono fun _ _ _ h => Or.inr h)

/-- out of a piece whose last state has one move without input to `stop`, and no other way out -/
theorem exit {F : Moves} {p last : Nat} (hA : Piece A p last lo k)
    (hF : ∀ p' l q, p' = p ∨ lo ≤ p' ∧ p' < k → F p' l q → A p' l q ∨ arc last .epsilon stop p' l q)
    (hstop : ¬(stop = p ∨ lo ≤ stop ∧ stop < k)) (hlast : ∀ l q, ¬F stop l q) (h : Path F p w stop) :
    Path A p w last := by
  obtain ⟨u, m, l, q, v, rfl, hu, -, he, hv⟩ := h.cut (S := fun q => q = p ∨ lo ≤ q ∧ q < k) (G := A)
    (E := arc last .epsilon stop) (fun p' l q hp' hm => (hF p' l q hp' hm).imp_left fun h => ⟨h, Or.inr (hA.target h)⟩)
    (Or.inl rfl) hstop
  obtain ⟨rfl, rfl, rfl⟩ := he
  obtain ⟨-, rfl⟩ := hv.of_last hlast
  simpa using hu

/-- the moves of two pieces side by side: to a state in front of each, and out to a state where they meet -/
def altMoves (A B : Moves) (start left right leftStop rightStop stop : Nat) : Moves :=
  arc start .epsilon left ⊔ arc start .epsilon right ⊔ A ⊔ B ⊔ arc leftStop .epsilon stop ⊔ arc rightStop .epsilon stop

section Alt

variable {leftStop rightStop p q : Nat} {l : Label} (hA : Piece A lo leftStop (lo + 2) k)
  (hB : Piece B (lo + 1) rightStop k hi) (hs : start < lo)
include hA hB hs

theorem alt_piece : Piece (altMoves A B start lo (lo + 1) leftStop rightStop hi) start hi lo (hi + 1) := by
  have hl := hA.stop_new
  have hr := hB.stop_new
  refine ⟨?_, ?_, by omega, ?_⟩
  · rintro p l q (((((⟨rfl, -⟩ | ⟨rfl, -⟩) | h) | h) | ⟨rfl, -⟩) | ⟨rfl, -⟩)
    · exact Or.inl rfl
    · exact Or.inl rfl
    · have := hA.source h
      omega
    · have := hB.source h
      omega
    · omega
    · omega
  · rintro p l q (((((⟨-, -, rfl⟩ | ⟨-, -, rfl⟩) | h) | h) | ⟨-, -, rfl⟩) | ⟨-, -, rfl⟩)
    · omega
    · omega
    · have := hA.target h
      omega
    · have := hB.target h
      omega
    · omega
    · omega
  · rintro l q (((((⟨h, -⟩ | ⟨h, -⟩) | h) | h) | ⟨h, -⟩) | ⟨h, -⟩)
    · omega
    · omega
    · have := hA.source h
      omega
    · have := hB.source h
      omega
    · omega
    · omega

theorem altMoves_left (hp : p = lo ∨ lo + 2 ≤ p ∧ p < k)
    (hm : altMoves A B start lo (lo + 1) leftStop rightStop hi p l q) : A p l q ∨ arc leftStop .epsilon hi p l q := by
  have hl := hA.stop_new
  have hr := hB.stop_new
  rcases hm with (((((⟨h, -⟩ | ⟨h, -⟩) | h) | h) | h) | ⟨h, -⟩)
  · omega
  · omega
  · exact Or.inl h
  · have := hB.source h
    omega
  · exact Or.inr h
  · omega

omit hB in
theorem altMoves_right (hp : p = lo + 1 ∨ k ≤ p ∧ p < hi)
    (hm : altMoves A B start lo (lo + 1) leftStop rightStop hi p l q) : B p l q ∨ arc rightStop .epsilon hi p l q := by
  have hl := hA.stop_new
  rcases hm with (((((⟨h, -⟩ | ⟨h, -⟩) | h) | h) | ⟨h, -⟩) | h)
  · omega
  · omega
  · have := hA.source h
    omega
  · exact Or.inl h
  · omega
  · exact Or.inr h

/-- two pieces side by side read what one of them reads -/
theorem alt : Path (altMoves A B start lo (lo + 1) leftStop rightStop hi) start w hi ↔
    Path A lo w leftStop ∨ Path B (lo + 1) w rightStop := by
  have hl := hA.stop_new
  have hr := hB.stop_new
  have hlast := (alt_piece hA hB hs).stop_last
  constructor
  · intro h
    cases h with
    | done => omega
    | step hm hw =>
      rcases hm with (((((⟨-, rfl, hq⟩ | ⟨-, rfl, hq⟩) | h) | h) | ⟨h, -⟩) | ⟨h, -⟩)
      · rw [hq] at hw
        exact Or.inl (hA.exit (fun _ _ _ => altMoves_left hA hB hs) (by omega) hlast hw)
      · rw [hq] at hw
        exact Or.inr (hB.exit (fun _ _ _ => altMoves_right hA hs) (by omega) hlast hw)
      · have := hA.source h
        omega
      · have := hB.source h
        omega
      · omega
      · omega
  · rintro (h | h)
    · have hmid := h.mono (G := altMoves A B start lo (lo + 1) leftStop rightStop hi) fun _ _ _ h =>
        Or.inl (Or.inl (Or.inl (Or.inr h)))
      have hrest := hmid.trans (.single (l := .epsilon) (Or.inl (Or.inr ⟨rfl, rfl, rfl⟩)))
      rw [Label.letters_epsilon, List.append_nil] at hrest
      exact .skip (Or.inl (Or.inl (Or.inl (Or.inl (Or.inl ⟨rfl, rfl, rfl⟩))))) hrest
    · have hmid := h.mono (G := altMoves A B start lo (lo + 1) leftStop rightStop hi) fun _ _ _ h =>
        Or.inl (Or.inl (Or.inr h))
      have hrest := hmid.trans (.single (l := .epsilon) (Or.inr ⟨rfl, rfl, rfl⟩))
      rw [Label.letters_epsilon, List.append_nil] at hrest
      exact .skip (Or.inl (Or.inl (Or.inl (Or.inl (Or.inr ⟨rfl, rfl, rfl⟩))))) hrest

end Alt

/-- a piece that may be passed by -/
theorem opt (hA : Piece A start stop lo hi) (hs : start < lo) :
    Piece (A ⊔ arc start .epsilon stop) start stop lo hi ∧
      (Path (A ⊔ arc start .epsilon stop) start w stop ↔ w = [] ∨ Path A start w stop) := by
  have hstop := hA.stop_new
  have hp : Piece (A ⊔ arc start .epsilon stop) start stop lo hi := by
    refine ⟨?_, ?_, hstop, ?_⟩
    · rintro p l q (h | ⟨rfl, -⟩)
      · exact hA.source h
      · exact Or.inl rfl
    · rintro p l q (h | ⟨-, -, rfl⟩)
      · exact hA.target h
      · exact hstop
    · rintro l q (h | ⟨h, -⟩)
      · exact hA.stop_last l q h
      · omega
  refine ⟨hp, ?_, ?_⟩
  · intro h
    cases h with
    | done => omega
    | step hm hw =>
      rcases hm with h | ⟨-, rfl, rfl⟩
      · refine Or.inr (.step h (hw.within (S := fun p => lo ≤ p) ?_ (hA.target h).1).1)
        rintro p l q hp (h | ⟨rfl, -⟩)
        · exact ⟨h, (hA.target h).1⟩
        · omega
      · exact Or.inl (hw.of_last hp.stop_last).2
  · rintro (rfl | h)
    · exact .single (l := .epsilon) (Or.inr ⟨rfl, rfl, rfl⟩)
    · exact h.mono fun _ _ _ h => Or.inl h

/-- the moves of a piece that is repeated: into a state of its own, back to it, and out; and past the piece if `pass` -/
def loopMoves (A : Moves) (start last first stop : Nat) (pass : Prop) : Moves :=
  arc start .epsilon first ⊔ A ⊔ arc last .epsilon first ⊔ arc last .epsilon stop ⊔
    fun p l q => pass ∧ arc first .epsilon stop p l q

variable {last : Nat} {pass : Prop} {atom : List Interval → Nat → Prop} {a : Regex}

theorem loop_piece (hA : Piece A lo last (lo + 1) k) (hs : start < lo) :
    Piece (loopMoves A start last lo k pass) start k lo (k + 1) := by
  have hl := hA.stop_new
  refine ⟨?_, ?_, by omega, ?_⟩
  · rintro p l q ((((⟨rfl, -⟩ | h) | ⟨rfl, -⟩) | ⟨rfl, -⟩) | ⟨-, rfl, -⟩)
    · exact Or.inl rfl
    · have := hA.source h
      omega
    · omega
    · omega
    · omega
  · rintro p l q ((((⟨-, -, rfl⟩ | h) | ⟨-, -, rfl⟩) | ⟨-, -, rfl⟩) | ⟨-, -, -, rfl⟩)
    · omega
    · have := hA.target h
      omega
    · omega
    · omega
    · omega
  · rintro l q ((((⟨h, -⟩ | h) | ⟨h, -⟩) | ⟨h, -⟩) | ⟨-, h, -⟩)
    · omega
    · have := hA.source h
      omega
    · omega
    · omega
    · omega

/-- from a state of the repeated piece: the rest of this round and any number of rounds behind it, or, from the state
in front of it, past the piece -/
theorem loop_rounds (hA : Piece A lo last (lo + 1) k) (hs : start < lo)
    (hL : ∀ u, Path A lo u last → a.Lang atom u) {p r : Nat} (h : Path (loopMoves A start last lo k pass) p w r)
    (hp : p = lo ∨ lo + 1 ≤ p ∧ p < k) (hr : r = k) :
    (∃ u v, w = u ++ v ∧ Path A p u last ∧ (Regex.star a).Lang atom v) ∨ pass ∧ p = lo ∧ w = [] := by
  have hl := hA.stop_new
  have hlast : ∀ l q, ¬loopMoves A start last lo k pass k l q := (loop_piece hA hs).stop_last
  induction h with
  | done => omega
  | @step p q _ l w hm hw ih =>
    rcases hm with (((⟨h, -⟩ | h) | ⟨rfl, rfl, rfl⟩) | ⟨rfl, rfl, rfl⟩) | ⟨hpass, rfl, rfl, rfl⟩
    · omega
    · have ht := hA.target h
      rcases ih (Or.inr ht) hr with ⟨u, v, rfl, hu, hv⟩ | ⟨-, hq, -⟩
      · exact Or.inl ⟨l.letters ++ u, v, by rw [List.append_assoc], .step h hu, hv⟩
      · omega
    · -- back in front of the piece: the next round begins
      refine Or.inl ⟨[], w, rfl, .done, ?_⟩
      rcases ih (Or.inl rfl) hr with ⟨u, v, rfl, hu, hv⟩ | ⟨-, -, rfl⟩
      · exact .starCons (hL u hu) hv
      · exact .starNil
    · obtain ⟨-, rfl⟩ := hw.of_last hlast
      exact Or.inl ⟨[], [], rfl, .done, .starNil⟩
    · obtain ⟨-, rfl⟩ := hw.of_last hlast
      exact Or.inr ⟨hpass, rfl, rfl⟩

theorem loop_of_rounds (hL : ∀ u, a.Lang atom u → Path A lo u last) {v : List Nat}
    (h : (Regex.star a).Lang atom v) (hl : Path (loopMoves A start last lo k pass) p u last) :
    Path (loopMoves A start last lo k pass) p (u ++ v) k := by
  generalize ha : Regex.star a = b at h
  induction h generalizing u with
  | starNil =>
    have := hl.trans (.single (l := .epsilon) (q := k) (Or.inl (Or.inr ⟨rfl, rfl, rfl⟩)))
    simpa using this
  | @starCons _ u' v' hu _ _ ih =>
    cases ha
    have hround := (hL _ hu).mono (G := loopMoves A start last lo k pass) fun _ _ _ h =>
      Or.inl (Or.inl (Or.inl (Or.inr h)))
    have hback : Path (loopMoves A start last lo k pass) last [] lo :=
      .single (l := .epsilon) (Or.inl (Or.inl (Or.inr ⟨rfl, rfl, rfl⟩)))
    have := ih (hl.trans (hback.trans hround)) rfl
    simpa using this
  | _ => cases ha

/-- a repeated piece reads one or more rounds, or nothing if it may be passed by -/
theorem loop (hA : Piece A lo last (lo + 1) k) (hs : start < lo) (hL : ∀ u, Path A lo u last ↔ a.Lang atom u) :
    Path (loopMoves A start last lo k pass) start w k ↔ pass ∧ w = [] ∨ (Regex.plus a).Lang atom w := by
  have hl := hA.stop_new
  have henter : Path (loopMoves A start last lo k pass) start [] lo :=
    .single (l := .epsilon) (Or.inl (Or.inl (Or.inl (Or.inl ⟨rfl, rfl, rfl⟩))))
  constructor
  · intro h
    cases h with
    | done => omega
    | step hm hw =>
      rcases hm with (((⟨-, rfl, rfl⟩ | h) | ⟨h, -⟩) | ⟨h, -⟩) | ⟨-, h, -⟩
      · rcases loop_rounds hA hs (fun u => (hL u).1) hw (Or.inl rfl) rfl with ⟨u, v, rfl, hu, hv⟩ | ⟨hpass, -, rfl⟩
        · exact Or.inr (Regex.lang_plus_iff.2 ⟨u, v, rfl, (hL u).1 hu, hv⟩)
        · exact Or.inl ⟨hpass, rfl⟩
      · have := hA.source h
        omega
      · omega
      · omega
      · omega
  · rintro (⟨hpass, rfl⟩ | h)
    · exact henter.trans (.single (l := .epsilon) (Or.inr ⟨hpass, rfl, rfl, rfl⟩))
    · obtain ⟨u, v, rfl, hu, hv⟩ := Regex.lang_plus_iff.1 h
      have hround := ((hL u).2 hu).mono (G := loopMoves A start last lo k pass) fun _ _ _ h =>
        Or.inl (Or.inl (Or.inl (Or.inr h)))
      exact loop_of_rounds (fun u => (hL u).2) hv (henter.trans hround)

end Piece

/-! ## Growth -/

/-- an automaton has grown by some moves, and by states that do not accept -/
structure Extends (m m' : Automaton) (F : Moves) : Prop where
  moves : ∀ p l q, m'.moves p l q ↔ m.moves p l q ∨ F p l q
  edges : ∀ q, (m.edges q).Sublist (m'.edges q)
  same : ∀ {q}, q < m.stateCount → (∀ l r, ¬F q l r) → m'.states[q]? = m.states[q]?
  le : m.stateCount ≤ m'.stateCount
  start : m'.start = m.start
  alphabetSize : m'.alphabetSize = m.alphabetSize
  errorState : m'.errorState = m.errorState
  accepting : ∀ q, m'.isAccepting q = m.isAccepting q
  token : ∀ q, m'.token? q = m.token? q
  ascending : (∀ q, (m.edges q).Pairwise fun e f => e.before f = true) →
    ∀ q, (m'.edges q).Pairwise fun e f => e.before f = true

namespace Extends

variable {m m' m'' : Automaton} {F G : Moves}

theorem trans (h : Extends m m' F) (h' : Extends m' m'' G) : Extends m m'' (F ⊔ G) where
  moves p l q := by rw [h'.moves, h.moves]; exact or_assoc
  edges q := (h.edges q).trans (h'.edges q)
  same hq hnot := (h'.same (hq.trans_le h.le) fun l r hG => hnot l r (Or.inr hG)).trans
    (h.same hq fun l r hF => hnot l r (Or.inl hF))
  le := h.le.trans h'.le
  start := h'.start.trans h.start
  alphabetSize := h'.alphabetSize.trans h.alphabetSize
  errorState := h'.errorState.trans h.errorState
  accepting q := (h'.accepting q).trans (h.accepting q)
  token q := (h'.token q).trans (h.token q)
  ascending hm := h'.ascending (h.ascending hm)

theorem congr (h : Extends m m' F) (hFG : ∀ p l q, F p l q ↔ G p l q) : Extends m m' G :=
  { h with
    moves := fun p l q => (h.moves p l q).trans (or_congr_right (hFG p l q))
    same := fun hq hnot => h.same hq fun l r hF => hnot l r ((hFG _ l r).1 hF) }

theorem refl (m : Automaton) : Extends m m ⊥ where
  moves _ _ _ := (or_false _).symm.to_iff
  edges _ := List.Sublist.refl _
  same _ _ := rfl
  le := Nat.le_refl _
  start := rfl
  alphabetSize := rfl
  errorState := rfl
  accepting _ := rfl
  token _ := rfl
  ascending := id

theorem addState (m : Automaton) : Extends m m.addState ⊥ where
  moves p l q := by
    show _ ∈ m.addState.edges p ↔ _ ∈ m.edges p ∨ False
    rw [Automaton.edges_addState, or_false]
  edges q := by rw [Automaton.edges_addState]
  same {q} hq _ := by
    have hne : q ≠ m.states.size := Nat.ne_of_lt hq
    simp only [Automaton.addState, Array.getElem?_push, if_neg hne]
  le := by rw [Automaton.stateCount_addState]; omega
  start := rfl
  alphabetSize := rfl
  errorState := rfl
  accepting q := by
    simp only [Automaton.isAccepting, Automaton.addState, Array.getElem?_push]
    split
    case isTrue h => simp [h]
    case isFalse => rfl
  token q := by
    simp only [Automaton.token?, Automaton.addState, Array.getElem?_push]
    split
    case isTrue h => simp [h]
    case isFalse => rfl
  ascending h q := by rw [Automaton.edges_addState]; exact h q

theorem behind_addState (h : Extends m.addState m' F) : Extends m m' F := by
  have := (addState m).trans h
  rwa [bot_sup_eq] at this

theorem addEdge {p : Nat} (hp : p < m.stateCount) (l : Label) (q : Nat) : Extends m (m.addEdge p l q) (arc p l q) where
  moves p' l' q' := by
    show _ ∈ (m.addEdge p l q).edges p' ↔ _ ∈ m.edges p' ∨ _
    rw [Automaton.mem_edges_addEdge hp, or_comm]
    exact or_congr_right (by simp [arc])
  edges r := by
    simp only [Automaton.edges, Automaton.edges?, Automaton.addEdge, Array.getElem?_modify]
    split
    · cases m.states[r]? with
      | none => exact List.Sublist.refl _
      | some s => exact Edge.sublist_insertInto _ _
    · exact List.Sublist.refl _
  same {r} _ hnot := by
    have hne : p ≠ r := fun h => hnot l q ⟨h.symm, rfl, rfl⟩
    simp only [Automaton.addEdge, Array.getElem?_modify, if_neg hne]
  le := by rw [Automaton.stateCount_addEdge]
  start := rfl
  alphabetSize := rfl
  errorState := rfl
  accepting r := by
    simp only [Automaton.isAccepting, Automaton.addEdge, Array.getElem?_modify]
    split
    · cases m.states[r]? <;> rfl
    · rfl
  token r := by
    simp only [Automaton.token?, Automaton.addEdge, Array.getElem?_modify]
    split
    · cases m.states[r]? <;> rfl
    · rfl
  ascending h r := by
    have hr := h r
    simp only [Automaton.edges, Automaton.edges?, Automaton.addEdge, Array.getElem?_modify] at hr ⊢
    split
    · cases hs : m.states[r]? with
      | none => simp
      | some s =>
        rw [hs] at hr
        exact Edge.pairwise_insertInto hr
    · exact hr

/-- a move from a state that is there is added -/
theorem connect {p : Nat} (hp : p < m.stateCount) (l : Label) (q : Nat) :
    ∃ m', m.connect p l q = .ok m' ∧ m'.stateCount = m.stateCount ∧ Extends m m' (arc p l q) :=
  ⟨_, Automaton.connect_eq_ok hp, Automaton.stateCount_addEdge m p l q, addEdge hp l q⟩

theorem connectAll {p : Nat} (hp : p < m.stateCount) (symbols : List Nat) (q : Nat) :
    ∃ m', m.connectAll p symbols q = .ok m' ∧ m'.stateCount = m.stateCount ∧ Extends m m' (arcs p (· ∈ symbols) q) := by
  induction symbols generalizing m with
  | nil => exact ⟨m, rfl, rfl, (refl m).congr fun _ _ _ => by simp [arcs]⟩
  | cons a symbols ih =>
    obtain ⟨m1, h1, hc1, he1⟩ := connect hp (.symbol a) q
    obtain ⟨m2, h2, hc2, he2⟩ := ih (m := m1) (by omega)
    refine ⟨m2, ?_, hc2.trans hc1, (he1.trans he2).congr fun p' l' q' => ?_⟩
    · simp only [Automaton.connectAll, List.foldlM_cons, h1] at h2 ⊢
      exact h2
    · show _ ∨ _ ↔ _
      simp only [arc, arcs, List.mem_cons]
      constructor
      · rintro (⟨rfl, rfl, rfl⟩ | ⟨rfl, rfl, s, rfl, hs⟩)
        · exact ⟨rfl, rfl, a, rfl, Or.inl rfl⟩
        · exact ⟨rfl, rfl, s, rfl, Or.inr hs⟩
      · rintro ⟨rfl, rfl, s, rfl, rfl | hs⟩
        · exact Or.inl ⟨rfl, rfl, rfl⟩
        · exact Or.inr ⟨rfl, rfl, s, rfl, hs⟩

/-- moves on the symbols of some intervals are added, if the intervals are made up of symbols -/
theorem connectSet {a : Alphabet} {p : Nat} (hp : p < m.stateCount) {is : List Interval}
    (his : ∀ i ∈ is, ∃ symbols, a.symbolsOf i = .ok symbols) (q : Nat) :
    ∃ m', m.connectSet a p is q = .ok m' ∧ m'.stateCount = m.stateCount ∧
      Extends m m' (arcs p (fun s => ∃ i ∈ is, ∃ symbols, a.symbolsOf i = .ok symbols ∧ s ∈ symbols) q) := by
  induction is generalizing m with
  | nil => exact ⟨m, rfl, rfl, (refl m).congr fun _ _ _ => by simp [arcs]⟩
  | cons i is ih =>
    obtain ⟨symbols, hsym⟩ := his i List.mem_cons_self
    obtain ⟨m1, h1, hc1, he1⟩ := connectAll hp symbols q
    obtain ⟨m2, h2, hc2, he2⟩ := ih (m := m1) (by omega) fun j hj => his j (List.mem_cons_of_mem i hj)
    refine ⟨m2, ?_, hc2.trans hc1, (he1.trans he2).congr fun p' l' q' => ?_⟩
    · simp only [Automaton.connectSet, List.foldlM_cons, hsym] at h2 ⊢
      show (m.connectAll p symbols q >>= _) = _
      rw [h1]
      exact h2
    · show _ ∨ _ ↔ _
      simp only [arcs]
      constructor
      · rintro (⟨rfl, rfl, s, rfl, hs⟩ | ⟨rfl, rfl, s, rfl, j, hj, hs⟩)
        · exact ⟨rfl, rfl, s, rfl, i, List.mem_cons_self, symbols, hsym, hs⟩
        · exact ⟨rfl, rfl, s, rfl, j, List.mem_cons_of_mem i hj, hs⟩
      · rintro ⟨rfl, rfl, s, rfl, j, hj, symbols', hsym', hs⟩
        rcases List.mem_cons.1 hj with rfl | hj
        · rw [hsym] at hsym'
          cases hsym'
          exact Or.inl ⟨rfl, rfl, s, rfl, hs⟩
        · exact Or.inr ⟨rfl, rfl, s, rfl, j, hj, symbols', hsym', hs⟩

end Extends

/-! ## Compilation -/

/-- an automaton has grown by a piece from `p` to `stop` that reads what an expression spells -/
structure Fragment (a : Alphabet) (r : Regex) (m m' : Automaton) (p stop : Nat) (F : Moves) : Prop
    extends Extends m m' F where
  piece : Piece F p stop m.stateCount m'.stateCount
  reads : ∀ w, Path F p w stop ↔ r.Spells a w
  symbol_lt : ∀ {p s q}, F p (.symbol s) q → s < a.size

/-- an expression can be compiled from any state of any automaton on, and adds a piece that reads what it spells -/
def Compiles (a : Alphabet) (r : Regex) : Prop :=
  ∀ {start : Nat} {m : Automaton}, start < m.stateCount →
    ∃ stop m' F, r.compile a start m = .ok (stop, m') ∧ Fragment a r m m' start stop F

section Compiles

variable {a : Alphabet} {x y : Regex}

theorem compiles_set {is : List Interval} (his : ∀ i ∈ is, ∃ symbols, a.symbolsOf i = .ok symbols) :
    Compiles a (.set is) := by
  intro start m hs
  obtain ⟨m', hm', hc, he⟩ := Extends.connectSet (m := m.addState) (p := start)
    (by rw [Automaton.stateCount_addState]; omega) his m.stateCount
  rw [Automaton.stateCount_addState] at hc
  have hp := fun w => Piece.set (w := w) (fun s => ∃ i ∈ is, ∃ symbols, a.symbolsOf i = .ok symbols ∧ s ∈ symbols) hs
  refine ⟨m.stateCount, m', _, ?_, he.behind_addState, ?_, fun w => ?_, ?_⟩
  · simp only [Regex.compile, hm']
    rfl
  · rw [hc]
    exact (hp []).1
  · rw [(hp w).2, Regex.Spells, Regex.lang_set_iff]
  · rintro p s q ⟨-, -, s', hs', i, hi, symbols, hsym, hm⟩
    cases hs'
    exact Alphabet.lt_size_of_symbolsOf hsym hm

theorem compiles_cat (hx : Compiles a x) (hy : Compiles a y) : Compiles a (.cat x y) := by
  intro start m hs
  obtain ⟨middle, m1, A, h1, hA⟩ := hx hs
  obtain ⟨stop, m2, B, h2, hB⟩ := hy hA.piece.stop_new.2
  have hp := fun w => Piece.cat (w := w) hA.piece hB.piece hs
  refine ⟨stop, m2, A ⊔ B, ?_, hA.toExtends.trans hB.toExtends, (hp []).1, fun w => ?_, ?_⟩
  · simp only [Regex.compile, bind, Except.bind, h1, h2]
  · rw [(hp w).2, Regex.Spells, Regex.lang_cat_iff]
    simp only [hA.reads, hB.reads, Regex.Spells]
  · rintro p s q (h | h)
    · exact hA.symbol_lt h
    · exact hB.symbol_lt h

theorem compiles_alt (hx : Compiles a x) (hy : Compiles a y) : Compiles a (.alt x y) := by
  intro start m hs
  obtain ⟨m1, h1, hc1, he1⟩ := Extends.connect (m := m.addState.addState) (p := start)
    (by simp only [Automaton.stateCount_addState]; omega) .epsilon m.stateCount
  simp only [Automaton.stateCount_addState] at hc1
  obtain ⟨m2, h2, hc2, he2⟩ := Extends.connect (m := m1) (p := start) (by omega) .epsilon (m.stateCount + 1)
  obtain ⟨leftStop, m3, A, h3, hA⟩ := hx (m := m2) (show m.stateCount < m2.stateCount by omega)
  have hl := hA.piece.stop_new
  obtain ⟨rightStop, m4, B, h4, hB⟩ := hy (m := m3) (show m.stateCount + 1 < m3.stateCount by omega)
  have hr := hB.piece.stop_new
  obtain ⟨m5, h5, hc5, he5⟩ := Extends.connect (m := m4.addState) (p := leftStop)
    (by rw [Automaton.stateCount_addState]; omega) .epsilon m4.stateCount
  rw [Automaton.stateCount_addState] at hc5
  obtain ⟨m6, h6, hc6, he6⟩ := Extends.connect (m := m5) (p := rightStop) (by omega) .epsilon m4.stateCount
  have hpA := hA.piece
  have hpB := hB.piece
  rw [hc2, hc1] at hpA
  have he := ((((he1.behind_addState.behind_addState.trans he2).trans hA.toExtends).trans hB.toExtends).trans
    he5.behind_addState).trans he6
  refine ⟨m4.stateCount, m6, _, ?_, he, ?_, fun w => ?_, ?_⟩
  · simp only [Regex.compile, bind, Except.bind, h1, h2, h3, h4, h5, h6]
    rfl
  · rw [hc6, hc5]
    exact Piece.alt_piece hpA hpB hs
  · refine (Piece.alt hpA hpB hs).trans ?_
    rw [Regex.Spells, Regex.lang_alt_iff, hA.reads, hB.reads]
    rfl
  · rintro p s q (((((⟨-, h, -⟩ | ⟨-, h, -⟩) | h) | h) | ⟨-, h, -⟩) | ⟨-, h, -⟩)
    · cases h
    · cases h
    · exact hA.symbol_lt h
    · exact hB.symbol_lt h
    · cases h
    · cases h

theorem compiles_opt (hx : Compiles a x) : Compiles a (.opt x) := by
  intro start m hs
  obtain ⟨stop, m1, A, h1, hA⟩ := hx hs
  have hle := hA.le
  obtain ⟨m2, h2, hc2, he2⟩ := Extends.connect (m := m1) (p := start) (by omega) .epsilon stop
  have hp := fun w => Piece.opt (w := w) hA.piece hs
  refine ⟨stop, m2, _, ?_, hA.toExtends.trans he2, hc2 ▸ (hp []).1, fun w => ?_, ?_⟩
  · simp only [Regex.compile, bind, Except.bind, h1, h2]
    rfl
  · rw [(hp w).2, Regex.Spells, Regex.lang_opt_iff, hA.reads]
    rfl
  · rintro p s q (h | ⟨-, h, -⟩)
    · exact hA.symbol_lt h
    · cases h

/-- what the two repetitions have in common: a state in front of the body, the body, and the ways back and out -/
theorem exists_round (hx : Compiles a x) {start : Nat} {m : Automaton} (hs : start < m.stateCount) :
    ∃ m0 last m1 m2 m3 A, m.addState.connect start .epsilon m.stateCount = .ok m0 ∧
      x.compile a m.stateCount m0 = .ok (last, m1) ∧ m1.addState.connect last .epsilon m.stateCount = .ok m2 ∧
      m2.connect last .epsilon m1.stateCount = .ok m3 ∧ m0.stateCount = m.stateCount + 1 ∧
      m3.stateCount = m1.stateCount + 1 ∧ Fragment a x m0 m1 m.stateCount last A ∧
      Extends m m3 (arc start .epsilon m.stateCount ⊔ A ⊔ arc last .epsilon m.stateCount ⊔
        arc last .epsilon m1.stateCount) := by
  obtain ⟨m0, h0, hc0, he0⟩ := Extends.connect (m := m.addState) (p := start)
    (by rw [Automaton.stateCount_addState]; omega) .epsilon m.stateCount
  rw [Automaton.stateCount_addState] at hc0
  obtain ⟨last, m1, A, h1, hA⟩ := hx (m := m0) (show m.stateCount < m0.stateCount by omega)
  have hl := hA.piece.stop_new
  obtain ⟨m2, h2, hc2, he2⟩ := Extends.connect (m := m1.addState) (p := last)
    (by rw [Automaton.stateCount_addState]; omega) .epsilon m.stateCount
  rw [Automaton.stateCount_addState] at hc2
  obtain ⟨m3, h3, hc3, he3⟩ := Extends.connect (m := m2) (p := last) (by omega) .epsilon m1.stateCount
  refine ⟨m0, last, m1, m2, m3, A, h0, h1, h2, h3, hc0, by omega, hA, ?_⟩
  exact ((he0.behind_addState.trans hA.toExtends).trans he2.behind_addState).trans he3

theorem symbol_lt_of_loop {m m' : Automaton} {A : Moves} {start first last stop p s q : Nat} {pass : Prop}
    (hA : Fragment a x m m' first last A) (h : Piece.loopMoves A start last first stop pass p (.symbol s) q) :
    s < a.size := by
  rcases h with (((⟨-, h, -⟩ | h) | ⟨-, h, -⟩) | ⟨-, h, -⟩) | ⟨-, -, h, -⟩
  · cases h
  · exact hA.symbol_lt h
  · cases h
  · cases h
  · cases h

theorem compiles_plus (hx : Compiles a x) : Compiles a (.plus x) := by
  intro start m hs
  obtain ⟨m0, last, m1, m2, m3, A, h0, h1, h2, h3, hc0, hc3, hA, he⟩ := exists_round hx hs
  have hpA := hA.piece
  rw [hc0] at hpA
  refine ⟨m1.stateCount, m3, Piece.loopMoves A start last m.stateCount m1.stateCount False, ?_,
    he.congr fun p l q => ?_, ?_, fun w => ?_, fun h => symbol_lt_of_loop hA h⟩
  · simp only [Regex.compile, bind, Except.bind, h0, h1, h2, h3]
    rfl
  · exact ⟨Or.inl, fun h => h.resolve_right fun h => h.1⟩
  · rw [hc3]
    exact Piece.loop_piece hpA hs
  · rw [Piece.loop hpA hs hA.reads, false_and, false_or]
    rfl

theorem compiles_star (hx : Compiles a x) : Compiles a (.star x) := by
  intro start m hs
  obtain ⟨m0, last, m1, m2, m3, A, h0, h1, h2, h3, hc0, hc3, hA, he⟩ := exists_round hx hs
  have hpA := hA.piece
  rw [hc0] at hpA
  have hl := hpA.stop_new
  obtain ⟨m4, h4, hc4, he4⟩ := Extends.connect (m := m3) (p := m.stateCount) (by omega) .epsilon m1.stateCount
  refine ⟨m1.stateCount, m4, Piece.loopMoves A start last m.stateCount m1.stateCount True, ?_,
    (he.trans he4).congr fun p l q => or_congr_right (true_and _).symm.to_iff, ?_, fun w => ?_,
    fun h => symbol_lt_of_loop hA h⟩
  · simp only [Regex.compile, bind, Except.bind, h0, h1, h2, h3, h4]
    rfl
  · rw [hc4, hc3]
    exact Piece.loop_piece hpA hs
  · rw [Piece.loop hpA hs hA.reads, true_and, Regex.Spells, Regex.lang_star_iff]

/-- **Compilation.** Over an ordered alphabet that tiles an expression, the expression can be compiled from any state of
any automaton on. The automaton grows by a piece, which reads the words of symbols that the expression spells. -/
theorem compiles_of_tiledBy {r : Regex} (hr : r.TiledBy a) : Compiles a r := by
  induction r with
  | set is => exact compiles_set hr
  | cat x y ihx ihy =>
    obtain ⟨hx, hy⟩ := Regex.tiledBy_cat_iff.1 hr
    exact compiles_cat (ihx hx) (ihy hy)
  | alt x y ihx ihy =>
    obtain ⟨hx, hy⟩ := Regex.tiledBy_alt_iff.1 hr
    exact compiles_alt (ihx hx) (ihy hy)
  | opt x ih => exact compiles_opt (ih hr)
  | plus x ih => exact compiles_plus (ih hr)
  | star x ih => exact compiles_star (ih hr)

end Compiles

end Munch
