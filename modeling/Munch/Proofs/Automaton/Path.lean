/-
Paths through an automaton, and the words that they read.

Moves are a relation between a state, a label and a state, apart from how an automaton stores them, so that the moves of
a part of an automaton can be named. A path reads the symbols of its moves; moves without input read nothing.

Results:
- `Path.trans`, `Path.mono`: paths are joined, and they are paths of any larger relation.
- `Path.within`: a path that cannot leave a set of states uses the moves of that set only.
- `Path.cut`: a path out of a set of states is cut at the first move that leaves the set.
-/
import Mathlib.Tactic
import Munch.Automaton.Basic

namespace Munch

/-- moves: from a state, on a label, to a state -/
abbrev Moves := Nat → Label → Nat → Prop

/-- the symbols that a move on the label reads -/
def Label.letters : Label → List Nat
  | epsilon => []
  | symbol a => [a]

/-- a word leads from a state to a state -/
inductive Path (F : Moves) : Nat → List Nat → Nat → Prop where
  | done {q : Nat} : Path F q [] q
  | step {p q r : Nat} {l : Label} {w : List Nat} (h : F p l q) (hw : Path F q w r) : Path F p (l.letters ++ w) r

/-- the one move from `p` to `q` -/
def arc (p : Nat) (l : Label) (q : Nat) : Moves :=
  fun p' l' q' => p' = p ∧ l' = l ∧ q' = q

/-- the moves from `p` to `q` on some symbols -/
def arcs (p : Nat) (S : Nat → Prop) (q : Nat) : Moves :=
  fun p' l' q' => p' = p ∧ q' = q ∧ ∃ s, l' = .symbol s ∧ S s

/-- the moves of an automaton -/
def Automaton.moves (m : Automaton) : Moves :=
  fun p l q => ⟨l, q⟩ ∈ m.edges p

/-- a word leads from a state to a state of an automaton -/
def Automaton.Reads (m : Automaton) : Nat → List Nat → Nat → Prop :=
  Path m.moves

variable {F G : Moves} {p q r : Nat} {u v w : List Nat}

@[simp] theorem Label.letters_epsilon : Label.epsilon.letters = [] := rfl

@[simp] theorem Label.letters_symbol (a : Nat) : (Label.symbol a).letters = [a] := rfl

namespace Path

theorem skip (h : F p .epsilon q) (hw : Path F q w r) : Path F p w r :=
  step h hw

theorem read {a : Nat} (h : F p (.symbol a) q) (hw : Path F q w r) : Path F p (a :: w) r :=
  step h hw

theorem single {l : Label} (h : F p l q) : Path F p l.letters q := by
  have := step h done
  rwa [List.append_nil] at this

theorem trans (h : Path F p u q) (h' : Path F q v r) : Path F p (u ++ v) r := by
  induction h with
  | done => exact h'
  | step hm _ ih =>
    rw [List.append_assoc]
    exact step hm (ih h')

theorem mono (hFG : ∀ p l q, F p l q → G p l q) (h : Path F p w q) : Path G p w q := by
  induction h with
  | done => exact done
  | step hm _ ih => exact step (hFG _ _ _ hm) ih

/-- no path leaves a state without moves -/
theorem of_last (hp : ∀ l q, ¬F p l q) (h : Path F p w q) : q = p ∧ w = [] := by
  cases h with
  | done => exact ⟨rfl, rfl⟩
  | step hm _ => exact absurd hm (hp _ _)

/-- what cannot leave a set of states uses the moves of that set only -/
theorem within {S : Nat → Prop} (hS : ∀ p l q, S p → F p l q → G p l q ∧ S q) (h : Path F p w q) (hp : S p) :
    Path G p w q ∧ S q := by
  induction h with
  | done => exact ⟨done, hp⟩
  | step hm _ ih =>
    obtain ⟨hg, hq⟩ := hS _ _ _ hp hm
    obtain ⟨hw, hr⟩ := ih hq
    exact ⟨step hg hw, hr⟩

/-- a path out of a set of states, cut at the first move that leaves the set -/
theorem cut {S : Nat → Prop} {E : Moves} (hS : ∀ p l q, S p → F p l q → G p l q ∧ S q ∨ E p l q) (h : Path F p w r)
    (hp : S p) (hr : ¬S r) :
    ∃ u m l q v, w = u ++ (l.letters ++ v) ∧ Path G p u m ∧ S m ∧ E m l q ∧ Path F q v r := by
  induction h with
  | done => exact absurd hp hr
  | @step p q _ l w hm hw ih =>
    rcases hS _ _ _ hp hm with ⟨hg, hq⟩ | he
    · obtain ⟨u, m, l', q', v, rfl, hu, hrest⟩ := ih hq hr
      exact ⟨l.letters ++ u, m, l', q', v, by rw [List.append_assoc], step hg hu, hrest⟩
    · exact ⟨[], p, l, q, w, rfl, done, hp, he, hw⟩

/-- a path that reads `a` first: moves without input, the move on `a`, and the rest -/
theorem of_cons {a : Nat} (h : Path F p (a :: w) r) :
    ∃ q q', Path F p [] q ∧ F q (.symbol a) q' ∧ Path F q' w r := by
  generalize hw : a :: w = w' at h
  induction h with
  | done => cases hw
  | @step p q _ l w' hm hw' ih =>
    cases l with
    | epsilon =>
      obtain ⟨q1, q2, h1, h2⟩ := ih hw
      exact ⟨q1, q2, skip hm h1, h2⟩
    | symbol b =>
      simp only [Label.letters_symbol, List.singleton_append, List.cons.injEq] at hw
      obtain ⟨rfl, rfl⟩ := hw
      exact ⟨p, q, done, hm, hw'⟩

theorem append_iff : Path F p (u ++ v) r ↔ ∃ q, Path F p u q ∧ Path F q v r := by
  refine ⟨fun h => ?_, fun ⟨q, hu, hv⟩ => hu.trans hv⟩
  induction u generalizing p with
  | nil => exact ⟨p, done, h⟩
  | cons a u ih =>
    obtain ⟨q, q', h1, h2, h3⟩ := of_cons h
    obtain ⟨s, hu, hv⟩ := ih h3
    exact ⟨s, h1.trans (read h2 hu), hv⟩

end Path

end Munch
