/-
From the automaton of the rules to the smallest automaton.

Results:
- `exists_stages`: the three steps succeed, the last automaton is canonical, and it answers a word with whether the first one
  accepts it and with the least token type that the first one finds in it.
-/
import Mathlib.Tactic
import Munch.Lexer.Definition
import Munch.Proofs.Automaton.Canonical

namespace Munch

namespace Automaton

variable {m d c n : Automaton} {w : List Nat}

/-- `n` answers every word as `m` does, with one state for the word and one token type -/
structure Denotes (m n : Automaton) : Prop where
  alphabetSize_eq : n.alphabetSize = m.alphabetSize
  accepting_iff : ∀ {w}, n.IsWord w → (n.isAccepting (n.after n.start w) = true ↔ m.Accepts w)
  token_iff : ∀ {w t}, n.IsWord w → (n.token? (n.after n.start w) = some t ↔ IsLeast {t | m.Finds w t} t)

/-- the answer to a word that cannot be read is that of the error state -/
theorem Completes.denotes (hd : Determinizes m d) (hc : Completes d c) : Denotes m c := by
  have halpha : c.alphabetSize = m.alphabetSize := hc.alphabetSize_eq.trans hd.alphabetSize_eq
  have hafter {w : List Nat} (hw : c.IsWord w) : c.after c.start w = (d.run? d.start w).elim 0 (· + 1) := by
    rw [hc.start_eq]
    refine hc.after_eq hd.wellFormed hd.deterministic hd.wellFormed.start_lt ?_
    rwa [IsWord, ← hc.alphabetSize_eq]
  have hlt {w : List Nat} {i : Nat} (hr : d.run? d.start w = some i) (hw : c.IsWord w) : i < d.stateCount := by
    have := hc.complete.after_lt hc.complete.start_lt hw
    rw [hafter hw, hr, hc.stateCount_eq] at this
    exact Nat.lt_of_succ_lt_succ this
  refine ⟨halpha, fun {w} hw => ?_, fun {w t} hw => ?_⟩
  · rw [hafter hw]
    cases hr : d.run? d.start w with
    | none =>
      rw [Option.elim_none, show c.isAccepting 0 = false from congrArg Prod.fst hc.answer_zero]
      refine iff_of_false Bool.false_ne_true ?_
      rintro ⟨q, hq, -⟩
      exact hd.run_eq_none hr q hq
    | some i =>
      rw [← hd.accepting_iff hr, ← show c.isAccepting (i + 1) = d.isAccepting i from
        congrArg Prod.fst (hc.answer_succ (hlt hr hw))]
      rfl
  · rw [hafter hw]
    cases hr : d.run? d.start w with
    | none =>
      rw [Option.elim_none, show c.token? 0 = none from congrArg Prod.snd hc.answer_zero]
      refine iff_of_false (Option.some_ne_none t).symm ?_
      rintro ⟨⟨q, hq, -⟩, -⟩
      exact hd.run_eq_none hr q hq
    | some i =>
      rw [← hd.token_iff hr, ← show c.token? (i + 1) = d.token? i from
        congrArg Prod.snd (hc.answer_succ (hlt hr hw))]
      rfl

theorem Minimizes.denotes {f : Nat → Nat} (hc : c.Complete) (h : Denotes m c) (hn : Minimizes c n f) : Denotes m n := by
  have hanswer {w : List Nat} (hw : n.IsWord w) : n.answer (n.after n.start w) = c.answer (c.after c.start w) := by
    have hw' := hn.isWord_iff.1 hw
    rw [hn.start_eq, hn.after_eq hc hc.start_lt hw', hn.answer_eq (hc.after_lt hc.start_lt hw')]
  refine ⟨hn.alphabetSize_eq.trans h.alphabetSize_eq, fun {w} hw => ?_, fun {w t} hw => ?_⟩
  · rw [← h.accepting_iff (hn.isWord_iff.1 hw)]
    exact Bool.eq_iff_iff.1 (congrArg Prod.fst (hanswer hw))
  · rw [← h.token_iff (hn.isWord_iff.1 hw), show n.token? _ = c.token? _ from congrArg Prod.snd (hanswer hw)]

end Automaton

open Automaton (Canonical Denotes)

theorem exists_stages {m : Automaton} (hw : m.WellFormed) (ht : m.TokensAccept) :
    ∃ st, Stages.ofAutomaton m = .ok st ∧ st.minimal.Canonical ∧ Denotes m st.minimal := by
  obtain ⟨d, hd_eq, hd⟩ := Automaton.determinizes_determinize hw
  obtain ⟨c, hc_eq, hc⟩ := Automaton.completes_complete hd.wellFormed hd.deterministic
  have hnum := hc.numbered hd.wellFormed hd.deterministic hd.numbered
  have hstart : c.start = 1 := by rw [hc.start_eq, hd.start_eq]
  obtain ⟨n, f, hn_eq, hn, hcanon⟩ := hc.canonical hnum hstart (hc.tokensAccept (hd.tokensAccept ht))
  refine ⟨{ nfa := m, dfa := d, completed := c, minimal := n }, ?_, hcanon, hn.denotes hc.complete (hc.denotes hd)⟩
  simp only [Stages.ofAutomaton, hd_eq, bind, Except.bind, hc_eq, hn_eq]
  rfl

end Munch
