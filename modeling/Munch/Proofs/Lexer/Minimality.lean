/-
The smallest lexer.

The rules alone say which token type a word of symbols has: the first rule that is found in it (`Description.Finds`). Words
are alike if every continuation gives them the same token type, and this is what the states of a lexer stand for. A state
of its own goes to the error state if no word leads to it; that is so if every state that a word leads to can still accept.

Results:
- `Built.accepting_iff_token`: the states that accept are those with a token type.
- `Built.nerode_eq`: words are alike if and only if they lead to one state.
- `automaton_minimal`: the automaton of a lexer has no state too many.
-/
import Mathlib.Tactic
import Munch.Proofs.Automaton.Classes
import Munch.Proofs.Lexer.Tables

namespace Munch

/-- words over `k` symbols are alike if every continuation has the same first rule -/
def Description.nerode (d : Description Regex) (k : Nat) : Setoid (Word k) where
  r u v := ∀ w, (∀ s ∈ w, s < k) → ∀ t, IsLeast {t | d.Finds t (u.1 ++ w)} t ↔ IsLeast {t | d.Finds t (v.1 ++ w)} t
  iseqv :=
    { refl := fun _ _ _ _ => Iff.rfl
      symm := fun h w hw t => (h w hw t).symm
      trans := fun h h' w hw t => (h w hw t).trans (h' w hw t) }

namespace Definition

variable {d : Description Regex} {l : Definition} {q : Nat} {u v : List Nat}

namespace Built

variable (h : Built d l)
include h

/-- the states that accept are those with a token type -/
theorem accepting_iff_token (hq : q < l.automaton.stateCount) :
    l.automaton.isAccepting q = true ↔ ∃ t, l.automaton.token? q = some t := by
  revert hq
  apply h.canonical.forall_lt_of_forall_word (P := fun q => l.automaton.isAccepting q = true ↔
    ∃ t, l.automaton.token? q = some t)
  · rw [h.canonical.isAccepting_zero, h.canonical.token?_zero]
    simp
  · intro w hw
    simp only [h.accepting_iff hw, h.token_iff hw]
    exact exists_isLeast_iff.symm

theorem tokensAccept : l.automaton.TokensAccept := by
  intro q t ht
  exact (h.accepting_iff_token (Automaton.lt_of_token?_eq_some ht)).2 ⟨t, ht⟩

/-- words get one answer if and only if the same rule is the first one that is found in them -/
theorem answer_eq_iff (hu : l.automaton.IsWord u) (hv : l.automaton.IsWord v) :
    l.automaton.answer (l.automaton.after l.automaton.start u) =
        l.automaton.answer (l.automaton.after l.automaton.start v) ↔
      ∀ t, IsLeast {t | d.Finds t u} t ↔ IsLeast {t | d.Finds t v} t := by
  simp only [← h.token_iff hu, ← h.token_iff hv]
  constructor
  · intro he t
    rw [show l.automaton.token? _ = l.automaton.token? _ from congrArg Prod.snd he]
  · intro htoken
    apply Prod.ext
    · rw [Bool.eq_iff_iff]
      show l.automaton.isAccepting _ = true ↔ l.automaton.isAccepting _ = true
      rw [h.accepting_iff_token (h.canonical.complete.after_lt h.canonical.complete.start_lt hu),
        h.accepting_iff_token (h.canonical.complete.after_lt h.canonical.complete.start_lt hv)]
      exact exists_congr htoken
    · exact Option.ext htoken

/-- words are alike if and only if they lead to one state -/
theorem nerode_eq : d.nerode l.automaton.alphabetSize =
    Setoid.ker fun w : Word l.automaton.alphabetSize => l.automaton.after l.automaton.start w.1 := by
  ext u v
  rw [Setoid.ker_def, h.canonical.after_eq_iff u.2 v.2]
  apply forall₂_congr
  intro w hw
  rw [h.answer_eq_iff (Automaton.isWord_append.2 ⟨u.2, hw⟩) (Automaton.isWord_append.2 ⟨v.2, hw⟩)]

/-- there is one class of words for each state that words lead to -/
theorem card_nerode : Nat.card (Quotient (d.nerode l.automaton.alphabetSize)) =
    Nat.card (Set.range fun w : Word l.automaton.alphabetSize => l.automaton.after l.automaton.start w.1) := by
  rw [h.nerode_eq]
  exact Nat.card_congr (Setoid.quotientKerEquivRange _)

theorem finite_nerode : Finite (Quotient (d.nerode l.automaton.alphabetSize)) := by
  rw [h.nerode_eq]
  have := h.canonical.finite_range_after.to_subtype
  exact Finite.of_equiv _ (Setoid.quotientKerEquivRange _).symm

end Built

/-- **The smallest automaton.** Any two states of the automaton of a lexer are told apart by a word, and every state but the
error state is reached from the start. So there are as many states as there are classes of words that nothing behind them
tells apart, and one more if every state that is reached can still accept. -/
theorem automaton_minimal (hb : build d = .ok l) :
    (∀ p < l.automaton.stateCount, ∀ q < l.automaton.stateCount, p ≠ q → ∃ w, l.automaton.Distinguishes w p q) ∧
      (∀ q < l.automaton.stateCount, q ≠ l.errorState → l.automaton.Reachable q) ∧
      Finite (Quotient (d.nerode l.automaton.alphabetSize)) ∧
      ((∃ q, l.automaton.Reachable q ∧ l.automaton.Dead q) →
        l.automaton.stateCount = Nat.card (Quotient (d.nerode l.automaton.alphabetSize))) ∧
      ((¬∃ q, l.automaton.Reachable q ∧ l.automaton.Dead q) →
        l.automaton.stateCount = Nat.card (Quotient (d.nerode l.automaton.alphabetSize)) + 1) := by
  have h := built_of_build hb
  have hc := h.canonical
  rw [hc.exists_reachable_dead_iff h.tokensAccept, h.errorState_eq, h.card_nerode]
  refine ⟨?_, ?_, h.finite_nerode, ?_, ?_⟩
  · intro p hp q hq hne
    exact hc.exists_distinguishes h.tokensAccept hp hq hne
  · intro q hq hne
    exact hc.reachable hq hne
  · intro h0
    exact (hc.card_of_reachable_zero h0).symm
  · intro h0
    exact (hc.card_of_not_reachable_zero h0).symm

/-- nothing is found behind two letters, so that the error state of `letters` stands for a class of words -/
theorem automaton_minimal_letters : ∃ l, build letters = .ok l ∧
    l.automaton.stateCount = Nat.card (Quotient (letters.nerode l.automaton.alphabetSize)) := by
  obtain ⟨l, hb, h⟩ := exists_build (d := letters) (by decide)
  have hc := h.canonical.complete
  have hname : l.modeNames[0]? = some "text" := by
    rw [h.modeNames_eq]
    rfl
  have hword : l.automaton.IsWord [0, 0, 0] := by simp [Automaton.IsWord, h.mode_lt hname]
  have hnothing (t : Nat) (w : List Nat) : ¬letters.Finds t ([0, 0, 0] ++ w) := by
    intro hf
    obtain ⟨x, hx, -, hs⟩ := hf
    have hset : ∃ is, x.2.expr = .set is := by
      rcases List.mem_cons.1 (List.mem_of_getElem? hx) with rfl | hx
      · exact ⟨_, rfl⟩
      · obtain rfl := List.mem_singleton.1 hx
        exact ⟨_, rfl⟩
    obtain ⟨is, his⟩ := hset
    rw [his] at hs
    obtain ⟨c, hcw, -⟩ := Regex.lang_set_iff.1 hs
    simp at hcw
  have hdead : l.automaton.Dead (l.automaton.after l.automaton.start [0, 0, 0]) := by
    rw [hc.dead_iff (hc.after_lt hc.start_lt hword)]
    intro w hw
    rw [← Automaton.after_append, Bool.eq_false_iff, ne_eq, h.accepting_iff (Automaton.isWord_append.2 ⟨hword, hw⟩)]
    intro hf
    obtain ⟨t, ht⟩ := hf
    exact hnothing t w ht
  obtain ⟨-, -, -, hcard, -⟩ := automaton_minimal hb
  exact ⟨l, hb, hcard ⟨_, hc.reachable_iff.2 ⟨_, hword, rfl⟩, hdead⟩⟩

end Definition

end Munch
