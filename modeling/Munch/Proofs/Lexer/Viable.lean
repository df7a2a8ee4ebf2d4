/-
Viable words.

A word is viable in a mode if some rule of the mode matches it or a continuation of it. The error state stands for the
words that are not: the automaton is minimal, so every state behind which nothing is accepted is the error state, and what
is accepted behind another state is the continuation of every word that leads there. The loop of the scanner stops in the
error state. So it reads on exactly as long as some rule can still match.

Results:
- `Built.viable_of_follow_ne_zero`, `Built.follow_eq_zero_iff`: the words that lead to the error state.
- `Built.longestFrom_of_not_viable`, `Built.exists_longestFrom_of_viable`: where the loop stops and where it goes on.
- `error_iff_not_viable`: both, for the tables of a lexer.
-/
import Mathlib.Tactic
import Munch.Proofs.Lexer.Minimality
import Munch.Proofs.Lexer.Scan

namespace Munch

/-- some rule of the mode matches the word or a continuation of it -/
def Description.Viable (d : Description Regex) (name : String) (w : List Nat) : Prop :=
  ∃ v o, d.RuleMatches name (w ++ v) o

namespace Definition

variable {d : Description Regex} {l : Definition} {q : Nat} {w : List Nat}

namespace Built

variable (h : Built d l)
include h

theorem follow_append (q : Nat) (u v : List Nat) : l.follow q (u ++ v) = l.follow (l.follow q u) v := by
  induction u generalizing q with
  | nil => rfl
  | cons c u ih => rw [List.cons_append, h.follow_cons, h.follow_cons, ih]

theorem next_follow (q : Nat) (w : List Nat) (c : Char) : l.next (l.follow q w) c = l.follow q (w ++ [c.toNat]) := by
  rw [next, h.follow_append]

variable {mode : Nat} {name : String} (hname : l.modeNames[mode]? = some name)
include hname

/-- behind the error state no rule matches -/
theorem not_viable_of_follow_eq_zero (hw : l.follow (l.automaton.step l.automaton.start mode) w = 0) :
    ¬d.Viable name w := by
  intro hv
  obtain ⟨v, hv⟩ := hv
  have hacc := (h.accepting_follow_iff hname (w ++ v)).2 hv
  rw [h.follow_append, hw, h.follow_zero, h.canonical.isAccepting_zero] at hacc
  cases hacc

/-- what is accepted behind the symbols of a word is matched by a rule, as a continuation of the word -/
theorem viable_of_accepting {v x : List Nat} (hv : l.alphabet.word? w = some v)
    (hx : l.automaton.IsWord (mode :: (v ++ x)))
    (hacc : l.automaton.isAccepting (l.automaton.after l.automaton.start (mode :: (v ++ x))) = true) :
    d.Viable name w := by
  obtain ⟨t, ht⟩ := (h.accepting_iff hx).1 hacc
  have hmode : d.uses.eraseDups[mode]? = some name := h.modeNames_eq ▸ hname
  obtain ⟨y, hy, hm, hs⟩ := ht
  obtain ⟨w', hw'⟩ := Description.exists_word_of_spells hs
  -- the code points of `x` continue the word, whichever code points stand for `v`
  have hmap := Alphabet.word?_eq_some_iff.1 hw'
  have hcont : (Alphabet.ofIntervals d.intervals).word? (w ++ w'.drop v.length) = some (v ++ x) := by
    rw [Alphabet.word?_eq_some_iff, List.map_append, List.map_append, Alphabet.word?_eq_some_iff.1 (h.alphabet_eq ▸ hv),
      List.map_drop, hmap, List.map_append]
    simp
  exact ⟨w'.drop v.length, t, (Description.finds_cons_iff hmode hcont).1 ⟨y, hy, hm, hs⟩⟩

theorem viable_of_follow_ne_zero (hw : l.follow (l.automaton.step l.automaton.start mode) w ≠ 0) : d.Viable name w := by
  have hc := h.canonical
  cases hv : l.alphabet.word? w with
  | none =>
    rw [follow, hv] at hw
    exact absurd rfl hw
  | some v =>
    rw [follow, hv, Option.elim_some] at hw
    have hvword := h.isWord_of_word? hv
    have hlt := hc.complete.after_lt (h.modeStart_lt hname) hvword
    -- the state is not dead
    have hlive := (not_congr (hc.dead_iff h.tokensAccept hlt)).2 hw
    rw [hc.complete.dead_iff hlt] at hlive
    push Not at hlive
    obtain ⟨x, hx, hacc⟩ := hlive
    rw [ne_eq, Bool.not_eq_false, ← Automaton.after_append, ← Automaton.after_cons] at hacc
    exact h.viable_of_accepting hname hv
      (List.forall_mem_cons.2 ⟨h.mode_lt hname, Automaton.isWord_append.2 ⟨hvword, hx⟩⟩) hacc

/-- the error state stands for the words that are not viable -/
theorem follow_eq_zero_iff (w : List Nat) :
    l.follow (l.automaton.step l.automaton.start mode) w = 0 ↔ ¬d.Viable name w := by
  constructor
  · exact h.not_viable_of_follow_eq_zero hname
  · intro hv
    by_contra hw
    exact hv (h.viable_of_follow_ne_zero hname hw)

/-! ## The loop -/

/-- the loop stops at a character with which no rule can match any more -/
theorem longestFrom_of_not_viable (position : Nat) (c : Char) (rest : List Char) (best : Option Match)
    (hv : ¬d.Viable name (w ++ [c.toNat])) :
    l.tables.longestFrom (l.follow (l.automaton.step l.automaton.start mode) w) position best (c :: rest) = .ok best := by
  rw [h.longestFrom_cons (h.follow_lt (h.modeStart_lt hname) w), h.next_follow,
    if_pos ((h.follow_eq_zero_iff hname _).2 hv)]

/-- the loop goes on with the next character as long as some rule can still match, and it remembers the match that ends
here, if there is one -/
theorem exists_longestFrom_of_viable (position : Nat) (c : Char) (rest : List Char) (best : Option Match)
    (hv : d.Viable name (w ++ [c.toNat])) : ∃ best',
    l.tables.longestFrom (l.follow (l.automaton.step l.automaton.start mode) w) position best (c :: rest) =
        l.tables.longestFrom (l.follow (l.automaton.step l.automaton.start mode) (w ++ [c.toNat]))
          (position + c.utf8Size) best' rest ∧
      (best' = best ∧ (∀ o, ¬d.RuleMatches name (w ++ [c.toNat]) o) ∨ ∃ o, d.FirstMatch name (w ++ [c.toNat]) o ∧
        best' = some { token := o, stop := position + c.utf8Size, rest := rest }) := by
  have hne : l.follow (l.automaton.step l.automaton.start mode) (w ++ [c.toNat]) ≠ 0 := by
    intro hzero
    exact (h.follow_eq_zero_iff hname _).1 hzero hv
  rw [h.longestFrom_cons (h.follow_lt (h.modeStart_lt hname) w), h.next_follow, if_neg hne]
  cases ht : l.automaton.token? (l.follow (l.automaton.step l.automaton.start mode) (w ++ [c.toNat])) with
  | none => exact ⟨best, rfl, Or.inl ⟨rfl, (h.token_follow_eq_none_iff hname _).1 ht⟩⟩
  | some o => exact ⟨_, rfl, Or.inr ⟨o, (h.token_follow_iff hname _ o).1 ht, rfl⟩⟩

end Built

/-- **Giving up exactly when hopeless.** From the start of a mode a word of code points leads to the error state if and only
if no continuation of the word is matched by a rule of the mode. So the loop of the scanner stops at a character, whatever
follows it, if no rule can match with that character, and otherwise it goes on. -/
theorem error_iff_not_viable (hb : build d = .ok l) {mode : Nat} (hm : mode < l.tables.modeNames.size) (w : List Nat) :
    ∃ start q, l.tables.modeStart mode = .ok start ∧ l.tables.run start w = .ok q ∧
      (q = l.tables.errorState ↔ ¬d.Viable l.tables.modeNames[mode] w) ∧
      ∀ (c : Char) (rest : List Char) (position : Nat) (best : Option Match),
        (¬d.Viable l.tables.modeNames[mode] (w ++ [c.toNat]) →
          l.tables.longestFrom q position best (c :: rest) = .ok best) ∧
        (d.Viable l.tables.modeNames[mode] (w ++ [c.toNat]) → ∃ r best',
          l.tables.run start (w ++ [c.toNat]) = .ok r ∧ l.tables.longestFrom q position best (c :: rest) =
            l.tables.longestFrom r (position + c.utf8Size) best' rest ∧
          (best' = best ∧ (∀ o, ¬d.RuleMatches l.tables.modeNames[mode] (w ++ [c.toNat]) o) ∨
            ∃ o, d.FirstMatch l.tables.modeNames[mode] (w ++ [c.toNat]) o ∧
              best' = some { token := o, stop := position + c.utf8Size, rest := rest })) := by
  have h := built_of_build hb
  have hname : l.modeNames[mode]? = some l.tables.modeNames[mode] :=
    getElem?_modeNames.symm.trans (Array.getElem?_eq_getElem hm)
  generalize l.tables.modeNames[mode] = name at hname ⊢
  have hstart := h.modeStart_lt hname
  have herror : l.tables.errorState = 0 := h.errorState_eq
  refine ⟨_, _, h.modeStart_eq hname, h.run_tables hstart w, ?_, ?_⟩
  · rw [herror]
    exact h.follow_eq_zero_iff hname w
  · intro c rest position best
    constructor
    · intro hv
      exact h.longestFrom_of_not_viable hname position c rest best hv
    · intro hv
      obtain ⟨best', hloop, hbest⟩ := h.exists_longestFrom_of_viable hname position c rest best hv
      exact ⟨_, best', h.run_tables hstart _, hloop, hbest⟩

/-- one rule that begins with a letter and needs a character of an empty set behind it -/
def impasse : Description Regex :=
  { modes := [{ name := "text", rules := [{ name := "never", expr := .cat (.char 'a') (.set []), next := "text" }] }] }

/-- no word is viable for a rule that matches nothing -/
theorem not_viable_impasse (name : String) (w : List Nat) : ¬impasse.Viable name w := by
  intro hv
  obtain ⟨v, o, r, hr, hm⟩ := hv
  match o, hr with
  | 0, hr =>
    cases hr
    obtain ⟨u, x, -, -, hx⟩ := Regex.lang_cat_iff.1 hm
    obtain ⟨c, -, i, hi, -⟩ := Regex.lang_set_iff.1 hx
    cases hi

/-- the letter leads to the error state, although the rule begins with it -/
theorem error_iff_not_viable_impasse : ∃ l start q, build impasse = .ok l ∧ l.tables.modeStart 0 = .ok start ∧
    l.tables.run start [97] = .ok q ∧ q = l.tables.errorState := by
  obtain ⟨l, hb, h⟩ := exists_build (d := impasse) (by decide)
  have hsize : 0 < l.tables.modeNames.size := by
    rw [show l.tables.modeNames = l.modeNames.toArray from rfl, h.modeNames_eq]
    decide
  obtain ⟨start, q, hstart, hrun, herror, -⟩ := error_iff_not_viable hb hsize [97]
  exact ⟨l, start, q, hb, hstart, hrun, herror.2 (not_viable_impasse _ _)⟩

end Definition

end Munch
