/-
States and classes of words.

In a canonical automaton the states are what words lead to. Every state but the error state is reached from the start, any
two states are told apart by a word, and the only state behind which nothing is accepted is the error state. So two words
lead to one state if and only if no word behind them gets different answers, and there are as many classes of such words as
there are states that are reached.

Results:
- `Complete.run?_eq_some_iff`: a run follows a word over the symbols, and gets stuck on any other word.
- `Canonical.reachable`, `Canonical.exists_distinguishes`, `Canonical.dead_iff`: the three facts about states.
- `Canonical.card_of_reachable_zero`, `Canonical.card_of_not_reachable_zero`: the number of states that words lead to.
-/
import Mathlib.Tactic
import Munch.Proofs.Automaton.Canonical

namespace Munch

/-- the words over `k` symbols -/
abbrev Word (k : Nat) : Type :=
  { w : List Nat // ∀ s ∈ w, s < k }

namespace Automaton

variable {m : Automaton} {p q r : Nat} {u v w : List Nat}

/-- a word leads from the start to the state -/
def Reachable (m : Automaton) (q : Nat) : Prop :=
  ∃ w, m.run? m.start w = some q

/-- no word leads from the state to one that accepts -/
def Dead (m : Automaton) (q : Nat) : Prop :=
  ∀ w r, m.run? q w = some r → m.isAccepting r = false

/-- behind the word exactly one of the two states accepts, or both accept with different token types -/
def Distinguishes (m : Automaton) (w : List Nat) (p q : Nat) : Prop :=
  m.IsWord w ∧ ∃ p' q', m.run? p w = some p' ∧ m.run? q w = some q' ∧
    (m.isAccepting p' ≠ m.isAccepting q' ∨
      m.isAccepting p' = true ∧ m.isAccepting q' = true ∧ m.token? p' ≠ m.token? q')

/-! ## Runs -/

theorem after_append (m : Automaton) (q : Nat) (u v : List Nat) : m.after q (u ++ v) = m.after (m.after q u) v :=
  List.foldl_append

theorem isWord_append : m.IsWord (u ++ v) ↔ m.IsWord u ∧ m.IsWord v :=
  List.forall_mem_append

theorem Complete.run?_eq_some_iff (h : m.Complete) (hq : q < m.stateCount) :
    m.run? q w = some r ↔ m.IsWord w ∧ m.after q w = r := by
  induction w generalizing q with
  | nil => simp [IsWord]
  | cons s w ih =>
    rw [run?_cons, after_cons, Option.bind_eq_some_iff]
    constructor
    · intro hrun
      obtain ⟨t, ht, hrun⟩ := hrun
      obtain ⟨hs, rfl⟩ := (h.moves_iff hq).1 ((target?_eq_some_iff h.ascending h.deterministic).1 ht)
      obtain ⟨hw, hr⟩ := (ih (h.step_lt hq hs)).1 hrun
      exact ⟨List.forall_mem_cons.2 ⟨hs, hw⟩, hr⟩
    · intro hrun
      obtain ⟨hs, hw⟩ := List.forall_mem_cons.1 hrun.1
      exact ⟨m.step q s, h.target?_eq hq hs, (ih (h.step_lt hq hs)).2 ⟨hw, hrun.2⟩⟩

theorem Complete.reachable_iff (h : m.Complete) : m.Reachable q ↔ ∃ w, m.IsWord w ∧ m.after m.start w = q :=
  exists_congr fun _ => h.run?_eq_some_iff h.start_lt

theorem Complete.lt_of_reachable (h : m.Complete) (hq : m.Reachable q) : q < m.stateCount := by
  obtain ⟨w, hw, rfl⟩ := h.reachable_iff.1 hq
  exact h.after_lt h.start_lt hw

theorem Complete.dead_iff (h : m.Complete) (hq : q < m.stateCount) :
    m.Dead q ↔ ∀ w, m.IsWord w → m.isAccepting (m.after q w) = false := by
  constructor
  · intro hd w hw
    exact hd w _ ((h.run?_eq_some_iff hq).2 ⟨hw, rfl⟩)
  · intro hd w r hr
    obtain ⟨hw, rfl⟩ := (h.run?_eq_some_iff hq).1 hr
    exact hd w hw

/-! ## States -/

theorem TokensAccept.answer_eq (ht : m.TokensAccept) (hq : m.isAccepting q = false) : m.answer q = (false, none) := by
  cases hc : m.token? q with
  | none => rw [answer, hq, hc]
  | some t =>
    rw [ht hc] at hq
    cases hq

namespace Canonical

variable (h : m.Canonical)
include h

/-- every state but the error state is found from the start -/
theorem reachable (hq : q < m.stateCount) (hne : q ≠ 0) : m.Reachable q := by
  rw [h.complete.reachable_iff]
  induction q using Nat.strong_induction_on with
  | _ q ih =>
    have hstart : m.start = 1 := h.start_eq.resolve_left (by omega)
    by_cases h1 : q = 1
    · exact ⟨[], by simp [IsWord], by rw [after_nil, hstart, h1]⟩
    · -- the state is found from a smaller one, which is not the error state
      obtain ⟨i, a, hi, hiq, hmv⟩ := h.numbered.found (j := q) (by omega) hq
      obtain ⟨hlt, ha, rfl⟩ := h.moves_iff.1 hmv
      obtain ⟨w, hw, rfl⟩ := ih i hiq hlt (by omega)
      refine ⟨w ++ [a], isWord_append.2 ⟨hw, by simpa [IsWord] using ha⟩, ?_⟩
      rw [after_append]
      rfl

/-- what holds of the error state, and of every state that a word leads to, holds of all states -/
theorem forall_lt_of_forall_word {P : Nat → Prop} (h0 : P 0) (hP : ∀ w, m.IsWord w → P (m.after m.start w))
    (hq : q < m.stateCount) : P q := by
  by_cases hne : q = 0
  · rw [hne]
    exact h0
  · obtain ⟨w, hw, rfl⟩ := h.complete.reachable_iff.1 (h.reachable hq hne)
    exact hP w hw

/-- words lead to one state if and only if no word behind them gets different answers -/
theorem after_eq_iff (hu : m.IsWord u) (hv : m.IsWord v) : m.after m.start u = m.after m.start v ↔
    ∀ w, m.IsWord w → m.answer (m.after m.start (u ++ w)) = m.answer (m.after m.start (v ++ w)) := by
  simp only [after_append]
  constructor
  · intro he w _
    rw [he]
  · intro hw
    exact h.reduced (h.complete.after_lt h.complete.start_lt hu) (h.complete.after_lt h.complete.start_lt hv) hw

variable (ht : m.TokensAccept)
include ht

theorem exists_distinguishes (hp : p < m.stateCount) (hq : q < m.stateCount) (hne : p ≠ q) :
    ∃ w, m.Distinguishes w p q := by
  have hdiffer : ∃ w, m.IsWord w ∧ m.answer (m.after p w) ≠ m.answer (m.after q w) := by
    by_contra hsame
    apply hne
    apply h.reduced hp hq
    intro w hw
    by_contra hanswer
    exact hsame ⟨w, hw, hanswer⟩
  obtain ⟨w, hw, hanswer⟩ := hdiffer
  refine ⟨w, hw, m.after p w, m.after q w, (h.complete.run?_eq_some_iff hp).2 ⟨hw, rfl⟩,
    (h.complete.run?_eq_some_iff hq).2 ⟨hw, rfl⟩, ?_⟩
  by_cases hacc : m.isAccepting (m.after p w) = m.isAccepting (m.after q w)
  · right
    cases hp' : m.isAccepting (m.after p w) with
    | false =>
      rw [ht.answer_eq hp', ht.answer_eq (hacc ▸ hp')] at hanswer
      exact absurd rfl hanswer
    | true =>
      refine ⟨rfl, hacc ▸ hp', ?_⟩
      intro htoken
      apply hanswer
      rw [answer, answer, hacc, htoken]
  · exact Or.inl hacc

/-- nothing is accepted behind the error state, and behind no other state -/
theorem dead_iff (hq : q < m.stateCount) : m.Dead q ↔ q = 0 := by
  rw [h.complete.dead_iff hq]
  constructor
  · intro hd
    apply h.reduced hq h.stateCount_pos
    intro w hw
    rw [h.after_zero hw, h.answer_zero]
    exact ht.answer_eq (hd w hw)
  · rintro rfl w hw
    rw [h.after_zero hw]
    exact h.isAccepting_zero

theorem exists_reachable_dead_iff : (∃ q, m.Reachable q ∧ m.Dead q) ↔ m.Reachable 0 := by
  constructor
  · intro hex
    obtain ⟨q, hq, hd⟩ := hex
    obtain rfl := (h.dead_iff ht (h.complete.lt_of_reachable hq)).1 hd
    exact hq
  · intro h0
    exact ⟨0, h0, (h.dead_iff ht h.stateCount_pos).2 rfl⟩

/-! ## Counting -/

omit ht

/-- the states that words lead to -/
theorem range_after : Set.range (fun w : Word m.alphabetSize => m.after m.start w.1) = { q | m.Reachable q } := by
  ext q
  rw [Set.mem_ofPred_eq, h.complete.reachable_iff, Set.mem_range]
  constructor
  · intro hw
    obtain ⟨w, hw⟩ := hw
    exact ⟨w.1, w.2, hw⟩
  · intro hw
    obtain ⟨w, hw, hq⟩ := hw
    exact ⟨⟨w, hw⟩, hq⟩

theorem finite_range_after : (Set.range fun w : Word m.alphabetSize => m.after m.start w.1).Finite := by
  apply (Set.finite_Iio m.stateCount).subset
  rw [h.range_after]
  intro q hq
  exact h.complete.lt_of_reachable hq

theorem card_of_reachable_zero (h0 : m.Reachable 0) :
    Nat.card (Set.range fun w : Word m.alphabetSize => m.after m.start w.1) = m.stateCount := by
  have hset : { q | m.Reachable q } = ↑(Finset.range m.stateCount) := by
    ext q
    simp only [Set.mem_ofPred_eq, Finset.coe_range, Set.mem_Iio]
    constructor
    · exact h.complete.lt_of_reachable
    · intro hq
      by_cases hne : q = 0
      · rw [hne]
        exact h0
      · exact h.reachable hq hne
  rw [h.range_after, hset, Nat.card_coe_set_eq, Set.ncard_coe_finset, Finset.card_range]

theorem card_of_not_reachable_zero (h0 : ¬m.Reachable 0) :
    Nat.card (Set.range fun w : Word m.alphabetSize => m.after m.start w.1) + 1 = m.stateCount := by
  have hset : { q | m.Reachable q } = ↑(Finset.Ico 1 m.stateCount) := by
    ext q
    simp only [Set.mem_ofPred_eq, Finset.coe_Ico, Set.mem_Ico]
    constructor
    · intro hq
      have hne : q ≠ 0 := by
        intro he
        exact h0 (he ▸ hq)
      exact ⟨by omega, h.complete.lt_of_reachable hq⟩
    · intro hq
      exact h.reachable hq.2 (by omega)
  have hpos := h.stateCount_pos
  rw [h.range_after, hset, Nat.card_coe_set_eq, Set.ncard_coe_finset, Nat.card_Ico]
  omega

end Canonical

end Automaton

end Munch
