/-
The smallest automaton.

The groups of `Automaton.minimize` are the accepting states sorted by token type and cut where the type changes, so two
accepting states are in one group if and only if they recognise the same type. What a state answers, whether it accepts and
with which type, is then all that a word can tell two states apart by.

Results:
- `exists_tokenGroup_iff`: the groups are the classes of the token type.
- `Minimizes`, `minimizes_minimize`: the smallest automaton answers every word as the given one does, and any two of its
  states answer some word differently.
-/
import Mathlib.Tactic
import Munch.Proofs.Automaton.Quotient

namespace Munch

namespace Automaton

variable {m n : Automaton} {f : Nat → Nat}

/-! ## Groups of token types -/

/-- whether a state accepts and with which token type -/
def answer (m : Automaton) (q : Nat) : Bool × Option Nat :=
  (m.isAccepting q, m.token? q)

/-- only accepting states have a token type -/
def TokensAccept (m : Automaton) : Prop :=
  ∀ {q t}, m.token? q = some t → m.isAccepting q = true

/-- an automaton is given by the edges and the answers of its states and by its numbers -/
theorem eq_of_edges (halphabet : m.alphabetSize = n.alphabetSize) (hcount : m.stateCount = n.stateCount)
    (hstart : m.start = n.start) (herror : m.errorState = n.errorState)
    (hanswer : ∀ q < m.stateCount, m.answer q = n.answer q) (hedges : ∀ q < m.stateCount, m.edges q = n.edges q) :
    m = n := by
  have hstates : m.states = n.states := by
    apply Array.ext hcount
    intro q hq hq'
    have hrow := hedges q hq
    have hboth := hanswer q hq
    rw [edges_of_lt hq, edges_of_lt hq'] at hrow
    simp only [answer, isAccepting, token?, Array.getElem?_eq_getElem hq, Array.getElem?_eq_getElem hq',
      Option.any_some, Option.bind_some, Prod.mk.injEq] at hboth
    obtain ⟨haccepting, htoken⟩ := hboth
    rw [State.mk.injEq]
    exact ⟨hrow, haccepting, htoken⟩
  rw [Automaton.mk.injEq]
  exact ⟨halphabet, hstates, hstart, herror⟩

theorem tokenRank_eq_iff {q r : Nat} : m.tokenRank q = m.tokenRank r ↔ m.token? q = m.token? r := by
  unfold tokenRank
  cases m.token? q <;> cases m.token? r <;> simp

theorem flatten_tokenGroups (m : Automaton) : m.tokenGroups.flatten.Perm m.acceptingStates := by
  rw [tokenGroups, List.flatten_splitBy]
  exact List.mergeSort_perm _ _

theorem exists_tokenGroup_iff {q r : Nat} (hq : q ∈ m.acceptingStates) (hr : r ∈ m.acceptingStates) :
    (∃ g ∈ m.tokenGroups, q ∈ g ∧ r ∈ g) ↔ m.token? q = m.token? r := by
  rw [← tokenRank_eq_iff, tokenGroups]
  refine exists_group_iff (fun x y => ?_) (pairwise_sort m.tokenRank m.acceptingStates) (List.mem_mergeSort.2 hq)
    (List.mem_mergeSort.2 hr)
  rw [tokenRank_eq_iff, beq_iff_eq]

/-- the groups of token types tell apart what the answers tell apart -/
theorem alike_tokenGroups_iff (ht : m.TokensAccept) {q r : Nat} (hq : q < m.stateCount) (hr : r < m.stateCount) :
    m.Alike m.tokenGroups q r ↔ m.answer q = m.answer r := by
  have hnone {q : Nat} (h : m.isAccepting q = false) : m.token? q = none := by
    cases hc : m.token? q with
    | none => rfl
    | some t => rw [ht hc] at h; cases h
  simp only [answer, Prod.mk.injEq]
  constructor
  · intro h
    refine ⟨h.accepting_eq m.flatten_tokenGroups, ?_⟩
    rcases h with ⟨h1, h2⟩ | ⟨g, hg, hqg, hrg⟩
    · rw [hnone h1, hnone h2]
    · have hmem {q : Nat} (hqg : q ∈ g) : q ∈ m.acceptingStates :=
        m.flatten_tokenGroups.subset (List.mem_flatten.2 ⟨g, hg, hqg⟩)
      exact (exists_tokenGroup_iff (hmem hqg) (hmem hrg)).1 ⟨g, hg, hqg, hrg⟩
  · rintro ⟨hacc, htok⟩
    cases hcase : m.isAccepting q with
    | false => exact Or.inl ⟨hcase, hacc ▸ hcase⟩
    | true =>
      exact Or.inr ((exists_tokenGroup_iff (mem_acceptingStates.2 ⟨hq, hcase⟩)
        (mem_acceptingStates.2 ⟨hr, hacc ▸ hcase⟩)).2 htok)

/-- no word gets different answers from two states -/
def SameAnswers (m : Automaton) (q r : Nat) : Prop :=
  ∀ w, m.IsWord w → m.answer (m.after q w) = m.answer (m.after r w)

theorem equivalent_tokenGroups_iff (hm : m.Complete) (ht : m.TokensAccept) {q r : Nat} (hq : q < m.stateCount)
    (hr : r < m.stateCount) : m.Equivalent m.tokenGroups q r ↔ m.SameAnswers q r :=
  forall_congr' fun _ => forall_congr' fun hw => alike_tokenGroups_iff ht (hm.after_lt hq hw) (hm.after_lt hr hw)

/-! ## Minimization -/

/-- `n` is `m` with states merged by `f` that give the same answers, and no others -/
structure Minimizes (m n : Automaton) (f : Nat → Nat) : Prop extends Merges m n f where
  token_eq : ∀ {q}, q < m.stateCount → n.token? (f q) = m.token? q
  merged_iff : ∀ {q r}, q < m.stateCount → r < m.stateCount → (f q = f r ↔ m.SameAnswers q r)

namespace Minimizes

theorem answer_eq (h : Minimizes m n f) {q : Nat} (hq : q < m.stateCount) : n.answer (f q) = m.answer q := by
  rw [answer, answer, h.accepting_eq hq, h.token_eq hq]

theorem isWord_iff (h : Minimizes m n f) {w : List Nat} : n.IsWord w ↔ m.IsWord w := by
  rw [IsWord, IsWord, h.alphabetSize_eq]

theorem sameAnswers_iff (h : Minimizes m n f) (hm : m.Complete) {q r : Nat} (hq : q < m.stateCount)
    (hr : r < m.stateCount) : n.SameAnswers (f q) (f r) ↔ m.SameAnswers q r := by
  refine forall_congr' fun w => ?_
  rw [h.isWord_iff]
  refine forall_congr' fun hw => ?_
  rw [h.after_eq hm hq hw, h.after_eq hm hr hw, h.answer_eq (hm.after_lt hq hw), h.answer_eq (hm.after_lt hr hw)]

/-- any two states answer some word differently -/
theorem reduced (h : Minimizes m n f) (hm : m.Complete) {i j : Nat} (hi : i < n.stateCount) (hj : j < n.stateCount)
    (hij : n.SameAnswers i j) : i = j := by
  obtain ⟨q, hq, rfl⟩ := h.surjective hi
  obtain ⟨r, hr, rfl⟩ := h.surjective hj
  exact (h.merged_iff hq hr).2 ((h.sameAnswers_iff hm hq hr).1 hij)

theorem tokensAccept (h : Minimizes m n f) (ht : m.TokensAccept) : n.TokensAccept := by
  intro i t hi
  obtain ⟨q, hq, rfl⟩ := h.surjective (lt_of_token?_eq_some hi)
  rw [h.token_eq hq] at hi
  rw [h.accepting_eq hq, ht hi]

end Minimizes

/-- a state with a token type is listed with it -/
theorem mem_tokenStates {t : Nat × Nat} : t ∈ m.tokenStates ↔ t.1 < m.stateCount ∧ m.token? t.1 = some t.2 := by
  obtain ⟨q, t⟩ := t
  simp only [tokenStates, List.mem_filterMap, List.mem_range, Option.map_eq_some_iff, Prod.mk.injEq]
  constructor
  · rintro ⟨q, hq, t, ht, rfl, rfl⟩
    exact ⟨hq, ht⟩
  · rintro ⟨hq, ht⟩
    exact ⟨q, hq, t, ht, rfl, rfl⟩

/-- the token type of a block whose states have the same is that of any of them -/
theorem blockToken?_eq {p : Partition} (htok : ∀ {q r}, q < m.stateCount → r < m.stateCount →
    p.blockNumber q = p.blockNumber r → m.token? q = m.token? r) {q : Nat} (hq : q < m.stateCount) :
    m.blockToken? p (p.blockNumber q) = m.token? q := by
  unfold blockToken?
  cases hf : m.tokenStates.reverse.find? fun t => p.blockNumber t.1 == p.blockNumber q with
  | none =>
    cases ht : m.token? q with
    | none => rfl
    | some t =>
      have := List.find?_eq_none.1 hf (q, t) (List.mem_reverse.2 (mem_tokenStates.2 ⟨hq, ht⟩))
      simp at this
  | some x =>
    obtain ⟨hlt, hx⟩ := mem_tokenStates.1 (List.mem_reverse.1 (List.mem_of_find?_eq_some hf))
    have hb : p.blockNumber x.1 = p.blockNumber q := by simpa using List.find?_some hf
    rw [Option.map_some, ← hx, htok hlt hq hb]

theorem minimizes_minimize (hm : m.Complete) (ht : m.TokensAccept)
    (he : ∀ e, m.errorState = some e → e < m.stateCount) :
    ∃ n, m.minimize = .ok n ∧ n = m.quotient (Refinement.finest m m.tokenGroups) ∧
      Minimizes m n (Refinement.finest m m.tokenGroups).place := by
  have hg := m.flatten_tokenGroups
  have hstable := stable_finest hm hg
  have hmerged {q r : Nat} (hq : q < m.stateCount) (hr : r < m.stateCount) :
      (Refinement.finest m m.tokenGroups).blockNumber q = (Refinement.finest m m.tokenGroups).blockNumber r ↔
        m.SameAnswers q r := by
    rw [Refinement.blockNumber_finest_iff hm hg hq hr, equivalent_tokenGroups_iff hm ht hq hr]
  refine ⟨_, minimizeGroups_eq hm hg he, rfl, merges_quotient hm hstable, fun {q} hq => ?_, fun {q r} hq hr => ?_⟩
  · rw [token?_quotient hstable.consistent hq]
    refine blockToken?_eq (fun {q r} hq hr he => ?_) hq
    have := (hmerged hq hr).1 he [] (by simp [IsWord])
    exact congrArg Prod.snd this
  · rw [hstable.consistent.place_eq_iff hq hr, hmerged hq hr]

end Automaton

end Munch
