/-
The smallest automaton as a quotient.

Minimization merges states by a map, the place of a state among the blocks of the finest partition. The map goes along with
every word: where a word leads in the given automaton, it leads in the smallest one up to the map. The map keeps what a
state answers, and a merged state has the number of its smallest member among all smallest members.

Results:
- `Complete.run?_of_isWord`, `Complete.run?_of_not_isWord`: runs of a complete automaton.
- `Minimizes.run?_eq`: words lead from merged states to merged states.
- `Consistent.isLeast_leader`, `Consistent.exists_first`: merged states are in the order of their smallest members.
- `minimize_labeledQuotient`: all of it, for every complete automaton with labels on accepting states.
-/
import Mathlib.Tactic
import Munch.Proofs.Automaton.Classes

namespace Munch

namespace Partition

variable {p : Partition} {n q : Nat}

/-- the smallest state of a block is the smallest one with its number -/
theorem Consistent.isLeast_leader (h : p.Consistent n) (hq : q < n) :
    IsLeast {r | r < n ∧ p.place r = p.place q} (p.leader q) := by
  refine ⟨⟨h.leader_lt hq, ?_⟩, ?_⟩
  · rw [h.place_eq_iff (h.leader_lt hq) hq]
    exact h.blockNumber_leader hq
  · intro r hr
    exact h.leader_le hq hr.1 ((h.place_eq_iff hr.1 hq).1 hr.2)

/-- the smallest states with each number ascend -/
theorem Consistent.exists_first (h : p.Consistent n) : ∃ first : Nat → Nat,
    (∀ i < p.blocks.size, IsLeast {q | q < n ∧ p.place q = i} (first i)) ∧
      StrictMonoOn first (Set.Iio p.blocks.size) := by
  have hmember : ∀ i < p.blocks.size, ∃ q < n, p.place q = i := by
    intro i hi
    exact h.exists_place_eq hi
  choose! member hlt hplace using hmember
  refine ⟨fun i => p.leader (member i), ?_, ?_⟩
  · intro i hi
    have := h.isLeast_leader (hlt i hi)
    rwa [hplace i hi] at this
  · intro i hi j hj hij
    apply (h.place_lt_place_iff (hlt i hi) (hlt j hj)).1
    rwa [hplace i hi, hplace j hj]

end Partition

namespace Automaton

variable {m n : Automaton} {f : Nat → Nat} {q r : Nat} {w : List Nat}

/-! ## Runs -/

theorem Complete.run?_of_isWord (h : m.Complete) (hq : q < m.stateCount) (hw : m.IsWord w) :
    m.run? q w = some (m.after q w) :=
  (h.run?_eq_some_iff hq).2 ⟨hw, rfl⟩

theorem Complete.run?_of_not_isWord (h : m.Complete) (hq : q < m.stateCount) (hw : ¬m.IsWord w) :
    m.run? q w = none := by
  rw [Option.eq_none_iff_forall_ne_some]
  intro r hr
  exact hw ((h.run?_eq_some_iff hq).1 hr).1

theorem Complete.run?_isSome_iff (h : m.Complete) (hq : q < m.stateCount) :
    (m.run? q w).isSome = true ↔ m.IsWord w := by
  by_cases hw : m.IsWord w
  · simp [h.run?_of_isWord hq hw, hw]
  · simp [h.run?_of_not_isWord hq hw, hw]

/-- a word leads from a merged state to where it leads from any of its members, up to the map -/
theorem Minimizes.run?_eq (h : Minimizes m n f) (hm : m.Complete) (hq : q < m.stateCount) (w : List Nat) :
    n.run? (f q) w = (m.run? q w).map f := by
  by_cases hw : m.IsWord w
  · rw [hm.run?_of_isWord hq hw, h.complete.run?_of_isWord (h.lt hq) (h.isWord_iff.2 hw), h.after_eq hm hq hw,
      Option.map_some]
  · rw [hm.run?_of_not_isWord hq hw, h.complete.run?_of_not_isWord (h.lt hq) (mt h.isWord_iff.1 hw), Option.map_none]

/-- states that are merged have one token type -/
theorem Minimizes.apart (h : Minimizes m n f) (hq : q < m.stateCount) (hr : r < m.stateCount)
    (hne : m.token? q ≠ m.token? r) : f q ≠ f r := by
  intro he
  apply hne
  rw [← h.token_eq hq, he, h.token_eq hr]

/-! ## The quotient -/

/-- `n` is the automaton `m` with labels, after `f` has merged states -/
structure LabeledQuotient (m n : Automaton) (f : Nat → Nat) : Prop where
  alphabetSize_eq : n.alphabetSize = m.alphabetSize
  wellFormed : n.WellFormed
  deterministic : n.isDeterministic = true
  complete : n.isComplete = true
  lt : ∀ q < m.stateCount, f q < n.stateCount
  surjective : ∀ i < n.stateCount, ∃ q < m.stateCount, f q = i
  run_isSome_iff : ∀ q < m.stateCount, ∀ w, (m.run? q w).isSome = true ↔ ∀ s ∈ w, s < m.alphabetSize
  run_eq : ∀ q < m.stateCount, ∀ w, n.run? (f q) w = (m.run? q w).map f
  accepting_eq : ∀ q < m.stateCount, n.isAccepting (f q) = m.isAccepting q
  token_eq : ∀ q < m.stateCount, n.token? (f q) = m.token? q
  start_eq : n.start = f m.start
  error_eq : n.errorState = m.errorState.map f
  /-- accepting states with different token types are not merged -/
  apart : ∀ q < m.stateCount, ∀ r < m.stateCount, m.isAccepting q = true → m.isAccepting r = true →
    m.token? q ≠ m.token? r → f q ≠ f r
  /-- the merged states are in the order of their smallest members -/
  ordered : ∃ first : Nat → Nat, (∀ i < n.stateCount, IsLeast {q | q < m.stateCount ∧ f q = i} (first i)) ∧
    StrictMonoOn first (Set.Iio n.stateCount)
  zero_eq : f 0 = 0

/-- **Minimization is a labeled quotient.** A complete automaton whose token types are on accepting states, and whose error
state is a state if it has one, is minimized. The smallest automaton is complete and deterministic, and the place of a
state in the refinement is a map onto its states that goes along with all runs and keeps acceptance, token types, the start
and the error state. The merged states are numbered by their smallest members. -/
theorem minimize_labeledQuotient (hw : m.WellFormed) (hc : m.isComplete = true) (ht : m.TokensAccept)
    (he : ∀ e, m.errorState = some e → e < m.stateCount) :
    ∃ n, m.minimize = .ok n ∧ LabeledQuotient m n (Refinement.finest m m.tokenGroups).place := by
  have hm := hw.complete hc
  obtain ⟨n, hn, hquot, h⟩ := minimizes_minimize hm ht he
  have hcons := (stable_finest hm m.flatten_tokenGroups).consistent
  have hcount : n.stateCount = (Refinement.finest m m.tokenGroups).blocks.size := by
    rw [hquot, stateCount_quotient]
  refine ⟨n, hn, ?_⟩
  exact
    { alphabetSize_eq := h.alphabetSize_eq
      wellFormed := h.complete.wellFormed
      deterministic := (isDeterministic_iff h.complete.ascending).2 h.complete.deterministic
      complete := h.complete.isComplete
      lt := fun _ hq => h.lt hq
      surjective := fun _ hi => h.surjective hi
      run_isSome_iff := fun _ hq _ => hm.run?_isSome_iff hq
      run_eq := fun _ hq w => h.run?_eq hm hq w
      accepting_eq := fun _ hq => h.accepting_eq hq
      token_eq := fun _ hq => h.token_eq hq
      start_eq := h.start_eq
      error_eq := h.error_eq
      apart := fun _ hq _ hr _ _ hne => h.apart hq hr hne
      ordered := by
        rw [hcount]
        exact hcons.exists_first
      zero_eq := place_zero hcons (Nat.zero_lt_of_lt hm.start_lt) }

/-- an error state, a start, two states of one token type that move to each other, and one of another token type -/
def shades : Automaton :=
  { alphabetSize := 2
    states := #[{ edges := row 2 fun _ => 0 }, { edges := row 2 fun s => 2 * s + 2 },
      { edges := row 2 fun s => 3 - 3 * s, accepting := true, token := some 5 },
      { edges := row 2 fun s => 2 - 2 * s, accepting := true, token := some 5 },
      { edges := row 2 fun s => 2 - 2 * s, accepting := true, token := some 7 }]
    start := 1
    errorState := some 0 }

theorem complete_shades : shades.Complete :=
  complete_of_rows (f := fun q s => match q with | 0 => 0 | 1 => 2 * s + 2 | 2 => 3 - 3 * s | _ => 2 - 2 * s)
    (by decide) (by decide) (by decide)

theorem tokensAccept_shades : shades.TokensAccept := by
  intro q t h
  match q with
  | 0 | 1 => cases h
  | 2 | 3 | 4 => rfl
  | _ + 5 => cases h

theorem errorState_shades : ∀ e, shades.errorState = some e → e < shades.stateCount := by
  intro e h
  cases h
  decide

/-- the last state keeps its token type, and is not merged with those of the other one -/
theorem minimize_labeledQuotient_shades : ∃ n, shades.minimize = .ok n ∧
    LabeledQuotient shades n (Refinement.finest shades shades.tokenGroups).place ∧
    n.token? ((Refinement.finest shades shades.tokenGroups).place 4) = some 7 ∧
    (Refinement.finest shades shades.tokenGroups).place 2 ≠ (Refinement.finest shades shades.tokenGroups).place 4 := by
  obtain ⟨n, hn, h⟩ := minimize_labeledQuotient complete_shades.wellFormed complete_shades.isComplete tokensAccept_shades
    errorState_shades
  have htoken := h.token_eq 4 (by decide)
  exact ⟨n, hn, h, htoken, h.apart 2 (by decide) 4 (by decide) (by decide) (by decide) (by decide)⟩

end Automaton

end Munch
