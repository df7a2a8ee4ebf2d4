/-
Minimization does nothing to a smallest automaton.

If no two states of a complete automaton are equivalent, every block of the refinement ends with one state. The blocks have
numbers in the order in which they were split off, but the merged states are in the order of their smallest members, so each
state keeps its number, and with it all else. The result of a minimization is such an automaton: minimization of it groups
its states by token type again, and those groups tell apart all that the groups of the given automaton told apart.

Results:
- `Consistent.place_eq_self`: blocks of one state each are numbered by their states.
- `quotient_eq_self`: an automaton is its own quotient by such blocks.
- `minimizeGroups_eq_self`: an automaton without equivalent states is returned as it is.
- `minimize_idempotent`: this for automata whose states words tell apart, and for the results of minimization.
-/
import Mathlib.Tactic
import Munch.Proofs.Automaton.Reduction

namespace Munch

/-! ## Blocks of one state -/

namespace Partition

variable {p : Partition} {n q : Nat}

/-- no two states share a block -/
def Separates (p : Partition) (n : Nat) : Prop :=
  ∀ q < n, ∀ r < n, p.blockNumber q = p.blockNumber r → q = r

namespace Consistent

variable (h : p.Consistent n) (hsep : p.Separates n)
include h hsep

theorem leader_eq_self (hq : q < n) : p.leader q = q :=
  hsep _ (h.leader_lt hq) _ hq (h.blockNumber_leader hq)

/-- blocks of one state are numbered by their states, since places ascend with the states and leave no number out -/
theorem place_eq_self (hq : q < n) : p.place q = q := by
  have hlt {q r : Nat} (hq : q < n) (hr : r < n) : p.place q < p.place r ↔ q < r := by
    rw [h.place_lt_place_iff hq hr, h.leader_eq_self hsep hq, h.leader_eq_self hsep hr]
  induction q using Nat.strong_induction_on with
  | _ q ih =>
    rcases Nat.lt_trichotomy (p.place q) q with hless | heq | hmore
    · -- the state with that number is at its place already
      have hsame := ih (p.place q) hless (hless.trans hq)
      have := (hlt (hless.trans hq) hq).2 hless
      omega
    · exact heq
    · -- the number `q` is the place of some state, and of a smaller one only
      obtain ⟨r, hr, hrq⟩ := h.exists_place_eq (hmore.trans (h.place_lt hq))
      have hrlt : r < q := (hlt hr hq).1 (by omega)
      have := ih r hrlt hr
      omega

theorem size_eq_self : p.blocks.size = n := by
  apply Nat.le_antisymm h.size_le
  by_contra hgt
  have hlast : p.blocks.size < n := Nat.not_le.1 hgt
  have := h.place_lt hlast
  have := h.place_eq_self hsep hlast
  omega

end Consistent

end Partition

namespace Automaton

variable {m n : Automaton} {p : Partition} {q r : Nat} {w : List Nat} {groups : List (List Nat)}

/-! ## Quotients by blocks of one state -/

/-- merging no states leaves an automaton as it is -/
theorem quotient_eq_self (hm : m.Complete) (hp : p.Consistent m.stateCount) (hsep : p.Separates m.stateCount)
    (he : ∀ e, m.errorState = some e → e < m.stateCount) : m.quotient p = m := by
  have hplace {q : Nat} (hq : q < m.stateCount) : p.place q = q := hp.place_eq_self hsep hq
  have hleader {q : Nat} (hq : q < m.stateCount) : p.leader q = q := hp.leader_eq_self hsep hq
  have hcount : (m.quotient p).stateCount = m.stateCount := by
    rw [stateCount_quotient, hp.size_eq_self hsep]
  have halphabet : m.alphabetSize = (m.quotient p).alphabetSize := rfl
  have herror : m.errorState = (m.quotient p).errorState := by
    rw [quotient_eq]
    cases herror : m.errorState with
    | none => rfl
    | some e => rw [Option.map_some, hplace (he e herror)]
  refine (eq_of_edges halphabet hcount.symm (hplace hm.start_lt).symm herror ?_ ?_).symm
  · intro q hq
    have haccepting := isAccepting_quotient hp hq
    have htoken := token?_quotient hp hq
    rw [blockToken?_eq (fun hq hr hqr => by rw [hsep _ hq _ hr hqr]) hq] at htoken
    rw [hplace hq] at haccepting htoken
    rw [answer, answer, haccepting, htoken, hleader hq]
  · intro q hq
    have hrow := edges_quotient hm hp hq
    rw [hplace hq, hleader hq] at hrow
    rw [hrow, hm.edges_eq hq]
    exact row_congr fun s hs => (hplace (hm.step_lt hq hs)).symm

/-- a complete automaton in which no two states are equivalent is returned as it is -/
theorem minimizeGroups_eq_self (hm : m.Complete) (hg : groups.flatten.Perm m.acceptingStates)
    (he : ∀ e, m.errorState = some e → e < m.stateCount)
    (heq : ∀ q < m.stateCount, ∀ r < m.stateCount, m.Equivalent groups q r → q = r) :
    m.minimizeGroups groups = .ok m := by
  have hsep : (Refinement.finest m groups).Separates m.stateCount := by
    intro q hq r hr hqr
    exact heq q hq r hr ((Refinement.blockNumber_finest_iff hm hg hq hr).1 hqr)
  rw [minimizeGroups_eq hm hg he, quotient_eq_self hm (Refinement.consistent_finest hm hg) hsep he]

/-! ## States that words tell apart -/

/-- what the groups of token types have in common, no word tells apart -/
theorem Equivalent.not_distinguishes (h : m.Equivalent m.tokenGroups q r) (hm : m.Complete) (hq : q < m.stateCount)
    (hr : r < m.stateCount) : ¬m.Distinguishes w q r := by
  intro hdist
  obtain ⟨hw, q', r', hq', hr', hdiff⟩ := hdist
  obtain ⟨-, rfl⟩ := (hm.run?_eq_some_iff hq).1 hq'
  obtain ⟨-, rfl⟩ := (hm.run?_eq_some_iff hr).1 hr'
  rcases hdiff with hdiff | ⟨hqacc, hracc, htoken⟩
  · exact hdiff ((h w hw).accepting_eq m.flatten_tokenGroups)
  · rcases h w hw with ⟨hnot, -⟩ | hgroup
    · rw [hqacc] at hnot
      cases hnot
    · have hqmem := mem_acceptingStates.2 ⟨hm.after_lt hq hw, hqacc⟩
      have hrmem := mem_acceptingStates.2 ⟨hm.after_lt hr hw, hracc⟩
      exact htoken ((exists_tokenGroup_iff hqmem hrmem).1 hgroup)

/-- **Minimization is idempotent.** A complete automaton whose token types are on accepting states is minimized, and the
smallest automaton is minimized to itself, with the same numbers for its states. So is every complete automaton any two
states of which some word tells apart by acceptance or token type. -/
theorem minimize_idempotent (hw : m.WellFormed) (hc : m.isComplete = true)
    (he : ∀ e, m.errorState = some e → e < m.stateCount) :
    (m.TokensAccept → ∃ n, m.minimize = .ok n ∧ n.minimize = .ok n) ∧
      ((∀ q < m.stateCount, ∀ r < m.stateCount, q ≠ r → ∃ w, m.Distinguishes w q r) → m.minimize = .ok m) := by
  have hm := hw.complete hc
  constructor
  · intro ht
    obtain ⟨n, hn, -, h⟩ := minimizes_minimize hm ht he
    refine ⟨n, hn, minimizeGroups_eq_self h.complete n.flatten_tokenGroups ?_ ?_⟩
    · intro e hne
      rw [h.error_eq, Option.map_eq_some_iff] at hne
      obtain ⟨e', he', rfl⟩ := hne
      exact h.lt (he e' he')
    · intro q hq r hr heq
      exact h.reduced hm hq hr ((equivalent_tokenGroups_iff h.complete (h.tokensAccept ht) hq hr).1 heq)
  · intro hdist
    apply minimizeGroups_eq_self hm m.flatten_tokenGroups he
    intro q hq r hr heq
    by_contra hne
    obtain ⟨w, hword⟩ := hdist q hq r hr hne
    exact heq.not_distinguishes hm hq hr hword

/-- a state for each number of steps that are left -/
def countdown : Automaton :=
  { alphabetSize := 1
    states := #[{ edges := row 1 fun _ => 0, accepting := true, token := some 5 }, { edges := row 1 fun _ => 0 },
      { edges := row 1 fun _ => 1 }, { edges := row 1 fun _ => 2 }]
    start := 3 }

theorem complete_countdown : countdown.Complete :=
  complete_of_rows (f := fun q _ => q - 1) (by decide) (by decide) (by decide)

/-- the smaller number of steps leads one of two states to the end, and the other one not -/
theorem distinguishes_countdown (hq : q < 4) (hr : r < 4) (hne : q ≠ r) :
    countdown.Distinguishes (List.replicate (min q r) 0) q r := by
  have hruns : ∀ q < 4, ∀ r < 4, countdown.run? q (List.replicate (min q r) 0) = some (q - r) ∧
      countdown.run? r (List.replicate (min q r) 0) = some (r - q) ∧
      (q ≠ r → countdown.isAccepting (q - r) ≠ countdown.isAccepting (r - q)) := by decide
  obtain ⟨hqrun, hrrun, hdiff⟩ := hruns q hq r hr
  refine ⟨?_, q - r, r - q, hqrun, hrrun, Or.inl (hdiff hne)⟩
  intro s hs
  rw [List.eq_of_mem_replicate hs]
  decide

theorem minimize_idempotent_countdown :
    (∃ n, shades.minimize = .ok n ∧ n.minimize = .ok n) ∧ countdown.minimize = .ok countdown := by
  constructor
  · exact (minimize_idempotent complete_shades.wellFormed complete_shades.isComplete errorState_shades).1
      tokensAccept_shades
  · have he : ∀ e, countdown.errorState = some e → e < countdown.stateCount := by
      intro e h
      cases h
    refine (minimize_idempotent complete_countdown.wellFormed complete_countdown.isComplete he).2 ?_
    intro q hq r hr hne
    exact ⟨_, distinguishes_countdown hq hr hne⟩

end Automaton

end Munch
