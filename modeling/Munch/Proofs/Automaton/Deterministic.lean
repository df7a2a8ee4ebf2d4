/-
The deterministic automaton of the sets of states, and its completion.

`Determinizes m d` and `Completes d c` say what the two steps give. A word leads in `d` to the set of the states in which
`m` can be after it, and to no state if there are none; in `c` it leads to the same state, moved up by one, or to the error
state. In both the states behind the root are in the order in which they are found (`Automaton.Numbered`).

Results:
- `determinizes_determinize`, `completes_complete`: the two steps succeed and give such automata.
- `Completes.after_eq`: runs of the completed automaton.
- `Determinizes.numbered`, `Completes.numbered`: the numbers are breadth first.
-/
import Mathlib.Tactic
import Munch.Proofs.Automaton.Minimal
import Munch.Proofs.Automaton.Subset

namespace Munch

namespace Automaton

open Subsets (Before Leads Followed Gathers next)

variable {m d c : Automaton} {w : List Nat} {i j a : Nat}

/-- the automaton accepts a word -/
def Accepts (m : Automaton) (w : List Nat) : Prop :=
  ∃ q, m.Reads m.start w q ∧ m.isAccepting q = true

/-- the automaton recognises a token type in a word -/
def Finds (m : Automaton) (w : List Nat) (t : Nat) : Prop :=
  ∃ q, m.Reads m.start w q ∧ m.token? q = some t

/-- the numbers from `root` on are in the order in which a breadth-first search from `root` finds the states -/
structure Numbered (m : Automaton) (root : Nat) : Prop where
  found : ∀ {j}, root < j → j < m.stateCount → ∃ i a, root ≤ i ∧ i < j ∧ m.moves i (.symbol a) j
  order : ∀ {i a j h}, root ≤ i → m.moves i (.symbol a) j → root < h → h < j →
    ∃ i' a', root ≤ i' ∧ Before i' a' i a ∧ m.moves i' (.symbol a') h

/-! ## Least token types -/

theorem foldl_least_eq_some_iff {ts : List Nat} {least : Option Nat} {t : Nat} :
    ts.foldl (fun least t => some (least.elim t (min t))) least = some t ↔
      IsLeast {x | least = some x ∨ x ∈ ts} t := by
  induction ts generalizing least with
  | nil =>
    simp only [List.foldl_nil, List.not_mem_nil, or_false]
    constructor
    · rintro rfl
      exact ⟨rfl, fun x hx => Nat.le_of_eq (Option.some.inj hx)⟩
    · exact fun h => h.1
  | cons x ts ih =>
    rw [List.foldl_cons, ih]
    cases least with
    | none => simp [eq_comm]
    | some y =>
      simp only [Option.elim_some, Option.some.injEq, List.mem_cons, IsLeast, lowerBounds, Set.mem_ofPred_eq]
      constructor
      · rintro ⟨h1, h2⟩
        have hmin := h2 (Or.inl rfl)
        refine ⟨?_, fun z hz => ?_⟩
        · rcases h1 with h1 | h1
          · rcases Nat.le_total x y with h | h
            · exact Or.inr (Or.inl (by omega))
            · exact Or.inl (by omega)
          · exact Or.inr (Or.inr h1)
        · rcases hz with rfl | rfl | hz
          · omega
          · omega
          · exact h2 (Or.inr hz)
      · rintro ⟨h1, h2⟩
        have hx := h2 (Or.inr (Or.inl rfl))
        have hy := h2 (Or.inl rfl)
        refine ⟨?_, fun z hz => ?_⟩
        · rcases h1 with rfl | rfl | h1
          · exact Or.inl (by omega)
          · exact Or.inl (by omega)
          · exact Or.inr h1
        · rcases hz with rfl | hz
          · omega
          · exact h2 (Or.inr (Or.inr hz))

theorem leastToken?_eq_some_iff {set : List Nat} {t : Nat} :
    m.leastToken? set = some t ↔ IsLeast {t | ∃ q ∈ set, m.token? q = some t} t := by
  rw [leastToken?, foldl_least_eq_some_iff]
  simp

/-! ## Sets of states as states -/

/-- what it means that `d` is the deterministic automaton of the sets of states of `m` -/
structure Determinizes (m d : Automaton) : Prop where
  alphabetSize_eq : d.alphabetSize = m.alphabetSize
  wellFormed : d.WellFormed
  deterministic : d.Deterministic
  start_eq : d.start = 0
  numbered : d.Numbered 0
  tokensAccept : m.TokensAccept → d.TokensAccept
  run_eq_none : ∀ {w}, d.run? d.start w = none → ∀ q, ¬m.Reads m.start w q
  accepting_iff : ∀ {w i}, d.run? d.start w = some i → (d.isAccepting i = true ↔ m.Accepts w)
  token_iff : ∀ {w i t}, d.run? d.start w = some i → (d.token? i = some t ↔ IsLeast {t | m.Finds w t} t)

/-- the automaton of the sets -/
def ofSubsets (m : Automaton) (c : Subsets) : Automaton :=
  { alphabetSize := m.alphabetSize, states := c.sets.zipWith m.subsetState c.rows }

section OfSubsets

variable {c : Subsets} {set : List Nat}

theorem stateCount_ofSubsets (hsize : c.rows.size = c.sets.size) : (ofSubsets m c).stateCount = c.sets.size := by
  simp [ofSubsets, stateCount, hsize]

theorem states_ofSubsets (hsize : c.rows.size = c.sets.size) (hi : c.sets[i]? = some set) :
    ∃ es, c.rows[i]? = some es ∧ (ofSubsets m c).states[i]? = some (m.subsetState set es) := by
  obtain ⟨hlt, -⟩ := Array.getElem?_eq_some_iff.1 hi
  have hes : c.rows[i]? = some c.rows[i] := Array.getElem?_eq_getElem (hsize ▸ hlt)
  refine ⟨c.rows[i], hes, ?_⟩
  simp [ofSubsets, Array.getElem?_zipWith, hi, hes]

/-- the moves of the sets -/
theorem moves_ofSubsets (hf : Followed m c 0 []) (hsize : c.rows.size = c.sets.size) {l : Label} :
    (ofSubsets m c).moves i l j ↔ ∃ a < m.alphabetSize, l = .symbol a ∧ Leads m c.sets i a j := by
  by_cases hi : i < c.sets.size
  · have hset : c.sets[i]? = some c.sets[i] := Array.getElem?_eq_getElem hi
    obtain ⟨es, hes, hstate⟩ := states_ofSubsets (m := m) hsize hset
    have hedges : (ofSubsets m c).edges i = es := by simp [edges, edges?, hstate, subsetState]
    rw [moves, hedges, (hf.rows hset hes).mem_iff]
    refine exists_congr fun a => and_congr_right fun _ => and_congr_right fun _ => ⟨fun hj => ⟨_, hset, hj⟩, ?_⟩
    rintro ⟨set, hset', hj⟩
    rw [hset] at hset'
    cases hset'
    exact hj
  · have hno : ¬i < (ofSubsets m c).stateCount := by rwa [stateCount_ofSubsets hsize]
    refine iff_of_false (fun hm => hno (source_lt hm)) ?_
    rintro ⟨a, -, -, set, hset, -⟩
    exact hi (Array.getElem?_eq_some_iff.1 hset).1

theorem ascending_ofSubsets (hf : Followed m c 0 []) (hsize : c.rows.size = c.sets.size) :
    (ofSubsets m c).Ascending := by
  intro i
  by_cases hi : i < c.sets.size
  · have hset : c.sets[i]? = some c.sets[i] := Array.getElem?_eq_getElem hi
    obtain ⟨es, hes, hstate⟩ := states_ofSubsets (m := m) hsize hset
    have hedges : (ofSubsets m c).edges i = es := by simp [edges, edges?, hstate, subsetState]
    rw [hedges]
    exact (hf.rows hset hes).ascending.imp fun h => Edge.before_iff.2 (Or.inl h)
  · rw [edges_eq_nil (by rwa [stateCount_ofSubsets hsize])]
    exact List.Pairwise.nil

theorem deterministic_ofSubsets (hf : Followed m c 0 []) (hsize : c.rows.size = c.sets.size) :
    (ofSubsets m c).Deterministic := by
  refine ⟨fun p q hm => ?_, fun p s q r hq hr => ?_⟩
  · obtain ⟨a, -, hl, -⟩ := (moves_ofSubsets hf hsize).1 hm
    cases hl
  · obtain ⟨a, -, hl, set, hset, hq⟩ := (moves_ofSubsets hf hsize).1 hq
    obtain ⟨b, -, hl', set', hset', hr⟩ := (moves_ofSubsets hf hsize).1 hr
    cases hl
    cases hl'
    rw [hset] at hset'
    cases hset'
    exact getElem?_unique hf.explored.nodup hq hr

theorem wellFormed_ofSubsets (hf : Followed m c 0 []) (hsize : c.rows.size = c.sets.size) :
    (ofSubsets m c).WellFormed where
  ascending := ascending_ofSubsets hf hsize
  start_lt := by
    rw [stateCount_ofSubsets hsize]
    exact (Array.getElem?_eq_some_iff.1 hf.explored.first).1
  target_lt hm := by
    obtain ⟨a, -, -, set, -, hj⟩ := (moves_ofSubsets hf hsize).1 hm
    rw [stateCount_ofSubsets hsize]
    exact (Array.getElem?_eq_some_iff.1 hj).1
  symbol_lt hm := by
    obtain ⟨a, ha, hl, -⟩ := (moves_ofSubsets hf hsize).1 hm
    cases hl
    exact ha

theorem numbered_ofSubsets (hf : Followed m c 0 []) (hsize : c.rows.size = c.sets.size) :
    (ofSubsets m c).Numbered 0 where
  found hj hlt := by
    rw [stateCount_ofSubsets hsize] at hlt
    obtain ⟨i, a, hij, ha, -, hl⟩ := hf.explored.found hj hlt
    exact ⟨i, a, Nat.zero_le i, hij, (moves_ofSubsets hf hsize).2 ⟨a, ha, rfl, hl⟩⟩
  order {i a j h} _ hm hh hhj := by
    obtain ⟨b, hb, hl, hlead⟩ := (moves_ofSubsets hf hsize).1 hm
    cases hl
    have hi : i < c.rows.size := by
      obtain ⟨set, hset, -⟩ := hlead
      exact hsize ▸ (Array.getElem?_eq_some_iff.1 hset).1
    obtain ⟨i', a', ha', hbefore, hlead'⟩ := hf.explored.order hb (Or.inl hi) hlead hh hhj
    exact ⟨i', a', Nat.zero_le i', hbefore, (moves_ofSubsets hf hsize).2 ⟨a', ha', rfl, hlead'⟩⟩

theorem tokensAccept_ofSubsets (hsize : c.rows.size = c.sets.size) (ht : m.TokensAccept) :
    (ofSubsets m c).TokensAccept := by
  intro i t hi
  by_cases hlt : i < c.sets.size
  · obtain ⟨es, -, hstate⟩ := states_ofSubsets (m := m) hsize (Array.getElem?_eq_getElem hlt)
    have htok : m.leastToken? c.sets[i] = some t := by simpa [token?, hstate, subsetState] using hi
    obtain ⟨q, hq, hqt⟩ := (leastToken?_eq_some_iff.1 htok).1
    have : (ofSubsets m c).isAccepting i = c.sets[i].any m.isAccepting := by simp [isAccepting, hstate, subsetState]
    rw [this]
    exact List.any_eq_true.2 ⟨q, hq, ht hqt⟩
  · rw [token?, Array.getElem?_eq_none (by have := stateCount_ofSubsets (m := m) hsize; unfold stateCount at this; omega)]
      at hi
    cases hi

/-- from the set of a word, another word leads to the set of both words, or cannot be read after it -/
theorem run?_ofSubsets (hw : m.WellFormed) (hf : Followed m c 0 []) (hsize : c.rows.size = c.sets.size) {u v : List Nat}
    (hset : c.sets[i]? = some set) (hu : Gathers m u set) :
    match (ofSubsets m c).run? i v with
    | none => ∀ q, ¬m.Reads m.start (u ++ v) q
    | some j => ∃ set', c.sets[j]? = some set' ∧ Gathers m (u ++ v) set' := by
  have hasc := ascending_ofSubsets hf hsize
  have hdet := deterministic_ofSubsets hf hsize
  induction v generalizing i u set with
  | nil => exact ⟨set, hset, u.append_nil.symm ▸ hu⟩
  | cons a v ih =>
    rw [run?_cons]
    cases ht : (ofSubsets m c).target? i a with
    | none =>
      intro q hq
      -- a state behind the next symbol would be in a set behind it
      rw [List.append_cons] at hq
      obtain ⟨p, hp, -⟩ : ∃ p, m.Reads m.start (u ++ [a]) p ∧ m.Reads p v q := Path.append_iff.1 hq
      have hmem := (Subsets.gathers_next hw hu a).mem_iff.2 hp
      have ha : a < m.alphabetSize := hp.symbol_lt hw a (by simp)
      obtain ⟨j, hj⟩ := hf.explored.closed (Or.inl (hsize ▸ (Array.getElem?_eq_some_iff.1 hset).1)) ha hset
        (List.ne_nil_of_mem hmem)
      have hm := (moves_ofSubsets hf hsize).2 ⟨a, ha, rfl, set, hset, hj⟩
      rw [(target?_eq_some_iff hasc hdet).2 hm] at ht
      cases ht
    | some j =>
      obtain ⟨b, -, hl, set', hset', hj⟩ := (moves_ofSubsets hf hsize).1 ((target?_eq_some_iff hasc hdet).1 ht)
      cases hl
      rw [hset] at hset'
      cases hset'
      rw [Option.bind_some, List.append_cons]
      exact ih hj (Subsets.gathers_next hw hu a)

end OfSubsets

theorem determinizes_determinize (hw : m.WellFormed) : ∃ d, m.determinize = .ok d ∧ Determinizes m d := by
  obtain ⟨hf, hsize⟩ := Subsets.exists_explored hw
  have hrun (w : List Nat) := run?_ofSubsets (v := w) hw hf hsize hf.explored.first (Subsets.gathers_first hw)
  refine ⟨ofSubsets m (.ofAutomaton m), if_pos hw.start_lt, rfl, wellFormed_ofSubsets hf hsize,
    deterministic_ofSubsets hf hsize, rfl, numbered_ofSubsets hf hsize, tokensAccept_ofSubsets hsize, fun {w} hr => ?_,
    fun {w i} hr => ?_, fun {w i t} hr => ?_⟩
  · have h := hrun w
    rw [show (ofSubsets m (.ofAutomaton m)).run? 0 w = none from hr] at h
    exact h
  · have h := hrun w
    rw [show (ofSubsets m (.ofAutomaton m)).run? 0 w = some i from hr] at h
    obtain ⟨set, hset, hg⟩ := h
    obtain ⟨es, -, hstate⟩ := states_ofSubsets (m := m) hsize hset
    simp [isAccepting, hstate, subsetState, Accepts, hg.mem_iff]
  · have h := hrun w
    rw [show (ofSubsets m (.ofAutomaton m)).run? 0 w = some i from hr] at h
    obtain ⟨set, hset, hg⟩ := h
    obtain ⟨es, -, hstate⟩ := states_ofSubsets (m := m) hsize hset
    have : (ofSubsets m (.ofAutomaton m)).token? i = m.leastToken? set := by simp [token?, hstate, subsetState]
    rw [this, leastToken?_eq_some_iff]
    simp only [hg.mem_iff, Finds, List.nil_append]

/-! ## Completion -/

/-- what it means that `c` is `d` with an error state for the missing moves -/
structure Completes (d c : Automaton) : Prop where
  alphabetSize_eq : c.alphabetSize = d.alphabetSize
  complete : c.Complete
  stateCount_eq : c.stateCount = d.stateCount + 1
  start_eq : c.start = d.start + 1
  error_eq : c.errorState = some 0
  step_zero : ∀ {a}, a < d.alphabetSize → c.step 0 a = 0
  step_succ : ∀ {q a}, q < d.stateCount → a < d.alphabetSize → c.step (q + 1) a = (d.target? q a).elim 0 (· + 1)
  answer_zero : c.answer 0 = (false, none)
  answer_succ : ∀ {q}, q < d.stateCount → c.answer (q + 1) = d.answer q

theorem target?_lt (hw : d.WellFormed) (hd : d.Deterministic) {q r : Nat} (h : d.target? q a = some r) :
    r < d.stateCount :=
  hw.target_lt ((target?_eq_some_iff hw.ascending hd).1 h)

theorem completedTarget_eq (q a : Nat) : d.completedTarget q a = (d.target? q a).elim 0 (· + 1) := by
  unfold completedTarget
  cases d.target? q a <;> rfl

/-- the moves on a symbol in the completed automaton, in which the error state comes first -/
def completedMove (d : Automaton) (a : Nat) : Nat → Nat
  | 0 => 0
  | q + 1 => d.completedTarget q a

theorem completes_complete (hw : d.WellFormed) (hd : d.Deterministic) : ∃ c, d.complete = .ok c ∧ Completes d c := by
  refine ⟨_, if_pos ((isDeterministic_iff hw.ascending).2 hd), ?_⟩
  generalize hc : ({ alphabetSize := d.alphabetSize
                     states := #[sink d.alphabetSize] ++ (Array.range d.stateCount).map d.completedState
                     start := d.start + 1
                     errorState := some 0 } : Automaton) = c
  have hk : c.alphabetSize = d.alphabetSize := hc ▸ rfl
  have hcount : c.stateCount = d.stateCount + 1 := by
    rw [← hc]
    simp [stateCount]
    omega
  have hzero : c.states[0]? = some (sink d.alphabetSize) := by
    rw [← hc]
    simp
  have hsucc {q : Nat} (hq : q < d.stateCount) : c.states[q + 1]? = some (d.completedState q) := by
    rw [← hc]
    simp [Array.getElem?_append, hq]
  -- the rows of the completed automaton
  have hrows : ∀ q < c.stateCount, c.edges q = row c.alphabetSize fun a => d.completedMove a q := by
    intro q hq
    rw [hk]
    cases q with
    | zero => simp [edges, edges?, hzero, sink, completedMove]
    | succ q => simp [edges, edges?, hsucc (by omega : q < d.stateCount), completedState, completedMove]
  have hcomplete : c.Complete := by
    refine complete_of_rows ?_ hrows fun q hq a ha => ?_
    · have := hw.start_lt
      rw [hcount, ← hc]
      exact Nat.succ_lt_succ this
    · cases q with
      | zero => exact Nat.zero_lt_of_lt hq
      | succ q =>
        rw [completedMove, completedTarget_eq]
        cases ht : d.target? q a with
        | none => exact Nat.zero_lt_of_lt hq
        | some r =>
          have := target?_lt hw hd ht
          rw [Option.elim_some]
          omega
  exact
    { alphabetSize_eq := hk
      complete := hcomplete
      stateCount_eq := hcount
      start_eq := hc ▸ rfl
      error_eq := hc ▸ rfl
      step_zero := fun {a} ha => by rw [step_of_rows hrows (by omega) (hk ▸ ha), completedMove]
      step_succ := fun {q a} hq ha => by
        rw [step_of_rows hrows (by omega) (hk ▸ ha), completedMove, completedTarget_eq]
      answer_zero := by simp [answer, isAccepting, token?, hzero, sink]
      answer_succ := fun {q} hq => by simp [answer, isAccepting, token?, hsucc hq, completedState] }

namespace Completes

/-- the error state is a state -/
theorem errorState_lt (h : Completes d c) : ∀ e, c.errorState = some e → e < c.stateCount := by
  intro e he
  obtain rfl : 0 = e := Option.some.inj (h.error_eq.symm.trans he)
  exact h.stateCount_eq ▸ Nat.zero_lt_succ _

theorem after_zero (h : Completes d c) (hw : d.IsWord w) : c.after 0 w = 0 := by
  induction w with
  | nil => rfl
  | cons a w ih =>
    obtain ⟨ha, hw⟩ := List.forall_mem_cons.1 hw
    rw [after_cons, h.step_zero ha, ih hw]

/-- a word leads to the same state as before completion, moved up by one, or to the error state -/
theorem after_eq (h : Completes d c) (hd : d.WellFormed) (hdet : d.Deterministic) {q : Nat} (hq : q < d.stateCount)
    (hw : d.IsWord w) : c.after (q + 1) w = (d.run? q w).elim 0 (· + 1) := by
  induction w generalizing q with
  | nil => rfl
  | cons a w ih =>
    obtain ⟨ha, hw⟩ := List.forall_mem_cons.1 hw
    rw [after_cons, run?_cons, h.step_succ hq ha]
    cases ht : d.target? q a with
    | none => exact h.after_zero hw
    | some r => exact ih (target?_lt hd hdet ht) hw

theorem moves_succ_iff (h : Completes d c) (hd : d.WellFormed) (hdet : d.Deterministic) :
    c.moves (i + 1) (.symbol a) (j + 1) ↔ d.moves i (.symbol a) j := by
  constructor
  · intro hm
    have hi : i < d.stateCount := by
      have := source_lt hm
      rw [h.stateCount_eq] at this
      omega
    obtain ⟨ha, hj⟩ := (h.complete.moves_iff (source_lt hm)).1 hm
    rw [h.alphabetSize_eq] at ha
    rw [h.step_succ hi ha] at hj
    cases ht : d.target? i a with
    | none => rw [ht] at hj; cases hj
    | some r =>
      rw [ht] at hj
      obtain rfl : j = r := Nat.succ_injective hj
      exact (target?_eq_some_iff hd.ascending hdet).1 ht
  · intro hm
    have hi := source_lt hm
    have ha := hd.symbol_lt hm
    refine (h.complete.moves_iff (by rw [h.stateCount_eq]; omega)).2 ⟨h.alphabetSize_eq.symm ▸ ha, ?_⟩
    rw [h.step_succ hi ha, (target?_eq_some_iff hd.ascending hdet).2 hm]
    rfl

theorem numbered (h : Completes d c) (hd : d.WellFormed) (hdet : d.Deterministic) (hn : d.Numbered 0) :
    c.Numbered 1 where
  found {j} hj hlt := by
    obtain ⟨j, rfl⟩ : ∃ j', j = j' + 1 := ⟨j - 1, by omega⟩
    obtain ⟨i, a, -, hij, hm⟩ := hn.found (j := j) (by omega) (by rw [h.stateCount_eq] at hlt; omega)
    exact ⟨i + 1, a, by omega, by omega, (h.moves_succ_iff hd hdet).2 hm⟩
  order {i a j k} hi hm hk hkj := by
    obtain ⟨i, rfl⟩ : ∃ i', i = i' + 1 := ⟨i - 1, by omega⟩
    obtain ⟨j, rfl⟩ : ∃ j', j = j' + 1 := ⟨j - 1, by omega⟩
    obtain ⟨k, rfl⟩ : ∃ k', k = k' + 1 := ⟨k - 1, by omega⟩
    obtain ⟨i', a', -, hb, hm'⟩ := hn.order (Nat.zero_le i) ((h.moves_succ_iff hd hdet).1 hm) (h := k) (by omega)
      (by omega)
    refine ⟨i' + 1, a', by omega, ?_, (h.moves_succ_iff hd hdet).2 hm'⟩
    unfold Before at hb ⊢
    omega

end Completes

end Automaton

end Munch
