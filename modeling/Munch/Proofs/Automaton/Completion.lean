/-
Completion as a totalization.

`Automaton.complete` writes the rows of the completed automaton at once. The same automaton comes from work in place: the
states move up by one behind a new state, the moves are added again between the new numbers (`Automaton.shifted`), and then
the automaton is asked, state by state and symbol by symbol, whether it has a move, and gets one to the new state if it has
none (`Automaton.filled`). A move that is added answers later questions, but only those about its own state and symbol.

`Totalizes m c` says what completion keeps of `m`: runs go on as before, one number higher, and a run that gets stuck is in
the error state from there on.

Results:
- `extends_fill`, `extends_fillAll`: one question adds the missing move, and all questions add the missing moves.
- `complete_eq_filled`: completion gives the automaton that is filled in place.
- `complete_totalizes`: completion of a deterministic automaton totalizes it, and any other automaton is refused.
-/
import Mathlib.Tactic
import Munch.Proofs.Automaton.Fragment
import Munch.Proofs.Automaton.Reduction

namespace Munch

namespace Automaton

variable {m n c : Automaton} {p q r s : Nat} {w : List Nat}

/-! ## Automata with the same moves -/

/-- an automaton is given by its moves, the answers of its states and its numbers -/
theorem eq_of_moves (hm : m.Ascending) (hn : n.Ascending) (halphabet : m.alphabetSize = n.alphabetSize)
    (hcount : m.stateCount = n.stateCount) (hstart : m.start = n.start) (herror : m.errorState = n.errorState)
    (hanswer : ∀ q, m.answer q = n.answer q) (hmoves : ∀ p l q, m.moves p l q ↔ n.moves p l q) : m = n := by
  apply eq_of_edges halphabet hcount hstart herror fun q _ => hanswer q
  intro q _
  exact edges_ext (hm q) (hn q) fun e => hmoves q e.label e.target

theorem target?_eq_none_iff (h : m.Ascending) : m.target? p s = none ↔ ∀ q, ¬m.moves p (.symbol s) q := by
  rw [target?, List.head?_eq_none_iff, List.eq_nil_iff_forall_not_mem]
  exact forall_congr' fun q => not_congr (mem_targets_iff h)

/-! ## Completion in place -/

/-- the states of an automaton without their moves, moved up by one behind a new state -/
def raised (m : Automaton) : Automaton :=
  { alphabetSize := m.alphabetSize
    states := #[{}] ++ m.states.map fun s => { s with edges := [] }
    start := m.start + 1 }

/-- the same with the moves, which are added one by one -/
def shifted (m : Automaton) : Automaton :=
  m.transitions.foldl (fun c t => c.addEdge (t.1 + 1) t.2.label (t.2.target + 1)) m.raised

/-- add a move to state `0`, unless the state has a move on the symbol -/
def fill (c : Automaton) (q s : Nat) : Automaton :=
  if c.target? q s = none then c.addEdge q (.symbol s) 0 else c

/-- add the moves to state `0` for a list of states and symbols -/
def fillAll (c : Automaton) (places : List (Nat × Nat)) : Automaton :=
  places.foldl (fun c x => c.fill x.1 x.2) c

/-- all states of the completed automaton with all symbols, in order -/
def places (m : Automaton) : List (Nat × Nat) :=
  List.range (m.stateCount + 1) ×ˢ List.range m.alphabetSize

/-- the automaton that is completed in place -/
def filled (m : Automaton) : Automaton :=
  { m.shifted.fillAll m.places with errorState := some 0 }

/-- the moves between states whose numbers are one higher -/
def movesUp (F : Moves) : Moves :=
  fun p l q => ∃ p' q', p = p' + 1 ∧ q = q' + 1 ∧ F p' l q'

/-- moves to state `0` at those places where a state has no move on a symbol -/
def movesBack (F : Moves) (places : List (Nat × Nat)) : Moves :=
  fun p l q => q = 0 ∧ ∃ s, l = .symbol s ∧ (p, s) ∈ places ∧ ∀ r, ¬F p (.symbol s) r

theorem not_movesUp_zero {F : Moves} (l : Label) (r : Nat) : ¬movesUp F 0 l r := by
  intro h
  obtain ⟨p, q, hp, -⟩ := h
  omega

/-- where a state has no move on a symbol, it has none one number higher -/
theorem forall_not_movesUp_iff (h : m.Ascending) {s : Nat} :
    (∀ r, ¬movesUp m.moves (p + 1) (.symbol s) r) ↔ m.target? p s = none := by
  rw [target?_eq_none_iff h]
  constructor
  · intro hno r hr
    exact hno (r + 1) ⟨p, r, rfl, rfl, hr⟩
  · intro hno r hr
    obtain ⟨p', r', hp, -, hr⟩ := hr
    obtain rfl := Nat.succ_injective hp
    exact hno r' hr

/-- one more place adds a move, if there was none before -/
theorem movesBack_snoc {F : Moves} {places : List (Nat × Nat)} {s : Nat} {l : Label} {r : Nat} :
    movesBack F (places ++ [(q, s)]) p l r ↔
      movesBack F places p l r ∨ arc q (.symbol s) 0 p l r ∧ ∀ r', ¬F q (.symbol s) r' := by
  simp only [movesBack, arc, List.mem_append, List.mem_singleton, Prod.mk.injEq]
  constructor
  · intro h
    obtain ⟨rfl, t, rfl, ht | ⟨rfl, rfl⟩, hno⟩ := h
    · exact Or.inl ⟨rfl, t, rfl, ht, hno⟩
    · exact Or.inr ⟨⟨rfl, rfl, rfl⟩, hno⟩
  · intro h
    rcases h with ⟨rfl, t, rfl, ht, hno⟩ | ⟨⟨rfl, rfl, rfl⟩, hno⟩
    · exact ⟨rfl, t, rfl, Or.inl ht, hno⟩
    · exact ⟨rfl, s, rfl, Or.inr ⟨rfl, rfl⟩, hno⟩

theorem stateCount_raised (m : Automaton) : m.raised.stateCount = m.stateCount + 1 := by
  simp [raised, stateCount]
  omega

theorem states_raised_zero (m : Automaton) : m.raised.states[0]? = some ({} : State) := by
  simp [raised]

theorem states_raised_succ (m : Automaton) (q : Nat) :
    m.raised.states[q + 1]? = (m.states[q]?).map fun s => { s with edges := [] } := by
  simp [raised, Array.getElem?_append]

theorem edges_raised (m : Automaton) (q : Nat) : m.raised.edges q = [] := by
  cases q with
  | zero => simp [edges, edges?, states_raised_zero]
  | succ q => cases h : m.states[q]? <;> simp [edges, edges?, states_raised_succ, h]

theorem answer_raised_zero (m : Automaton) : m.raised.answer 0 = (false, none) := by
  simp [answer, isAccepting, token?, states_raised_zero]

theorem answer_raised_succ (m : Automaton) (q : Nat) : m.raised.answer (q + 1) = m.answer q := by
  cases h : m.states[q]? <;> simp [answer, isAccepting, token?, states_raised_succ, h]

theorem ascending_raised (m : Automaton) : m.raised.Ascending := by
  intro q
  rw [edges_raised]
  exact List.Pairwise.nil

/-- edges that are added one by one, each from a state that is there -/
theorem extends_foldl_addEdge (ts : List (Nat × Edge)) (hts : ∀ t ∈ ts, t.1 + 1 < c.stateCount) :
    Extends c (ts.foldl (fun c t => c.addEdge (t.1 + 1) t.2.label (t.2.target + 1)) c)
        (movesUp fun p l q => (p, ⟨l, q⟩) ∈ ts) ∧
      (ts.foldl (fun c t => c.addEdge (t.1 + 1) t.2.label (t.2.target + 1)) c).stateCount = c.stateCount := by
  induction ts generalizing c with
  | nil =>
    refine ⟨(Extends.refl c).congr ?_, rfl⟩
    intro p l q
    simp [movesUp]
  | cons t ts ih =>
    obtain ⟨p, l, q⟩ := t
    obtain ⟨hp, hts⟩ := List.forall_mem_cons.1 hts
    have hcount := stateCount_addEdge c (p + 1) l (q + 1)
    obtain ⟨hrest, hcount'⟩ := ih (c := c.addEdge (p + 1) l (q + 1)) (by rwa [hcount])
    refine ⟨((Extends.addEdge hp l (q + 1)).trans hrest).congr ?_, hcount'.trans hcount⟩
    intro p' l' q'
    show _ ∨ _ ↔ _
    simp only [arc, movesUp, List.mem_cons, Prod.mk.injEq, Edge.mk.injEq]
    constructor
    · intro h
      rcases h with ⟨rfl, rfl, rfl⟩ | ⟨p1, q1, rfl, rfl, h⟩
      · exact ⟨p, q, rfl, rfl, Or.inl ⟨rfl, rfl, rfl⟩⟩
      · exact ⟨p1, q1, rfl, rfl, Or.inr h⟩
    · intro h
      obtain ⟨p1, q1, rfl, rfl, h⟩ := h
      rcases h with ⟨rfl, rfl, rfl⟩ | h
      · exact Or.inl ⟨rfl, rfl, rfl⟩
      · exact Or.inr ⟨p1, q1, rfl, rfl, h⟩

/-- the moves of an automaton are added again between the new numbers -/
theorem extends_shifted (m : Automaton) :
    Extends m.raised m.shifted (movesUp m.moves) ∧ m.shifted.stateCount = m.stateCount + 1 := by
  have hsource : ∀ t ∈ m.transitions, t.1 + 1 < m.raised.stateCount := by
    intro t ht
    have := source_lt (m := m) (l := t.2.label) (q := t.2.target) (mem_transitions_iff.1 ht)
    rw [stateCount_raised]
    omega
  obtain ⟨h, hcount⟩ := extends_foldl_addEdge m.transitions hsource
  refine ⟨h.congr ?_, hcount.trans (stateCount_raised m)⟩
  intro p l q
  simp only [movesUp, mem_transitions_iff, moves]

/-- one question adds the move that is missing: what has been added before is at other places -/
theorem extends_fill {b : Automaton} {places : List (Nat × Nat)} (hb : b.Ascending)
    (h : Extends b c (movesBack b.moves places)) (hq : q < c.stateCount) (s : Nat) :
    Extends b (c.fill q s) (movesBack b.moves (places ++ [(q, s)])) := by
  have hc : c.Ascending := h.ascending hb
  by_cases hnone : c.target? q s = none
  · rw [Automaton.fill, if_pos hnone]
    have hb' : ∀ r, ¬b.moves q (.symbol s) r := by
      intro r hr
      exact (target?_eq_none_iff hc).1 hnone r ((h.moves _ _ _).2 (Or.inl hr))
    apply (h.trans (Extends.addEdge hq (.symbol s) 0)).congr
    intro p l r
    rw [movesBack_snoc]
    exact or_congr_right (and_iff_left hb').symm
  · rw [Automaton.fill, if_neg hnone]
    apply h.congr
    intro p l r
    rw [movesBack_snoc]
    symm
    apply or_iff_left_of_imp
    intro hnew
    obtain ⟨⟨rfl, rfl, rfl⟩, hno⟩ := hnew
    -- the move is none of the old automaton, so it has been added at an equal place
    have hsome : ∃ r, c.moves p (.symbol s) r := by
      by_contra hnot
      exact hnone ((target?_eq_none_iff hc).2 fun r hr => hnot ⟨r, hr⟩)
    obtain ⟨r, hr⟩ := hsome
    rcases (h.moves _ _ _).1 hr with hr | ⟨rfl, hplace⟩
    · exact absurd hr (hno r)
    · exact ⟨rfl, hplace⟩

theorem stateCount_fill (c : Automaton) (q s : Nat) : (c.fill q s).stateCount = c.stateCount := by
  rw [fill]
  split_ifs
  · exact stateCount_addEdge c q (.symbol s) 0
  · rfl

/-- all questions together add the moves that were missing before the first one -/
theorem extends_fillAll {b : Automaton} (hb : b.Ascending) (places : List (Nat × Nat))
    (hplaces : ∀ x ∈ places, x.1 < b.stateCount) : Extends b (b.fillAll places) (movesBack b.moves places) ∧
      (b.fillAll places).stateCount = b.stateCount := by
  induction places using List.reverseRecOn with
  | nil =>
    refine ⟨(Extends.refl b).congr ?_, rfl⟩
    intro p l q
    simp [movesBack]
  | append_singleton places x ih =>
    obtain ⟨h, hcount⟩ := ih fun y hy => hplaces y (List.mem_append_left _ hy)
    have hx : x.1 < (b.fillAll places).stateCount := hcount.symm ▸ hplaces x (by simp)
    have hsnoc : b.fillAll (places ++ [x]) = (b.fillAll places).fill x.1 x.2 := by
      simp [fillAll, List.foldl_append]
    rw [hsnoc, stateCount_fill]
    exact ⟨extends_fill hb h hx x.2, hcount⟩

/-- the states have been raised, and have got their own moves and the missing ones -/
theorem extends_filled (m : Automaton) :
    Extends m.raised (m.shifted.fillAll m.places) (movesUp m.moves ⊔ movesBack m.shifted.moves m.places) ∧
      m.filled.stateCount = m.stateCount + 1 := by
  obtain ⟨hshifted, hcount⟩ := extends_shifted m
  have hplaces : ∀ x ∈ m.places, x.1 < m.shifted.stateCount := by
    intro x hx
    rw [hcount]
    exact List.mem_range.1 (List.mem_product.1 hx).1
  obtain ⟨hfill, hcount'⟩ := extends_fillAll (hshifted.ascending (ascending_raised m)) m.places hplaces
  exact ⟨hshifted.trans hfill, hcount'.trans hcount⟩

/-- the moves of the automaton that is filled in place -/
theorem moves_filled_iff {l : Label} : m.filled.moves p l q ↔ movesUp m.moves p l q ∨
    q = 0 ∧ ∃ s < m.alphabetSize, l = .symbol s ∧ p ≤ m.stateCount ∧ ∀ r, ¬movesUp m.moves p (.symbol s) r := by
  have hraised (p : Nat) (l : Label) (q : Nat) : ¬m.raised.moves p l q := by simp [moves, edges_raised]
  have hshifted (r : Nat) (s : Nat) : m.shifted.moves p (.symbol s) r ↔ movesUp m.moves p (.symbol s) r := by
    rw [(extends_shifted m).1.moves, or_iff_right (hraised _ _ _)]
  calc m.filled.moves p l q ↔ m.raised.moves p l q ∨ _ := (extends_filled m).1.moves p l q
    _ ↔ movesUp m.moves p l q ∨ movesBack m.shifted.moves m.places p l q := or_iff_right (hraised _ _ _)
    _ ↔ _ := by
      simp only [movesBack, places, hshifted, List.mem_product, List.mem_range, Nat.lt_succ_iff]
      apply or_congr_right
      apply and_congr_right
      intro _
      apply exists_congr
      intro s
      tauto

/-- the moves of the automaton whose rows are written at once -/
theorem Completes.moves_iff_up (h : Completes m c) (hw : m.WellFormed) (hd : m.Deterministic) {l : Label} :
    c.moves p l q ↔ movesUp m.moves p l q ∨
      q = 0 ∧ ∃ s < m.alphabetSize, l = .symbol s ∧ p ≤ m.stateCount ∧ ∀ r, ¬movesUp m.moves p (.symbol s) r := by
  have hcount := h.stateCount_eq
  constructor
  · intro hm
    have hp := source_lt hm
    cases l with
    | epsilon => exact absurd hm (h.complete.deterministic.1 p q)
    | symbol s =>
      obtain ⟨hs, rfl⟩ := (h.complete.moves_iff hp).1 hm
      rw [h.alphabetSize_eq] at hs
      cases p with
      | zero => exact Or.inr ⟨h.step_zero hs, s, hs, rfl, Nat.zero_le _, not_movesUp_zero _⟩
      | succ p =>
        have hpm : p < m.stateCount := by omega
        rw [h.step_succ hpm hs]
        cases ht : m.target? p s with
        | none => exact Or.inr ⟨rfl, s, hs, rfl, hpm, (forall_not_movesUp_iff hw.ascending).2 ht⟩
        | some r => exact Or.inl ⟨p, r, rfl, rfl, (target?_eq_some_iff hw.ascending hd).1 ht⟩
  · intro hm
    rcases hm with ⟨p, q, rfl, rfl, hm⟩ | ⟨rfl, s, hs, rfl, hp, hno⟩
    · cases l with
      | epsilon => exact absurd hm (hd.1 p q)
      | symbol s => exact (h.moves_succ_iff hw hd).2 hm
    · refine (h.complete.moves_iff (by omega)).2 ⟨h.alphabetSize_eq.symm ▸ hs, ?_⟩
      cases p with
      | zero => exact (h.step_zero hs).symm
      | succ p =>
        rw [h.step_succ hp hs, (forall_not_movesUp_iff hw.ascending).1 hno]
        rfl

/-- completion writes at once what is filled in place -/
theorem complete_eq_filled (hw : m.WellFormed) (hd : m.Deterministic) : m.complete = .ok m.filled := by
  obtain ⟨c, hc, h⟩ := completes_complete hw hd
  obtain ⟨hext, hcount⟩ := extends_filled m
  have hanswer (q : Nat) : m.filled.answer q = m.raised.answer q := Prod.ext (hext.accepting q) (hext.token q)
  rw [hc]
  congr 1
  apply eq_of_moves (n := m.filled) h.complete.ascending (hext.ascending (ascending_raised m))
  · exact h.alphabetSize_eq.trans hext.alphabetSize.symm
  · exact h.stateCount_eq.trans hcount.symm
  · exact h.start_eq.trans hext.start.symm
  · exact h.error_eq
  · intro q
    rw [hanswer]
    cases q with
    | zero => rw [h.answer_zero, answer_raised_zero]
    | succ q =>
      rw [answer_raised_succ]
      by_cases hq : q < m.stateCount
      · exact h.answer_succ hq
      · have hcq : ¬q + 1 < c.stateCount := by rw [h.stateCount_eq]; omega
        simp only [answer, token?_eq_none (Nat.not_lt.1 hq), token?_eq_none (Nat.not_lt.1 hcq),
          isAccepting_eq_false (Nat.not_lt.1 hq), isAccepting_eq_false (Nat.not_lt.1 hcq)]
  · intro p l q
    rw [h.moves_iff_up hw hd, moves_filled_iff]

/-! ## Totalization -/

/-- `c` is `m` moved up by one, with an error state `0` to which all missing moves lead -/
structure Totalizes (m c : Automaton) : Prop where
  alphabetSize_eq : c.alphabetSize = m.alphabetSize
  stateCount_eq : c.stateCount = m.stateCount + 1
  wellFormed : c.WellFormed
  complete : c.isComplete = true
  exists_unique_move : ∀ q < c.stateCount, ∀ s < m.alphabetSize, ∃! r, c.moves q (.symbol s) r
  /-- a run ends where it ended before, one number higher -/
  run_some : ∀ {q r w}, q < m.stateCount → m.run? q w = some r → c.run? (q + 1) w = some (r + 1)
  /-- a run that got stuck ends in the error state -/
  run_none : ∀ {q w}, q < m.stateCount → (∀ s ∈ w, s < m.alphabetSize) → m.run? q w = none → c.run? (q + 1) w = some 0
  error_eq : c.errorState = some 0
  error_kept : ∀ l r, c.moves 0 l r → r = 0
  error_run : ∀ w, (∀ s ∈ w, s < m.alphabetSize) → c.run? 0 w = some 0
  error_not_accepting : c.isAccepting 0 = false
  error_no_token : c.token? 0 = none
  accepting_eq : ∀ q < m.stateCount, c.isAccepting (q + 1) = m.isAccepting q
  token_eq : ∀ q < m.stateCount, c.token? (q + 1) = m.token? q
  start_eq : c.start = m.start + 1

/-- a word that can be read has symbols of the alphabet only -/
theorem isWord_of_run? (hw : m.WellFormed) (hd : m.Deterministic) (h : m.run? q w = some r) : m.IsWord w := by
  induction w generalizing q with
  | nil => simp [IsWord]
  | cons s w ih =>
    rw [run?_cons, Option.bind_eq_some_iff] at h
    obtain ⟨p, hp, h⟩ := h
    have hs : s < m.alphabetSize := hw.symbol_lt ((target?_eq_some_iff hw.ascending hd).1 hp)
    exact List.forall_mem_cons.2 ⟨hs, ih h⟩

theorem Completes.totalizes (h : Completes m c) (hw : m.WellFormed) (hd : m.Deterministic) : Totalizes m c := by
  have hpos : 0 < c.stateCount := by
    rw [h.stateCount_eq]
    omega
  have hword {w : List Nat} (hs : m.IsWord w) : c.IsWord w := by rwa [IsWord, h.alphabetSize_eq]
  have hrun {q : Nat} {w : List Nat} (hq : q < m.stateCount) (hs : m.IsWord w) :
      c.run? (q + 1) w = some ((m.run? q w).elim 0 (· + 1)) := by
    rw [h.complete.run?_of_isWord (by rw [h.stateCount_eq]; omega) (hword hs), h.after_eq hw hd hq hs]
  exact
    { alphabetSize_eq := h.alphabetSize_eq
      stateCount_eq := h.stateCount_eq
      wellFormed := h.complete.wellFormed
      complete := h.complete.isComplete
      exists_unique_move := by
        intro q hq s hs
        rw [← h.alphabetSize_eq] at hs
        refine ⟨c.step q s, (h.complete.moves_iff hq).2 ⟨hs, rfl⟩, ?_⟩
        intro r hr
        exact ((h.complete.moves_iff hq).1 hr).2
      run_some := by
        intro q r w hq hr
        rw [hrun hq (isWord_of_run? hw hd hr), hr]
        rfl
      run_none := by
        intro q w hq hs hr
        rw [hrun hq hs, hr]
        rfl
      error_eq := h.error_eq
      error_kept := by
        intro l r hm
        cases l with
        | epsilon => exact absurd hm (h.complete.deterministic.1 0 r)
        | symbol s =>
          obtain ⟨hs, rfl⟩ := (h.complete.moves_iff hpos).1 hm
          exact h.step_zero (h.alphabetSize_eq ▸ hs)
      error_run := by
        intro w hs
        rw [h.complete.run?_of_isWord hpos (hword hs), h.after_zero hs]
      error_not_accepting := congrArg Prod.fst h.answer_zero
      error_no_token := congrArg Prod.snd h.answer_zero
      accepting_eq := fun _ hq => congrArg Prod.fst (h.answer_succ hq)
      token_eq := fun _ hq => congrArg Prod.snd (h.answer_succ hq)
      start_eq := h.start_eq }

/-- **Completion is a conservative totalization.** A deterministic automaton is completed to one with a new error state in
front, in which every state has one move on each symbol; runs go on as before, one number higher, and a run that gets stuck
is in the error state. It is the automaton that is filled in place. An automaton with a choice of moves is refused. -/
theorem complete_totalizes (ha : m.Ascending) :
    (m.WellFormed → m.Deterministic → ∃ c, m.complete = .ok c ∧ c = m.filled ∧ Totalizes m c) ∧
      (¬m.Deterministic → m.complete = .error .notDeterministic) := by
  constructor
  · intro hw hd
    obtain ⟨c, hc, h⟩ := completes_complete hw hd
    refine ⟨c, hc, ?_, h.totalizes hw hd⟩
    rw [complete_eq_filled hw hd] at hc
    cases hc
    rfl
  · intro hd
    have hno : ¬m.isDeterministic = true := mt (isDeterministic_iff ha).1 hd
    rw [complete, if_neg hno]

/-- two states that are left on one symbol each, of two, and a third one that accepts -/
def thread : Automaton :=
  { alphabetSize := 2
    states := #[{ edges := [⟨.symbol 0, 1⟩] }, { edges := [⟨.symbol 1, 2⟩] }, { edges := [], accepting := true, token := some 0 }] }

/-- a state with two moves on one symbol -/
def fork : Automaton :=
  { alphabetSize := 1, states := #[{ edges := [⟨.symbol 0, 0⟩, ⟨.symbol 0, 1⟩] }, {}] }

/-- the word of `thread` is read as before, any other one leads to the error state, and `fork` is refused -/
theorem complete_totalizes_thread : (∃ c, thread.complete = .ok c ∧ c.run? 1 [0, 1] = some 3 ∧ c.run? 1 [1, 0] = some 0 ∧
    c.isAccepting 3 = true) ∧ fork.complete = .error .notDeterministic := by
  have hthread : thread.WellFormed := wellFormed_of_edges (by decide) (by decide)
  have hfork : fork.WellFormed := wellFormed_of_edges (by decide) (by decide)
  have hd : thread.Deterministic := (isDeterministic_iff hthread.ascending).1 (by simp [isDeterministic, thread, labelsDiffer])
  have hnd : ¬fork.Deterministic := mt (isDeterministic_iff hfork.ascending).2 (by simp [isDeterministic, fork, labelsDiffer])
  obtain ⟨c, hc, -, h⟩ := (complete_totalizes hthread.ascending).1 hthread hd
  refine ⟨⟨c, hc, ?_, ?_, ?_⟩, (complete_totalizes hfork.ascending).2 hnd⟩
  · exact h.run_some (by decide) (by decide)
  · exact h.run_none (by decide) (by decide) (by decide)
  · rw [h.accepting_eq 2 (by decide)]
    rfl

end Automaton

end Munch
