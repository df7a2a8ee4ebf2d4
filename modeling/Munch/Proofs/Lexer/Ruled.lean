/-
The shape of an automaton of rules.

A rule adds new states behind the state of its mode, and no way leads from them to any other state. So what is found from
the state of a mode is what its rules find, and a rule that is added changes nothing for the other modes. `Ruled` says this
for an automaton with some states of modes.

Results:
- `exists_added`: adding the automaton of one expression succeeds, and finds its token type in the words that it spells.
- `Ruled.add`, `Ruled.declare`, `Ruled.again`: a rule, a new mode and a mode that is declared again keep the shape.
- `Ruled.finds_cons_iff`: from the start, the first symbol of a word chooses the mode in which the others are read.
-/
import Mathlib.Tactic
import Munch.Proofs.Automaton.Deterministic
import Munch.Proofs.Automaton.Fragment

namespace Munch

namespace Automaton

variable {m : Automaton} {S t : Nat} {alphabet : Alphabet} {r : Regex}

/-! ## Accepting states -/

theorem moves_accept (m : Automaton) (last : Nat) (token : Option Nat) : (m.accept last token).moves = m.moves := by
  funext p l q
  simp only [moves, edges, edges?, accept, Array.getElem?_modify]
  split
  · rename_i h
    subst h
    cases m.states[last]? <;> rfl
  · rfl

@[simp] theorem stateCount_accept (m : Automaton) (last : Nat) (token : Option Nat) :
    (m.accept last token).stateCount = m.stateCount := by
  simp [stateCount, accept]

theorem isAccepting_accept {last : Nat} (h : last < m.stateCount) (token : Option Nat) (q : Nat) :
    (m.accept last token).isAccepting q = (decide (q = last) || m.isAccepting q) := by
  have h' : last < m.states.size := h
  simp only [isAccepting, accept, Array.getElem?_modify]
  by_cases hq : last = q
  · subst hq
    simp [h']
  · have : ¬q = last := fun e => hq e.symm
    simp [hq, this]

theorem token?_accept {last : Nat} (h : last < m.stateCount) (t q : Nat) :
    (m.accept last (some t)).token? q = if q = last then some t else m.token? q := by
  have h' : last < m.states.size := h
  simp only [token?, accept, Array.getElem?_modify]
  by_cases hq : last = q
  · subst hq
    simp [h']
  · have : ¬q = last := fun e => hq e.symm
    simp [hq, this]

theorem ascending_accept {last : Nat} {token : Option Nat} (h : m.Ascending) : (m.accept last token).Ascending := by
  intro q
  have : (m.accept last token).edges q = m.edges q := by
    simp only [edges, edges?, accept, Array.getElem?_modify]
    split
    · rename_i h
      subst h
      cases m.states[last]? <;> rfl
    · rfl
  exact this ▸ h q

/-! ## One expression -/

/-- `m'` is `m` with the automaton of an expression behind the state `S`, where the token type `t` is recognised -/
structure Added (alphabet : Alphabet) (m m' : Automaton) (S : Nat) (r : Regex) (t : Nat) : Prop where
  lt : m.stateCount < m'.stateCount
  start : m'.start = m.start
  alphabetSize : m'.alphabetSize = m.alphabetSize
  errorState : m'.errorState = m.errorState
  ascending : m.Ascending → m'.Ascending
  moves_old : ∀ {p l q}, p < m.stateCount →
    (m'.moves p l q ↔ m.moves p l q ∨ p = S ∧ l = .epsilon ∧ q = m.stateCount)
  moves_new : ∀ {p l q}, m.stateCount ≤ p → m'.moves p l q →
    m.stateCount ≤ q ∧ q < m'.stateCount ∧ ∀ s, l = .symbol s → s < alphabet.size
  accepting_old : ∀ {q}, q < m.stateCount → m'.isAccepting q = m.isAccepting q
  token_old : ∀ {q}, q < m.stateCount → m'.token? q = m.token? q
  accepting_new : ∀ {q}, m.stateCount ≤ q → (m'.isAccepting q = true ↔ ∃ t, m'.token? q = some t)
  reads_new : ∀ {v t'}, (∃ q, m'.Reads m.stateCount v q ∧ m'.token? q = some t') ↔ t' = t ∧ r.Spells alphabet v

theorem exists_added (hr : r.TiledBy alphabet) (hS : S < m.stateCount) (t : Nat) :
    ∃ m1 last m2, m.addState.connect S .epsilon m.stateCount = .ok m1 ∧
      r.compile alphabet m.stateCount m1 = .ok (last, m2) ∧ Added alphabet m (m2.accept last (some t)) S r t := by
  obtain ⟨m1, h1, hc1, he1⟩ := Extends.connect (m := m.addState) (p := S)
    (by rw [stateCount_addState]; omega) .epsilon m.stateCount
  rw [stateCount_addState] at hc1
  obtain ⟨last, m2, F, h2, hF⟩ := compiles_of_tiledBy hr (show m.stateCount < m1.stateCount by omega)
  have hext := he1.behind_addState.trans hF.toExtends
  have hpiece := hF.piece
  rw [hc1] at hpiece
  have hlast := hpiece.stop_new
  refine ⟨m1, last, m2, h1, h2, ?_⟩
  have hmoves {p : Nat} {l : Label} {q : Nat} : (m2.accept last (some t)).moves p l q ↔
      m.moves p l q ∨ (p = S ∧ l = .epsilon ∧ q = m.stateCount) ∨ F p l q := by
    rw [moves_accept]
    exact hext.moves p l q
  -- a move from a new state is one of the expression
  have hnew {p : Nat} {l : Label} {q : Nat} (hp : m.stateCount ≤ p) (hm : (m2.accept last (some t)).moves p l q) :
      F p l q := by
    rcases hmoves.1 hm with hm | ⟨rfl, -⟩ | hm
    · have := source_lt hm
      omega
    · omega
    · exact hm
  have htoken {q : Nat} (hq : m.stateCount ≤ q) :
      (m2.accept last (some t)).token? q = if q = last then some t else none := by
    rw [token?_accept hlast.2, hext.token, token?_eq_none hq]
  exact
    { lt := by
        rw [stateCount_accept]
        omega
      start := hext.start
      alphabetSize := hext.alphabetSize
      errorState := hext.errorState
      ascending := fun ha => ascending_accept (hext.ascending ha)
      moves_old := fun {p l q} hp => by
        rw [hmoves]
        refine or_congr_right ⟨fun hm => hm.resolve_right fun hm => ?_, Or.inl⟩
        rcases hpiece.source hm with rfl | ⟨h, -⟩ <;> omega
      moves_new := fun {p l q} hp hm => by
        have htarget := hpiece.target (hnew hp hm)
        rw [stateCount_accept]
        exact ⟨by omega, htarget.2, fun s hs => hF.symbol_lt (hs ▸ hnew hp hm)⟩
      accepting_old := fun {q} hq => by
        have hne : q ≠ last := by omega
        rw [isAccepting_accept hlast.2, hext.accepting, decide_eq_false hne, Bool.false_or]
      token_old := fun {q} hq => by
        rw [token?_accept hlast.2, if_neg (by omega), hext.token]
      accepting_new := fun {q} hq => by
        rw [htoken hq, isAccepting_accept hlast.2, hext.accepting, isAccepting_eq_false hq]
        by_cases h : q = last <;> simp [h]
      reads_new := fun {v t'} => by
        rw [← hF.reads]
        constructor
        · rintro ⟨q, hq, ht⟩
          obtain ⟨hpath, hle⟩ := Path.within (G := F) (S := (m.stateCount ≤ ·))
            (fun p l q hp hm => ⟨hnew hp hm, by have := hpiece.target (hnew hp hm); omega⟩) hq (Nat.le_refl _)
          rw [htoken hle] at ht
          split at ht
          · rename_i hql
            cases ht
            exact ⟨rfl, hql ▸ hpath⟩
          · cases ht
        · rintro ⟨rfl, hpath⟩
          refine ⟨last, hpath.mono fun p l q hm => hmoves.2 (Or.inr (Or.inr hm)), ?_⟩
          rw [htoken (by omega), if_pos rfl] }

/-! ## All rules -/

/-- a state that is neither the start nor that of a mode -/
def Body (m : Automaton) (modes : List (Nat × Nat)) (q : Nat) : Prop :=
  0 < q ∧ q < m.stateCount ∧ ∀ mode, (mode, q) ∉ modes

/-- the shape of an automaton of rules: the start leads to the modes, these lead to the rules, and nothing leads back; what
is found from the state of a mode is what `finds` says -/
structure Ruled (alphabet : Alphabet) (m : Automaton) (modes : List (Nat × Nat)) (finds : Nat → List Nat → Nat → Prop) :
    Prop where
  start_eq : m.start = 0
  stateCount_pos : 0 < m.stateCount
  ascending : m.Ascending
  state_unique : ∀ {mode S T}, (mode, S) ∈ modes → (mode, T) ∈ modes → S = T
  mode_unique : ∀ {mode mode' S}, (mode, S) ∈ modes → (mode', S) ∈ modes → mode = mode'
  mode_lt : ∀ {mode S}, (mode, S) ∈ modes → 0 < S ∧ S < m.stateCount ∧ mode < m.alphabetSize
  start_moves : ∀ {l q}, m.moves 0 l q ↔ ∃ mode, l = .symbol mode ∧ (mode, q) ∈ modes
  mode_moves : ∀ {mode S l q}, (mode, S) ∈ modes → m.moves S l q → l = .epsilon ∧ Body m modes q
  body_moves : ∀ {p l q}, Body m modes p → m.moves p l q → Body m modes q ∧ ∀ s, l = .symbol s → s < alphabet.size
  token_body : ∀ {q t}, m.token? q = some t → Body m modes q
  accepting_iff : ∀ {q}, m.isAccepting q = true ↔ ∃ t, m.token? q = some t
  finds_iff : ∀ {mode S v t}, (mode, S) ∈ modes →
    ((∃ q, m.Reads S v q ∧ m.token? q = some t) ↔ finds mode v t)

namespace Ruled

variable {m' : Automaton} {modes : List (Nat × Nat)} {finds : Nat → List Nat → Nat → Prop} {mode : Nat}

theorem congr {finds' : Nat → List Nat → Nat → Prop} (h : Ruled alphabet m modes finds)
    (hf : ∀ mode v t, finds mode v t ↔ finds' mode v t) : Ruled alphabet m modes finds' :=
  { h with finds_iff := fun hS => (h.finds_iff hS).trans (hf _ _ _) }

/-- a move leaves the start on a mode, or it leads to a state that is neither the start nor that of a mode -/
theorem moves_cases (h : Ruled alphabet m modes finds) {p : Nat} {l : Label} {q : Nat} (hm : m.moves p l q) :
    p = 0 ∧ (∃ mode, l = .symbol mode ∧ (mode, q) ∈ modes) ∨ (l = .epsilon ∧ Body m modes q) ∨
      Body m modes q ∧ ∀ s, l = .symbol s → s < alphabet.size := by
  rcases Nat.eq_zero_or_pos p with rfl | hp
  · exact Or.inl ⟨rfl, h.start_moves.1 hm⟩
  · by_cases hmode : ∃ mode, (mode, p) ∈ modes
    · obtain ⟨mode, hS⟩ := hmode
      exact Or.inr (Or.inl (h.mode_moves hS hm))
    · exact Or.inr (Or.inr (h.body_moves ⟨hp, source_lt hm, fun mode hS => hmode ⟨mode, hS⟩⟩ hm))

/-! ### One more rule -/

section Add

variable (h : Ruled alphabet m modes finds) (ha : Added alphabet m m' S r t) (hS : (mode, S) ∈ modes)

include ha in
theorem body_old {q : Nat} (hq : Body m modes q) : Body m' modes q :=
  ⟨hq.1, hq.2.1.trans ha.lt, hq.2.2⟩

include h in
theorem body_new {q : Nat} (hq : m.stateCount ≤ q) (hq' : q < m'.stateCount) : Body m' modes q := by
  have hpos := h.stateCount_pos
  refine ⟨by omega, hq', fun mode' hm => ?_⟩
  have := (h.mode_lt hm).2.1
  omega

include ha hS

theorem moves_body {p : Nat} {l : Label} {q : Nat} (hp : Body m modes p) (hm : m'.moves p l q) : m.moves p l q := by
  rcases (ha.moves_old hp.2.1).1 hm with hm | ⟨rfl, -⟩
  · exact hm
  · exact absurd hS (hp.2.2 mode)

include h

/-- the new states are out of reach for the other rules -/
theorem reads_body {p q : Nat} {v : List Nat} (hp : Body m modes p) (hread : m'.Reads p v q) :
    m.Reads p v q ∧ Body m modes q := by
  refine Path.within (fun p l q hp hm => ?_) hread hp
  have hm' := moves_body ha hS hp hm
  exact ⟨hm', (h.body_moves hp hm').1⟩

theorem finds_add {mode' T : Nat} {v : List Nat} {t' : Nat} (hT : (mode', T) ∈ modes) :
    (∃ q, m'.Reads T v q ∧ m'.token? q = some t') ↔
      finds mode' v t' ∨ mode' = mode ∧ t' = t ∧ r.Spells alphabet v := by
  have hTlt := (h.mode_lt hT).2.1
  constructor
  · rintro ⟨q, hread, ht⟩
    cases hread with
    | done =>
      rw [ha.token_old hTlt] at ht
      exact absurd hT ((h.token_body ht).2.2 mode')
    | @step _ q1 _ l v hm hrest =>
      rcases (ha.moves_old hTlt).1 hm with hm | ⟨rfl, rfl, rfl⟩
      · obtain ⟨rfl, hb⟩ := h.mode_moves hT hm
        obtain ⟨hread, hbq⟩ := reads_body h ha hS hb hrest
        rw [ha.token_old hbq.2.1] at ht
        exact Or.inl ((h.finds_iff hT).1 ⟨q, Path.skip hm hread, ht⟩)
      · exact Or.inr ⟨h.mode_unique hT hS, ha.reads_new.1 ⟨q, hrest, ht⟩⟩
  · rintro (hf | ⟨rfl, hf⟩)
    · obtain ⟨q, hread, ht⟩ := (h.finds_iff hT).2 hf
      have hread' : m'.Reads T v q := hread.mono fun p l q hm => (ha.moves_old (source_lt hm)).2 (Or.inl hm)
      exact ⟨q, hread', (ha.token_old (h.token_body ht).2.1).trans ht⟩
    · obtain rfl := h.state_unique hT hS
      obtain ⟨q, hread, ht⟩ := ha.reads_new.2 hf
      exact ⟨q, Path.skip ((ha.moves_old hTlt).2 (Or.inr ⟨rfl, rfl, rfl⟩)) hread, ht⟩

/-- the automaton of one more rule -/
theorem add : Ruled alphabet m' modes fun mode' v t' =>
    finds mode' v t' ∨ mode' = mode ∧ t' = t ∧ r.Spells alphabet v where
  start_eq := ha.start.trans h.start_eq
  stateCount_pos := h.stateCount_pos.trans ha.lt
  ascending := ha.ascending h.ascending
  state_unique := h.state_unique
  mode_unique := h.mode_unique
  mode_lt hm := by
    obtain ⟨h1, h2, h3⟩ := h.mode_lt hm
    exact ⟨h1, h2.trans ha.lt, ha.alphabetSize.symm ▸ h3⟩
  start_moves {l q} := by
    have hSpos := (h.mode_lt hS).1
    rw [ha.moves_old h.stateCount_pos, h.start_moves]
    exact ⟨fun hm => hm.resolve_right fun ⟨he, _⟩ => by omega, Or.inl⟩
  mode_moves {mode' T l q} hT hm := by
    rcases (ha.moves_old (h.mode_lt hT).2.1).1 hm with hm | ⟨-, hl, rfl⟩
    · exact (h.mode_moves hT hm).imp_right (body_old ha)
    · exact ⟨hl, body_new h (Nat.le_refl _) ha.lt⟩
  body_moves {p l q} hp hm := by
    by_cases hpl : p < m.stateCount
    · have hp' : Body m modes p := ⟨hp.1, hpl, hp.2.2⟩
      exact (h.body_moves hp' (moves_body ha hS hp' hm)).imp_left (body_old ha)
    · obtain ⟨h1, h2, h3⟩ := ha.moves_new (Nat.not_lt.1 hpl) hm
      exact ⟨body_new h h1 h2, h3⟩
  token_body {q t'} ht := by
    by_cases hq : q < m.stateCount
    · rw [ha.token_old hq] at ht
      exact body_old ha (h.token_body ht)
    · exact body_new h (Nat.not_lt.1 hq) (lt_of_token?_eq_some ht)
  accepting_iff {q} := by
    by_cases hq : q < m.stateCount
    · rw [ha.accepting_old hq, ha.token_old hq, h.accepting_iff]
    · exact ha.accepting_new (Nat.not_lt.1 hq)
  finds_iff hT := finds_add h ha hS hT

end Add

/-! ### One more mode -/

/-- a mode that is declared again -/
theorem again (h : Ruled alphabet m modes finds) (hS : (mode, S) ∈ modes) :
    Ruled alphabet (m.addEdge 0 (.symbol mode) S) modes finds := by
  have hext := Extends.addEdge h.stateCount_pos (.symbol mode) S
  have hcount := stateCount_addEdge m 0 (.symbol mode) S
  have hmoves : (m.addEdge 0 (.symbol mode) S).moves = m.moves := by
    funext p l q
    refine propext ((hext.moves p l q).trans ⟨fun hm => hm.elim id ?_, Or.inl⟩)
    rintro ⟨rfl, rfl, rfl⟩
    exact h.start_moves.2 ⟨mode, rfl, hS⟩
  have hbody : Body (m.addEdge 0 (.symbol mode) S) modes = Body m modes := by
    funext q
    rw [Body, Body, hcount]
  have hreads : (m.addEdge 0 (.symbol mode) S).Reads = m.Reads := by
    unfold Reads
    rw [hmoves]
  exact
    { start_eq := h.start_eq
      stateCount_pos := hcount ▸ h.stateCount_pos
      ascending := hext.ascending h.ascending
      state_unique := h.state_unique
      mode_unique := h.mode_unique
      mode_lt := by
        rw [hcount, hext.alphabetSize]
        exact h.mode_lt
      start_moves := by
        rw [hmoves]
        exact h.start_moves
      mode_moves := by
        rw [hmoves, hbody]
        exact h.mode_moves
      body_moves := by
        rw [hmoves, hbody]
        exact h.body_moves
      token_body := by
        simp only [hext.token, hbody]
        exact h.token_body
      accepting_iff := by
        simp only [hext.token, hext.accepting]
        exact h.accepting_iff
      finds_iff := by
        simp only [hext.token, hreads]
        exact h.finds_iff }

section Declare

variable (h : Ruled alphabet m modes finds) (hext : Extends m m' (arc 0 (.symbol mode) m.stateCount))
  (hcount : m'.stateCount = m.stateCount + 1)

theorem mem_declare {mode' T : Nat} : (mode', T) ∈ modes ++ [(mode, m.stateCount)] ↔
    (mode', T) ∈ modes ∨ mode' = mode ∧ T = m.stateCount := by
  rw [List.mem_append, List.mem_singleton, Prod.mk.injEq]

include hcount in
theorem body_declare : Body m' (modes ++ [(mode, m.stateCount)]) = Body m modes := by
  funext q
  simp only [Body, hcount, mem_declare, not_or, eq_iff_iff]
  constructor
  · rintro ⟨h1, h2, h3⟩
    have : q ≠ m.stateCount := fun he => (h3 mode).2 ⟨rfl, he⟩
    exact ⟨h1, by omega, fun mode' => (h3 mode').1⟩
  · rintro ⟨h1, h2, h3⟩
    exact ⟨h1, by omega, fun mode' => ⟨h3 mode', fun he => by omega⟩⟩

include hext

theorem moves_declare {p : Nat} {l : Label} {q : Nat} (hp : 0 < p) : m'.moves p l q ↔ m.moves p l q := by
  rw [hext.moves]
  exact ⟨fun hm => hm.resolve_right fun ⟨he, _⟩ => by omega, Or.inl⟩

include h

/-- nothing leads back to the start, which is the only state with a new move -/
theorem reads_declare {p q : Nat} {v : List Nat} (hp : 0 < p) : m'.Reads p v q ↔ m.Reads p v q := by
  constructor
  · intro hread
    refine (hread.within (S := (0 < ·)) (fun p l q hp hm => ?_) hp).1
    have hm' := (moves_declare hext hp).1 hm
    refine ⟨hm', ?_⟩
    rcases h.moves_cases hm' with ⟨rfl, -⟩ | ⟨-, hb⟩ | ⟨hb, -⟩
    · exact absurd hp (Nat.lt_irrefl 0)
    · exact hb.1
    · exact hb.1
  · exact Path.mono fun p l q hm => (hext.moves p l q).2 (Or.inl hm)

include hcount

theorem extends_declare (hnew : ∀ S, (mode, S) ∉ modes) (hk : mode < m.alphabetSize)
    (hf : ∀ v t, ¬finds mode v t) : Ruled alphabet m' (modes ++ [(mode, m.stateCount)]) finds where
  start_eq := hext.start.trans h.start_eq
  stateCount_pos := by omega
  ascending := hext.ascending h.ascending
  state_unique hS hT := by
    rcases mem_declare.1 hS with hS | ⟨rfl, rfl⟩ <;> rcases mem_declare.1 hT with hT | ⟨he, rfl⟩
    · exact h.state_unique hS hT
    · exact absurd (he ▸ hS) (hnew _)
    · exact absurd hT (hnew _)
    · rfl
  mode_unique hS hS' := by
    rcases mem_declare.1 hS with h1 | ⟨h1, rfl⟩ <;> rcases mem_declare.1 hS' with h2 | ⟨h2, he⟩
    · exact h.mode_unique h1 h2
    · exact absurd (he ▸ (h.mode_lt h1).2.1) (Nat.lt_irrefl _)
    · exact absurd (h.mode_lt h2).2.1 (Nat.lt_irrefl _)
    · exact h1.trans h2.symm
  mode_lt hS := by
    have hpos := h.stateCount_pos
    rw [hcount, hext.alphabetSize]
    rcases mem_declare.1 hS with hS | ⟨rfl, rfl⟩
    · have := h.mode_lt hS
      omega
    · omega
  start_moves {l q} := by
    rw [hext.moves, h.start_moves]
    constructor
    · rintro (⟨mode', rfl, hS⟩ | ⟨-, rfl, rfl⟩)
      · exact ⟨mode', rfl, mem_declare.2 (Or.inl hS)⟩
      · exact ⟨mode, rfl, mem_declare.2 (Or.inr ⟨rfl, rfl⟩)⟩
    · rintro ⟨mode', rfl, hS⟩
      rcases mem_declare.1 hS with hS | ⟨rfl, rfl⟩
      · exact Or.inl ⟨mode', rfl, hS⟩
      · exact Or.inr ⟨rfl, rfl, rfl⟩
  mode_moves {mode' T l q} hT hm := by
    rw [body_declare hcount]
    rcases mem_declare.1 hT with hT | ⟨rfl, rfl⟩
    · exact h.mode_moves hT ((moves_declare hext (h.mode_lt hT).1).1 hm)
    · exact absurd (source_lt ((moves_declare hext h.stateCount_pos).1 hm)) (Nat.lt_irrefl _)
  body_moves {p l q} hp hm := by
    rw [body_declare hcount] at hp ⊢
    exact h.body_moves hp ((moves_declare hext hp.1).1 hm)
  token_body := by
    simp only [hext.token, body_declare hcount]
    exact h.token_body
  accepting_iff := by
    simp only [hext.token, hext.accepting]
    exact h.accepting_iff
  finds_iff {mode' T v t} hT := by
    simp only [hext.token]
    rcases mem_declare.1 hT with hT | ⟨rfl, rfl⟩
    · simp only [reads_declare h hext (h.mode_lt hT).1]
      exact h.finds_iff hT
    · -- the new state has no moves yet
      refine iff_of_false ?_ (hf v t)
      rintro ⟨q, hread, ht⟩
      have hpath := (reads_declare h hext h.stateCount_pos).1 hread
      obtain ⟨rfl, -⟩ := hpath.of_last fun l q hm => absurd (source_lt hm) (Nat.lt_irrefl _)
      exact absurd (lt_of_token?_eq_some ht) (Nat.lt_irrefl _)

end Declare

/-- a mode that is declared for the first time -/
theorem declare (h : Ruled alphabet m modes finds) (hnew : ∀ S, (mode, S) ∉ modes) (hk : mode < m.alphabetSize)
    (hf : ∀ v t, ¬finds mode v t) :
    Ruled alphabet (m.addState.addEdge 0 (.symbol mode) m.stateCount) (modes ++ [(mode, m.stateCount)]) finds := by
  have hext := Extends.addEdge (m := m.addState) (p := 0) (by rw [stateCount_addState]; omega) (.symbol mode) m.stateCount
  have hcount : (m.addState.addEdge 0 (.symbol mode) m.stateCount).stateCount = m.stateCount + 1 := by
    rw [stateCount_addEdge, stateCount_addState]
  exact extends_declare h hext.behind_addState hcount hnew hk hf

/-! ### What is found -/

/-- what is found from the start: the first symbol chooses the mode -/
theorem finds_cons_iff (h : Ruled alphabet m modes finds) {v : List Nat} {t : Nat} :
    m.Finds (mode :: v) t ↔ (∃ S, (mode, S) ∈ modes) ∧ finds mode v t := by
  have hstart {l : Label} {q : Nat} (hm : m.moves 0 l q) : ∃ mode, l = .symbol mode ∧ (mode, q) ∈ modes :=
    h.start_moves.1 hm
  unfold Finds
  rw [h.start_eq]
  constructor
  · rintro ⟨q, hread, ht⟩
    obtain ⟨q1, S, h1, hm, h2⟩ := Path.of_cons hread
    obtain ⟨rfl, -⟩ : q1 = 0 ∧ True := by
      generalize hw : ([] : List Nat) = w at h1
      cases h1 with
      | done => exact ⟨rfl, trivial⟩
      | step hm' _ =>
        obtain ⟨mode', rfl, -⟩ := hstart hm'
        cases hw
    obtain ⟨mode', he, hS⟩ := hstart hm
    cases he
    exact ⟨⟨S, hS⟩, (h.finds_iff hS).1 ⟨q, h2, ht⟩⟩
  · rintro ⟨⟨S, hS⟩, hf⟩
    obtain ⟨q, hread, ht⟩ := (h.finds_iff hS).2 hf
    exact ⟨q, Path.read (h.start_moves.2 ⟨mode, rfl, hS⟩) hread, ht⟩

/-- nothing is found without a mode -/
theorem not_finds_nil (h : Ruled alphabet m modes finds) {t : Nat} : ¬m.Finds [] t := by
  rintro ⟨q, hread, ht⟩
  rw [h.start_eq] at hread
  generalize hw : ([] : List Nat) = w at hread
  cases hread with
  | done => exact absurd (h.token_body ht).1 (Nat.lt_irrefl 0)
  | step hm _ =>
    obtain ⟨mode', rfl, -⟩ := h.start_moves.1 hm
    cases hw

theorem accepts_iff (h : Ruled alphabet m modes finds) {w : List Nat} : m.Accepts w ↔ ∃ t, m.Finds w t := by
  simp only [Accepts, Finds, h.accepting_iff]
  constructor
  · rintro ⟨q, hq, t, ht⟩
    exact ⟨t, q, hq, ht⟩
  · rintro ⟨t, q, hq, ht⟩
    exact ⟨q, hq, t, ht⟩

theorem wellFormed (h : Ruled alphabet m modes finds) (hk : alphabet.size ≤ m.alphabetSize) : m.WellFormed where
  ascending := h.ascending
  start_lt := h.start_eq ▸ h.stateCount_pos
  target_lt {p l q} hm := by
    rcases h.moves_cases hm with ⟨-, mode, -, hS⟩ | ⟨-, hb⟩ | ⟨hb, -⟩
    · exact (h.mode_lt hS).2.1
    · exact hb.2.1
    · exact hb.2.1
  symbol_lt {p s q} hm := by
    rcases h.moves_cases hm with ⟨-, mode, he, hS⟩ | ⟨he, -⟩ | ⟨-, hs⟩
    · cases he
      exact (h.mode_lt hS).2.2
    · cases he
    · exact (hs s rfl).trans_le hk

theorem tokensAccept (h : Ruled alphabet m modes finds) : m.TokensAccept :=
  fun ht => h.accepting_iff.2 ⟨_, ht⟩

end Ruled

end Automaton

end Munch
