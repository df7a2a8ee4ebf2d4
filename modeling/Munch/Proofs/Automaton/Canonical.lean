/-
Canonical automata.

A canonical automaton has the error state `0`, no two states with the same answers, and its other states in the order in
which a breadth-first search from the start finds them. Merging the states of a completed automaton keeps that order: the
merged states are numbered by their smallest members, and what another member finds has been found before.

Results:
- `Completes.canonical`: the smallest automaton of a completed one is canonical.
- `Canonical.eq`: canonical automata that give the same answers are identical.
-/
import Mathlib.Tactic
import Munch.Proofs.Automaton.Deterministic

namespace Munch

namespace Automaton

open Subsets (Before)

variable {m n c d : Automaton} {i j a : Nat}

/-- what makes the numbers of states unique -/
structure Canonical (m : Automaton) : Prop where
  complete : m.Complete
  error_eq : m.errorState = some 0
  step_zero : ∀ {a}, a < m.alphabetSize → m.step 0 a = 0
  answer_zero : m.answer 0 = (false, none)
  start_eq : m.stateCount = 1 ∨ m.start = 1
  numbered : m.Numbered 1
  reduced : ∀ {i j}, i < m.stateCount → j < m.stateCount → m.SameAnswers i j → i = j

theorem Canonical.isAccepting_zero (h : m.Canonical) : m.isAccepting 0 = false :=
  congrArg Prod.fst h.answer_zero

theorem Canonical.token?_zero (h : m.Canonical) : m.token? 0 = none :=
  congrArg Prod.snd h.answer_zero

theorem Canonical.after_zero (h : m.Canonical) {w : List Nat} (hw : m.IsWord w) : m.after 0 w = 0 := by
  induction w with
  | nil => rfl
  | cons a w ih =>
    obtain ⟨ha, hw⟩ := List.forall_mem_cons.1 hw
    rw [after_cons, h.step_zero ha, ih hw]

/-! ## Merging keeps the order -/

theorem SameAnswers.step {p q : Nat} (h : m.SameAnswers p q) (ha : a < m.alphabetSize) :
    m.SameAnswers (m.step p a) (m.step q a) :=
  fun w hw => h (a :: w) (List.forall_mem_cons.2 ⟨ha, hw⟩)

section Merged

variable {p : Partition} (hp : p.Consistent m.stateCount)
include hp

theorem place_zero (hpos : 0 < m.stateCount) : p.place 0 = 0 := by
  by_contra hne
  obtain ⟨q, hq, hq0⟩ := hp.exists_place_eq (Nat.zero_lt_of_lt (hp.place_lt hpos))
  have h1 := (hp.place_lt_place_iff hq hpos).1 (by omega)
  have h2 := hp.leader_le hpos hpos rfl
  omega

theorem leader_of_place_pos (hpos : 0 < m.stateCount) {q : Nat} (hq : q < m.stateCount) (h : 0 < p.place q) :
    0 < p.leader q := by
  rw [← place_zero hp hpos] at h
  exact Nat.zero_lt_of_lt ((hp.place_lt_place_iff hpos hq).1 h)

theorem place_one (hone : 1 < m.stateCount) (hne : p.place 1 ≠ 0) : p.place 1 = 1 := by
  by_contra h1
  have hpos : 0 < m.stateCount := Nat.zero_lt_of_lt hone
  obtain ⟨q, hq, hq1⟩ := hp.exists_place_eq (i := 1) ((show 1 < p.place 1 by omega).trans (hp.place_lt hone))
  have h2 := (hp.place_lt_place_iff hq hone).1 (by omega)
  have h3 := leader_of_place_pos hp hpos hq (by omega)
  have h4 := hp.leader_le hone hone rfl
  omega

/-- each merged state has a smallest member -/
theorem exists_leader (h : Merges m n p.place) (hi : i < n.stateCount) :
    ∃ q < m.stateCount, p.place q = i ∧ p.leader q = q := by
  obtain ⟨q, hq, rfl⟩ := h.surjective hi
  have hb := hp.blockNumber_leader hq
  refine ⟨p.leader q, hp.leader_lt hq, (hp.place_eq_iff (hp.leader_lt hq) hq).2 hb, ?_⟩
  rw [Partition.leader, hb, Partition.leader]

/-- the members of a state behind the first are behind the start -/
theorem one_lt_leader (hone : 1 < m.stateCount) (hplace : p.place 1 = 1) {q : Nat} (hq : q < m.stateCount)
    (h : 1 < p.place q) : 1 < p.leader q := by
  have hlead := (hp.place_lt_place_iff hone hq).1 (by omega)
  have hpos := leader_of_place_pos hp (Nat.zero_lt_of_lt hone) hone (by omega)
  omega

/-- only the error state is left to no other -/
theorem place_pos_of_step (hm : m.Complete) (h : Merges m n p.place)
    (hzero : ∀ {a}, a < m.alphabetSize → m.step 0 a = 0) {q : Nat} (hq : q < m.stateCount) (ha : a < m.alphabetSize)
    (hs : p.place (m.step q a) ≠ 0) : 1 ≤ p.place q := by
  have hpos : 0 < m.stateCount := Nat.zero_lt_of_lt hm.start_lt
  by_contra hlt
  refine hs ?_
  calc p.place (m.step q a) = n.step (p.place q) a := (h.step_eq hq ha).symm
    _ = n.step (p.place 0) a := by rw [place_zero hp hpos, Nat.lt_one_iff.1 (Nat.not_le.1 hlt)]
    _ = p.place (m.step 0 a) := h.step_eq hpos ha
    _ = 0 := by rw [hzero ha, place_zero hp hpos]

/-- merged states in the order of their smallest members are found in the order of their numbers -/
theorem Numbered.merged (hm : m.Complete) (hn : m.Numbered 1) (h : Merges m n p.place)
    (hzero : ∀ {a}, a < m.alphabetSize → m.step 0 a = 0) (hone : 1 < m.stateCount) (hplace : p.place 1 = 1) :
    n.Numbered 1 := by
  have hpos : 0 < m.stateCount := Nat.zero_lt_of_lt hone
  have hmove {q a : Nat} (hq : q < m.stateCount) (ha : a < m.alphabetSize) :
      n.moves (p.place q) (.symbol a) (p.place (m.step q a)) :=
    (h.complete.moves_iff (h.lt hq)).2 ⟨h.alphabetSize_eq.symm ▸ ha, (h.step_eq hq ha).symm⟩
  have hstep {q a r : Nat} (hmv : m.moves q (.symbol a) r) : q < m.stateCount ∧ a < m.alphabetSize ∧ r = m.step q a :=
    ⟨source_lt hmv, (hm.moves_iff (source_lt hmv)).1 hmv⟩
  constructor
  · intro j hj hlt
    obtain ⟨q, hq, rfl, hlead⟩ := exists_leader hp h hlt
    have hq1 := one_lt_leader hp hone hplace hq hj
    obtain ⟨i, a, hi1, hiq, hmv⟩ := hn.found (hlead ▸ hq1) hq
    obtain ⟨hi, ha, rfl⟩ := hstep hmv
    refine ⟨p.place i, a, place_pos_of_step hp hm h hzero hi ha (by omega), ?_, hmove hi ha⟩
    rw [hp.place_lt_place_iff hi hq, hlead]
    exact (hp.leader_le hi hi rfl).trans_lt hiq
  · intro i a j k hi hmv hk hkj
    obtain ⟨ha, hja⟩ := (h.complete.moves_iff (source_lt hmv)).1 hmv
    have hk' : k < n.stateCount := hkj.trans (h.complete.wellFormed.target_lt hmv)
    obtain ⟨q, hq, rfl, hlead⟩ := exists_leader hp h (source_lt hmv)
    obtain ⟨r, hr, rfl, hlead'⟩ := exists_leader hp h hk'
    rw [h.alphabetSize_eq] at ha
    rw [h.step_eq hq ha] at hja
    subst hja
    have hs := hm.step_lt hq ha
    have hlt : r < m.step q a := by
      have := (hp.place_lt_place_iff hr hs).1 hkj
      rw [hlead'] at this
      exact this.trans_le (hp.leader_le hs hs rfl)
    obtain ⟨i', a', -, hb, hmv'⟩ := hn.order (hlead ▸ leader_of_place_pos hp hpos hq hi)
      ((hm.moves_iff hq).2 ⟨ha, rfl⟩) (hlead' ▸ one_lt_leader hp hone hplace hr hk) hlt
    obtain ⟨hi', ha', he⟩ := hstep hmv'
    subst he
    refine ⟨p.place i', a', place_pos_of_step hp hm h hzero hi' ha' (by omega), ?_, hmove hi' ha'⟩
    rcases hb with hb | ⟨rfl, hb⟩
    · refine Or.inl ?_
      rw [hp.place_lt_place_iff hi' hq, hlead]
      exact (hp.leader_le hi' hi' rfl).trans_lt hb
    · exact Or.inr ⟨rfl, hb⟩

end Merged

/-- a single state is numbered -/
theorem numbered_of_stateCount (h : m.stateCount = 1) : m.Numbered 1 where
  found hj hlt := by omega
  order hi hm := by
    have := source_lt hm
    omega

/-- from a start that answers as the error state does, nothing else can be reached -/
theorem sameAnswers_zero (hm : m.Complete) (hn : m.Numbered 1) (hzero : ∀ {a}, a < m.alphabetSize → m.step 0 a = 0)
    (hstart : m.SameAnswers 1 0) {q : Nat} (hq : q < m.stateCount) : m.SameAnswers q 0 := by
  induction q using Nat.strong_induction_on with
  | _ q ih =>
    rcases Nat.lt_trichotomy q 1 with h1 | rfl | h1
    · obtain rfl := Nat.lt_one_iff.1 h1
      exact fun _ _ => rfl
    · exact hstart
    · obtain ⟨i, a, -, hiq, hmv⟩ := hn.found h1 hq
      have hi := source_lt hmv
      obtain ⟨ha, rfl⟩ := (hm.moves_iff hi).1 hmv
      have := (ih i hiq hi).step ha
      rwa [hzero ha] at this

theorem Completes.tokensAccept (h : Completes d c) (ht : d.TokensAccept) : c.TokensAccept := by
  intro q t hq
  have hlt : q < c.stateCount := lt_of_token?_eq_some hq
  cases q with
  | zero =>
    rw [show c.token? 0 = none from congrArg Prod.snd h.answer_zero] at hq
    cases hq
  | succ q =>
    have hq' : q < d.stateCount := by rw [h.stateCount_eq] at hlt; omega
    have ha := h.answer_succ hq'
    rw [show c.token? (q + 1) = d.token? q from congrArg Prod.snd ha] at hq
    rw [show c.isAccepting (q + 1) = d.isAccepting q from congrArg Prod.fst ha]
    exact ht hq

/-- the smallest automaton of a completed one is canonical -/
theorem Completes.canonical (h : Completes d c) (hn : c.Numbered 1) (hstart : c.start = 1) (ht : c.TokensAccept) :
    ∃ n f, c.minimize = .ok n ∧ Minimizes c n f ∧ n.Canonical := by
  have hc := h.complete
  obtain ⟨n, hn_eq, rfl, hmin⟩ := minimizes_minimize hc ht h.errorState_lt
  have hp := (stable_finest hc c.flatten_tokenGroups).consistent
  have hpos : 0 < c.stateCount := Nat.zero_lt_of_lt hc.start_lt
  have hone_lt : 1 < c.stateCount := hstart ▸ hc.start_lt
  have hplace := place_zero hp hpos
  have hzero {a : Nat} (ha : a < c.alphabetSize) : c.step 0 a = 0 := h.step_zero (h.alphabetSize_eq ▸ ha)
  have hone : (Refinement.finest c c.tokenGroups).place 1 = 1 ∨
      (c.quotient (Refinement.finest c c.tokenGroups)).stateCount = 1 := by
    by_cases hne : (Refinement.finest c c.tokenGroups).place 1 = 0
    · -- a start that is the error state is the only state
      refine Or.inr (Nat.le_antisymm ?_ ?_)
      · by_contra hgt
        obtain ⟨q, hq, hq1⟩ := hmin.surjective (i := 1) (by omega)
        have hstart' := (hmin.merged_iff hone_lt hpos).1 (hne.trans hplace.symm)
        have := (hmin.merged_iff hq hpos).2 (sameAnswers_zero hc hn hzero hstart' hq)
        omega
      · exact Nat.zero_lt_of_lt hmin.complete.start_lt
    · exact Or.inl (place_one hp hone_lt hne)
  exact ⟨_, _, hn_eq, hmin,
    { complete := hmin.complete
      error_eq := by rw [hmin.error_eq, h.error_eq, Option.map_some, hplace]
      step_zero := fun {a} ha => by
        rw [hmin.alphabetSize_eq] at ha
        have hstep := hmin.step_eq hpos ha
        rwa [hzero ha, hplace] at hstep
      answer_zero := by
        have hanswer := hmin.answer_eq hpos
        rwa [hplace, h.answer_zero] at hanswer
      start_eq := by
        rcases hone with hone | hone
        · exact Or.inr (by rw [hmin.start_eq, hstart, hone])
        · exact Or.inl hone
      numbered := by
        rcases hone with hone | hone
        · exact hn.merged hp hc hmin.toMerges hzero hone_lt hone
        · exact numbered_of_stateCount hone
      reduced := fun hi hj => hmin.reduced hc hi hj }⟩

/-! ## Uniqueness -/

/-- the same word gets the same answer from a state of one automaton and a state of another -/
def Agree (m n : Automaton) (i j : Nat) : Prop :=
  ∀ w, m.IsWord w → m.answer (m.after i w) = n.answer (n.after j w)

theorem Agree.symm (hk : m.alphabetSize = n.alphabetSize) (h : Agree m n i j) : Agree n m j i :=
  fun w hw => (h w (by rwa [IsWord, hk])).symm

theorem Agree.step (h : Agree m n i j) (ha : a < m.alphabetSize) : Agree m n (m.step i a) (n.step j a) :=
  fun w hw => h (a :: w) (List.forall_mem_cons.2 ⟨ha, hw⟩)

/-- states that agree with one state give the same answers -/
theorem Agree.sameAnswers {i' : Nat} (h : Agree m n i j) (h' : Agree m n i' j) : m.SameAnswers i i' :=
  fun w hw => (h w hw).trans (h' w hw).symm

/-- of the pairs that satisfy a condition one is the first -/
theorem exists_first {P : Nat → Nat → Prop} (h : ∃ i a, P i a) :
    ∃ i a, P i a ∧ ∀ i' a', P i' a' → ¬Before i' a' i a := by
  classical
  have hex : ∃ i, ∃ a, P i a := h
  have ha := Nat.find_spec hex
  refine ⟨Nat.find hex, Nat.find ha, Nat.find_spec ha, fun i' a' hp hb => ?_⟩
  rcases hb with hb | ⟨rfl, hb⟩
  · exact Nat.find_min hex hb ⟨a', hp⟩
  · exact Nat.find_min ha hb hp

namespace Canonical

theorem stateCount_pos (h : m.Canonical) : 0 < m.stateCount :=
  Nat.zero_lt_of_lt h.complete.start_lt

theorem moves_iff (h : m.Canonical) : m.moves i (.symbol a) j ↔ i < m.stateCount ∧ a < m.alphabetSize ∧ j = m.step i a := by
  constructor
  · intro hm
    have hi := source_lt hm
    exact ⟨hi, (h.complete.moves_iff hi).1 hm⟩
  · rintro ⟨hi, ha⟩
    exact (h.complete.moves_iff hi).2 ha

/-- among the moves to a state from states behind the error state one is the first; it comes from a smaller state -/
theorem exists_first_move (h : m.Canonical) (h1 : 1 < j) (hj : j < m.stateCount) :
    ∃ i a, i < j ∧ 1 ≤ i ∧ m.moves i (.symbol a) j ∧
      ∀ i' a', 1 ≤ i' → m.moves i' (.symbol a') j → ¬Before i' a' i a := by
  obtain ⟨i0, a0, hi0, hi0j, hmv0⟩ := h.numbered.found h1 hj
  obtain ⟨i, a, ⟨hi1, hmv⟩, hfirst⟩ := exists_first (P := fun i a => 1 ≤ i ∧ m.moves i (.symbol a) j)
    ⟨i0, a0, hi0, hmv0⟩
  refine ⟨i, a, ?_, hi1, hmv, fun i' a' hi' hmv' => hfirst i' a' ⟨hi', hmv'⟩⟩
  by_contra hle
  exact hfirst i0 a0 ⟨hi0, hmv0⟩ (Or.inl (by omega))

theorem agree_zero (hm : m.Canonical) (hn : n.Canonical) (hk : m.alphabetSize = n.alphabetSize) : Agree m n 0 0 := by
  intro w hw
  rw [hm.after_zero hw, hn.after_zero (by rwa [IsWord, ← hk]), hm.answer_zero, hn.answer_zero]

theorem agree_one (hm : m.Canonical) (hn : n.Canonical) (hk : m.alphabetSize = n.alphabetSize)
    (hl : Agree m n m.start n.start) (hj : 1 < m.stateCount) : 1 < n.stateCount ∧ Agree m n 1 1 := by
  have hstart : m.start = 1 := hm.start_eq.resolve_left (by omega)
  rw [hstart] at hl
  rcases hn.start_eq with h | h
  · -- the other automaton has only its error state, with which the start would agree
    have hs : n.start = 0 := by
      have := hn.complete.start_lt
      omega
    rw [hs] at hl
    have := hm.reduced hj hm.stateCount_pos (hl.sameAnswers (agree_zero hm hn hk))
    omega
  · rw [h] at hl
    exact ⟨h ▸ hn.complete.start_lt, hl⟩

/-- the first way to a state in one automaton is the first way to the same number in the other, because numbers are given
in the order of the first ways -/
theorem agree_next (hm : m.Canonical) (hn : n.Canonical) (hk : m.alphabetSize = n.alphabetSize) (h1 : 1 < j)
    (hj : j < m.stateCount) (ih : ∀ i < j, i < m.stateCount → i < n.stateCount ∧ Agree m n i i) :
    j < n.stateCount ∧ Agree m n j j := by
  obtain ⟨i, a, hij, hi1, hmv, hfirst⟩ := hm.exists_first_move h1 hj
  obtain ⟨hi, ha, hja⟩ := hm.moves_iff.1 hmv
  obtain ⟨hi', hag⟩ := ih i hij hi
  have hmv' : n.moves i (.symbol a) (n.step i a) := hn.moves_iff.2 ⟨hi', hk ▸ ha, rfl⟩
  have hstep : Agree m n j (n.step i a) := hja ▸ hag.step ha
  rcases Nat.lt_trichotomy (n.step i a) j with hlt | heq | hgt
  · -- a smaller number belongs to another state
    obtain ⟨-, hag'⟩ := ih _ hlt (hlt.trans hj)
    have := hm.reduced hj (hlt.trans hj) (hstep.sameAnswers hag')
    omega
  · rw [heq] at hmv' hstep
    exact ⟨hn.complete.wellFormed.target_lt hmv', hstep⟩
  · -- the other automaton finds the number on an earlier way, which leads to another state here
    obtain ⟨i', a', hi1', hb, hmv2⟩ := hn.numbered.order hi1 hmv' h1 hgt
    obtain ⟨-, han, hjn⟩ := hn.moves_iff.1 hmv2
    have hij' : i' < j := by
      unfold Before at hb
      omega
    obtain ⟨-, hag'⟩ := ih i' hij' (hij'.trans hj)
    have ham : a' < m.alphabetSize := hk ▸ han
    have hstep' : Agree m n (m.step i' a') j := hjn.symm ▸ hag'.step ham
    have hmv3 : m.moves i' (.symbol a') (m.step i' a') := hm.moves_iff.2 ⟨hij'.trans hj, ham, rfl⟩
    rcases Nat.lt_trichotomy (m.step i' a') j with hlt | heq | hgt'
    · obtain ⟨hlt', hag3⟩ := ih _ hlt (hlt.trans hj)
      have := hn.reduced (hn.complete.wellFormed.target_lt hmv2) hlt' ((hstep'.symm hk).sameAnswers (hag3.symm hk))
      omega
    · exact absurd hb (hfirst i' a' hi1' (heq ▸ hmv3))
    · obtain ⟨i3, a3, hi3, hb3, hmv4⟩ := hm.numbered.order hi1' hmv3 h1 hgt'
      refine absurd ?_ (hfirst i3 a3 hi3 hmv4)
      unfold Before at hb hb3 ⊢
      omega

/-- the states of two canonical automata agree by their numbers -/
theorem agree (hm : m.Canonical) (hn : n.Canonical) (hk : m.alphabetSize = n.alphabetSize)
    (hl : Agree m n m.start n.start) (hj : j < m.stateCount) : j < n.stateCount ∧ Agree m n j j := by
  induction j using Nat.strong_induction_on with
  | _ j ih =>
    rcases Nat.lt_trichotomy j 1 with h1 | rfl | h1
    · obtain rfl := Nat.lt_one_iff.1 h1
      exact ⟨hn.stateCount_pos, agree_zero hm hn hk⟩
    · exact agree_one hm hn hk hl hj
    · exact agree_next hm hn hk h1 hj ih

theorem eq (hm : m.Canonical) (hn : n.Canonical) (hk : m.alphabetSize = n.alphabetSize)
    (hl : ∀ w, m.IsWord w → m.answer (m.after m.start w) = n.answer (n.after n.start w)) : m = n := by
  have hl' : Agree n m n.start m.start := Agree.symm hk hl
  have hcount : m.stateCount = n.stateCount := by
    refine Nat.le_antisymm (Nat.le_of_pred_lt ?_) (Nat.le_of_pred_lt ?_)
    · exact (hm.agree hn hk hl (Nat.pred_lt hm.stateCount_pos.ne')).1
    · exact (hn.agree hm hk.symm hl' (Nat.pred_lt hn.stateCount_pos.ne')).1
  have hag {q : Nat} (hq : q < m.stateCount) : Agree m n q q := (hm.agree hn hk hl hq).2
  have hsame {q r : Nat} (hq : q < m.stateCount) (hr : r < m.stateCount) (h : Agree m n q r) : q = r :=
    hm.reduced hq hr (h.sameAnswers (hag hr))
  have hstart : m.start = n.start :=
    hsame hm.complete.start_lt (hcount ▸ hn.complete.start_lt) hl
  apply eq_of_edges hk hcount hstart (hm.error_eq.trans hn.error_eq.symm)
  · intro q hq
    exact hag hq [] (by simp [IsWord])
  · intro q hq
    have hq' : q < n.stateCount := hcount ▸ hq
    rw [hm.complete.edges_eq hq, hn.complete.edges_eq hq', hk]
    refine row_congr fun a ha => ?_
    rw [← hk] at ha
    exact hsame (hm.complete.step_lt hq ha) (hcount ▸ hn.complete.step_lt hq' (hk ▸ ha)) ((hag hq).step ha)

end Canonical

end Automaton

end Munch
