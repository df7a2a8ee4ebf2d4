/-
Questions about automata, and runs of deterministic ones.

The edges of a state are kept in ascending order (`Automaton.Ascending`), and every question about them is answered from
that order. `Automaton.WellFormed` is what all operations on automata keep: ascending edges, a start, and edges on symbols
of the alphabet to states that are there. `Automaton.Closed` is the part of it that does not look at the start and the
alphabet.

Results:
- `mem_targets_iff`, `mem_epsilonTargets_iff`: the targets on a label are those of the moves on it.
- `isDeterministic_iff`, `target?_eq_some_iff`: in a deterministic automaton the first target is the only one.
- `isComplete_iff`: where edges are on different symbols, to count them is to look for each symbol.
- `WellFormed.complete`: in a complete automaton the edges of a state are one row, with one edge for each symbol
  (`Automaton.Complete`), so that it moves by a function (`step`) and runs by its fold (`after`).
-/
import Mathlib.Tactic
import Munch.Automaton.Completion
import Munch.Proofs.Automaton.Path

namespace Munch

/-! ## Lists in order -/

theorem dropWhile_eq_filter {α : Type} {test : α → Bool} {l : List α}
    (h : l.Pairwise fun x y => test y = true → test x = true) : l.dropWhile test = l.filter fun x => !test x := by
  induction l with
  | nil => rfl
  | cons x l ih =>
    obtain ⟨hx, hl⟩ := List.pairwise_cons.1 h
    cases ht : test x with
    | true => simp [ht, ih hl]
    | false =>
      have : ∀ y ∈ l, (!test y) = true := fun y hy => by
        by_contra hty
        simp [hx y hy (by simpa using hty)] at ht
      simp [ht, List.filter_eq_self.2 this]

theorem takeWhile_eq_filter {α : Type} {test : α → Bool} {l : List α}
    (h : l.Pairwise fun x y => test y = true → test x = true) : l.takeWhile test = l.filter test := by
  induction l with
  | nil => rfl
  | cons x l ih =>
    obtain ⟨hx, hl⟩ := List.pairwise_cons.1 h
    cases ht : test x with
    | true => simp [ht, ih hl]
    | false =>
      have : ∀ y ∈ l, ¬test y = true := fun y hy hty => by simp [hx y hy hty] at ht
      simp [ht, List.filter_eq_nil_iff.2 this]

namespace Automaton

variable {m : Automaton} {p q r s : Nat} {w : List Nat}

/-- the edges of all states are in ascending order -/
def Ascending (m : Automaton) : Prop :=
  ∀ q, (m.edges q).Pairwise fun e f => e.before f = true

/-- the edges of all states are in ascending order, and they lead to states -/
structure Closed (m : Automaton) : Prop where
  ascending : m.Ascending
  target_lt : ∀ {p l q}, m.moves p l q → q < m.stateCount

/-- what every operation on automata keeps -/
structure WellFormed (m : Automaton) : Prop where
  ascending : m.Ascending
  start_lt : m.start < m.stateCount
  target_lt : ∀ {p l q}, m.moves p l q → q < m.stateCount
  symbol_lt : ∀ {p s q}, m.moves p (.symbol s) q → s < m.alphabetSize

theorem WellFormed.closed (h : m.WellFormed) : m.Closed :=
  ⟨h.ascending, h.target_lt⟩

theorem edges_eq_nil (h : ¬q < m.stateCount) : m.edges q = [] := by
  simp [edges, edges?, Array.getElem?_eq_none (Nat.not_lt.1 h)]

theorem token?_eq_none (h : m.stateCount ≤ q) : m.token? q = none := by
  rw [token?, Array.getElem?_eq_none h]
  rfl

theorem isAccepting_eq_false (h : m.stateCount ≤ q) : m.isAccepting q = false := by
  rw [isAccepting, Array.getElem?_eq_none h]
  rfl

theorem lt_of_token?_eq_some {t : Nat} (h : m.token? q = some t) : q < m.stateCount := by
  by_contra hq
  rw [token?_eq_none (Nat.not_lt.1 hq)] at h
  cases h

theorem lt_of_isAccepting (h : m.isAccepting q = true) : q < m.stateCount := by
  by_contra hq
  rw [isAccepting_eq_false (Nat.not_lt.1 hq)] at h
  cases h

theorem source_lt {l : Label} (h : m.moves p l q) : p < m.stateCount := by
  by_contra hp
  simp [moves, edges_eq_nil hp] at h

/-- an automaton is well formed if the edges of each of its states are -/
theorem wellFormed_of_edges (hstart : m.start < m.stateCount)
    (hedges : ∀ q < m.stateCount, (m.edges q).Pairwise (fun e f => e.before f = true) ∧
      ∀ e ∈ m.edges q, e.target < m.stateCount ∧ e.label.rank ≤ m.alphabetSize) : m.WellFormed := by
  refine ⟨?_, hstart, ?_, ?_⟩
  · intro q
    by_cases hq : q < m.stateCount
    · exact (hedges q hq).1
    · rw [edges_eq_nil hq]
      exact List.Pairwise.nil
  · intro p l q hm
    exact ((hedges p (source_lt hm)).2 _ hm).1
  · intro p s q hm
    exact ((hedges p (source_lt hm)).2 _ hm).2

theorem Reads.target_lt (hw : m.WellFormed) (h : m.Reads p w q) (hp : p < m.stateCount) : q < m.stateCount :=
  (h.within (G := m.moves) (fun _ _ _ _ hm => ⟨hm, hw.target_lt hm⟩) hp).2

theorem Reads.symbol_lt (hw : m.WellFormed) (h : m.Reads p w q) : ∀ s ∈ w, s < m.alphabetSize := by
  induction h with
  | done => simp
  | @step p q r l w hm _ ih =>
    intro s hs
    rcases List.mem_append.1 hs with hs | hs
    · cases l with
      | epsilon => cases hs
      | symbol a =>
        obtain rfl := List.mem_singleton.1 hs
        exact hw.symbol_lt hm
    · exact ih s hs

/-- edges in ascending order are given by their members -/
theorem edges_ext {x y : List Edge} (hx : x.Pairwise fun e f => e.before f = true)
    (hy : y.Pairwise fun e f => e.before f = true) (h : ∀ e, e ∈ x ↔ e ∈ y) : x = y := by
  have hasymm : Std.Asymm fun e f : Edge => e.before f = true := by
    refine ⟨fun e f hb hb' => ?_⟩
    rw [Edge.before_iff] at hb hb'
    omega
  exact hx.eq_of_mem_iff hy h

/-- a move is listed with its state -/
theorem mem_transitions_iff {e : Edge} : (p, e) ∈ m.transitions ↔ e ∈ m.edges p := by
  simp only [transitions, List.mem_flatMap, List.mem_range, List.mem_map, Prod.mk.injEq]
  constructor
  · rintro ⟨q, -, e', he, rfl, rfl⟩
    exact he
  · intro he
    exact ⟨p, source_lt (l := e.label) (q := e.target) he, e, he, rfl, rfl⟩

/-! ## Targets -/

theorem Ascending.rank_le (h : m.Ascending) (q : Nat) :
    (m.edges q).Pairwise fun e f => e.label.rank ≤ f.label.rank :=
  (h q).imp fun hb => by
    rw [Edge.before_iff] at hb
    omega

theorem epsilonTargets_eq (h : m.Ascending) (q : Nat) :
    m.epsilonTargets q = ((m.edges q).filter fun e => e.label == .epsilon).map Edge.target := by
  rw [epsilonTargets, takeWhile_eq_filter]
  refine (h.rank_le q).imp fun {e f} hr hf => ?_
  cases he : e.label with
  | epsilon => rfl
  | symbol a =>
    simp only [beq_iff_eq] at hf
    simp [he, hf, Label.rank] at hr

theorem targets_eq (h : m.Ascending) (q s : Nat) :
    m.targets q s = ((m.edges q).filter fun e => e.label == .symbol s).map Edge.target := by
  have hr := h.rank_le q
  rw [targets, dropWhile_eq_filter (hr.imp fun hr hf => by simp only [decide_eq_true_eq] at *; omega),
    takeWhile_eq_filter, List.filter_filter]
  · congr 1
    refine List.filter_congr fun e _ => ?_
    cases he : e.label with
    | epsilon => rfl
    | symbol a =>
      by_cases ha : a = s
      · subst ha
        simp [Label.rank]
      · simp [ha]
  · refine (hr.filter _).imp_of_mem fun {e f} he _ hr hf => ?_
    simp only [List.mem_filter, Bool.not_eq_true', decide_eq_false_iff_not] at he
    simp only [beq_iff_eq] at hf ⊢
    rw [hf] at hr
    exact Label.rank_injective (Nat.le_antisymm hr (Nat.not_lt.1 he.2))

theorem mem_epsilonTargets_iff (h : m.Ascending) : q ∈ m.epsilonTargets p ↔ m.moves p .epsilon q := by
  rw [epsilonTargets_eq h, moves]
  constructor
  · intro hq
    obtain ⟨⟨l, q'⟩, he, rfl⟩ := List.mem_map.1 hq
    obtain ⟨he, hl⟩ := List.mem_filter.1 he
    obtain rfl := beq_iff_eq.1 hl
    exact he
  · intro he
    exact List.mem_map.2 ⟨_, List.mem_filter.2 ⟨he, rfl⟩, rfl⟩

theorem mem_targets_iff (h : m.Ascending) : q ∈ m.targets p s ↔ m.moves p (.symbol s) q := by
  rw [targets_eq h, moves]
  constructor
  · intro hq
    obtain ⟨⟨l, q'⟩, he, rfl⟩ := List.mem_map.1 hq
    obtain ⟨he, hl⟩ := List.mem_filter.1 he
    obtain rfl := beq_iff_eq.1 hl
    exact he
  · intro he
    exact List.mem_map.2 ⟨_, List.mem_filter.2 ⟨he, beq_self_eq_true _⟩, rfl⟩

/-! ## Deterministic automata -/

/-- no move reads nothing, and no two moves of a state read the same -/
def Deterministic (m : Automaton) : Prop :=
  (∀ p q, ¬m.moves p .epsilon q) ∧ ∀ p s q r, m.moves p (.symbol s) q → m.moves p (.symbol s) r → q = r

/-- in an ascending list it is enough to compare neighbours -/
theorem labelsDiffer_iff {es : List Edge} (h : es.Pairwise fun e f => e.before f = true) :
    labelsDiffer es = true ↔ es.Pairwise fun e f => e.label.rank < f.label.rank := by
  induction es with
  | nil => simp [labelsDiffer]
  | cons e es ih =>
    cases es with
    | nil => simp [labelsDiffer]
    | cons f es =>
      obtain ⟨he, hes⟩ := List.pairwise_cons.1 h
      have hef := Edge.before_iff.1 (he f List.mem_cons_self)
      rw [labelsDiffer, Bool.and_eq_true, ih hes, bne_iff_ne, List.pairwise_cons (a := e)]
      constructor
      · rintro ⟨hne, hp⟩
        have hlt : e.label.rank < f.label.rank :=
          hef.resolve_right fun heq => hne (Label.rank_injective heq.1)
        refine ⟨fun g hg => ?_, hp⟩
        rcases List.mem_cons.1 hg with rfl | hg
        · exact hlt
        · exact hlt.trans ((List.pairwise_cons.1 hp).1 g hg)
      · rintro ⟨hp, hps⟩
        exact ⟨fun heq => by have := hp f List.mem_cons_self; rw [heq] at this; omega, hps⟩

/-- two edges of a state with the same label are one, if the labels ascend -/
theorem edge_unique {es : List Edge} (h : es.Pairwise fun e f => e.label.rank < f.label.rank) {e f : Edge}
    (he : e ∈ es) (hf : f ∈ es) (hl : e.label = f.label) : e = f := by
  have hn : (es.map Edge.label).Nodup :=
    List.pairwise_map.2 (h.imp fun hlt heq => by rw [heq] at hlt; omega)
  exact List.inj_on_of_nodup_map hn he hf hl

theorem all_states_iff {test : State → Bool} (hnew : test {} = true) :
    m.states.all test = true ↔ ∀ q : Nat, test ((m.states[q]?).getD {}) = true := by
  rw [Array.all_eq_true_iff_forall_mem]
  constructor
  · intro h q
    cases hq : m.states[q]? with
    | none => exact hnew
    | some x => exact h x (Array.mem_of_getElem? hq)
  · intro h x hx
    obtain ⟨q, hq⟩ := Array.mem_iff_getElem?.1 hx
    simpa [hq] using h q

theorem edges_eq_getD (m : Automaton) (q : Nat) : m.edges q = ((m.states[q]?).getD {}).edges := by
  unfold edges edges?
  cases m.states[q]? <;> rfl

theorem isDeterministic_iff_labels (h : m.Ascending) : m.isDeterministic = true ↔
    ∀ q, (∀ r, ¬m.moves q .epsilon r) ∧ (m.edges q).Pairwise fun e f => e.label.rank < f.label.rank := by
  rw [isDeterministic, all_states_iff (by rfl)]
  simp only [← edges_eq_getD]
  refine forall_congr' fun q => ?_
  rw [Bool.and_eq_true, labelsDiffer_iff (h q), List.all_eq_true]
  refine and_congr_left fun _ => ⟨fun ha r hr => ?_, fun hn e he => ?_⟩
  · simpa using ha _ hr
  · obtain ⟨l, r⟩ := e
    cases l with
    | epsilon => exact absurd he (hn r)
    | symbol a => rfl

theorem isDeterministic_iff (h : m.Ascending) : m.isDeterministic = true ↔ m.Deterministic := by
  rw [isDeterministic_iff_labels h]
  constructor
  · intro hd
    refine ⟨fun q => (hd q).1, fun p s q r hq hr => ?_⟩
    have := edge_unique (hd p).2 hq hr rfl
    cases this
    rfl
  · rintro ⟨he, hu⟩
    refine fun p => ⟨he p, (h p).imp_of_mem fun {e f} hme hmf hb => ?_⟩
    rcases Edge.before_iff.1 hb with hlt | ⟨heq, hlt⟩
    · exact hlt
    · obtain ⟨l, q⟩ := e
      obtain ⟨l', r⟩ := f
      obtain rfl := Label.rank_injective heq
      cases l with
      | epsilon => exact absurd hme (he p q)
      | symbol s =>
        obtain rfl := hu p s q r hme hmf
        simp at hlt

theorem target?_eq_some_iff (h : m.Ascending) (hd : m.Deterministic) :
    m.target? p s = some q ↔ m.moves p (.symbol s) q := by
  rw [← mem_targets_iff h, target?]
  refine ⟨List.mem_of_head?, fun hq => ?_⟩
  cases ht : m.targets p s with
  | nil => rw [ht] at hq; cases hq
  | cons r rest =>
    have hr : r ∈ m.targets p s := by rw [ht]; exact List.mem_cons_self
    rw [List.head?_cons, hd.2 p s r q ((mem_targets_iff h).1 hr) ((mem_targets_iff h).1 hq)]

/-- the state behind a word, where the moves for it are there -/
def run? (m : Automaton) (q : Nat) (w : List Nat) : Option Nat :=
  w.foldlM m.target? q

@[simp] theorem run?_nil (m : Automaton) (q : Nat) : m.run? q [] = some q := rfl

@[simp] theorem run?_cons (m : Automaton) (q s : Nat) (w : List Nat) :
    m.run? q (s :: w) = (m.target? q s).bind fun r => m.run? r w := rfl

/-! ## Complete automata -/

theorem edges_of_lt (hq : q < m.states.size) : m.edges q = m.states[q].edges := by
  simp [edges, edges?, hq]

/-- edges on different symbols below `k` are `k` edges if there is one for each symbol, and only then -/
theorem length_edges_eq_iff {es : List Edge} {k : Nat} (h : es.Pairwise fun e f => e.label.rank < f.label.rank)
    (hsymbol : ∀ e ∈ es, ∃ s < k, e.label = .symbol s) : es.length = k ↔ ∀ s < k, ∃ r, ⟨.symbol s, r⟩ ∈ es := by
  have hlabels : (es.map Edge.label).Nodup := List.pairwise_map.2 (h.imp fun hlt heq => by rw [heq] at hlt; omega)
  have hsymbols : ((List.range k).map Label.symbol).Nodup :=
    List.Nodup.map (fun _ _ h => Label.symbol.inj h) List.nodup_range
  have hsub : es.map Edge.label ⊆ (List.range k).map Label.symbol := by
    intro l hl
    obtain ⟨e, he, rfl⟩ := List.mem_map.1 hl
    obtain ⟨s, hs, hes⟩ := hsymbol e he
    exact List.mem_map.2 ⟨s, List.mem_range.2 hs, hes.symm⟩
  constructor
  · intro hlength s hs
    have hperm := (List.subperm_of_subset hlabels hsub).perm_of_length_le (by simp [hlength])
    obtain ⟨⟨l, r⟩, he, hl⟩ := List.mem_map.1 (hperm.mem_iff.2 (List.mem_map.2 ⟨s, List.mem_range.2 hs, rfl⟩))
    exact ⟨r, (show l = .symbol s from hl) ▸ he⟩
  · intro hall
    have hsup : (List.range k).map Label.symbol ⊆ es.map Edge.label := by
      intro l hl
      obtain ⟨s, hs, rfl⟩ := List.mem_map.1 hl
      obtain ⟨r, hr⟩ := hall s (List.mem_range.1 hs)
      exact List.mem_map.2 ⟨_, hr, rfl⟩
    have hperm := (List.perm_ext_iff_of_nodup hlabels hsymbols).2 fun l => ⟨@hsub l, @hsup l⟩
    simpa using hperm.length_eq

/-- it is enough to count the moves of each state -/
theorem isComplete_iff (h : m.Ascending) (hsymbol : ∀ {p s q}, m.moves p (.symbol s) q → s < m.alphabetSize) :
    m.isComplete = true ↔
      m.Deterministic ∧ ∀ q < m.stateCount, ∀ s < m.alphabetSize, ∃ r, m.moves q (.symbol s) r := by
  rw [isComplete, Bool.and_eq_true, isDeterministic_iff h, Array.all_eq_true]
  refine and_congr_right fun hd => forall_congr' fun q => forall_congr' fun hq => ?_
  have hlabels := ((isDeterministic_iff_labels h).1 ((isDeterministic_iff h).2 hd) q).2
  rw [beq_iff_eq, ← edges_of_lt hq, length_edges_eq_iff hlabels]
  · rfl
  · rintro ⟨l, r⟩ he
    cases l with
    | epsilon => exact absurd he (hd.1 q r)
    | symbol s => exact ⟨s, hsymbol he, rfl⟩

/-- where a complete automaton goes from a state on a symbol -/
def step (m : Automaton) (q s : Nat) : Nat :=
  (m.target? q s).getD 0

/-- the state behind a word in a complete automaton -/
def after (m : Automaton) (q : Nat) (w : List Nat) : Nat :=
  w.foldl m.step q

@[simp] theorem after_nil (m : Automaton) (q : Nat) : m.after q [] = q := rfl

@[simp] theorem after_cons (m : Automaton) (q s : Nat) (w : List Nat) : m.after q (s :: w) = m.after (m.step q s) w := rfl

/-- each state has one edge for each symbol and no other -/
structure Complete (m : Automaton) : Prop where
  start_lt : m.start < m.stateCount
  edges_eq : ∀ {q}, q < m.stateCount → m.edges q = row m.alphabetSize (m.step q)
  step_lt : ∀ {q s}, q < m.stateCount → s < m.alphabetSize → m.step q s < m.stateCount

theorem mem_row {k : Nat} {f : Nat → Nat} {e : Edge} : e ∈ row k f ↔ ∃ s < k, e = ⟨.symbol s, f s⟩ := by
  simp only [row, List.mem_map, List.mem_range]
  exact exists_congr fun s => and_congr_right fun _ => eq_comm

theorem row_labels_ascend (k : Nat) (f : Nat → Nat) : (row k f).Pairwise fun e g => e.label.rank < g.label.rank := by
  rw [row, List.pairwise_map]
  exact List.pairwise_lt_range.imp fun h => by simpa [Label.rank] using h

theorem row_ascending (k : Nat) (f : Nat → Nat) : (row k f).Pairwise fun e g => e.before g = true :=
  (row_labels_ascend k f).imp fun h => Edge.before_iff.2 (Or.inl h)

theorem row_congr {k : Nat} {f g : Nat → Nat} (h : ∀ s < k, f s = g s) : row k f = row k g :=
  List.map_congr_left fun s hs => by rw [h s (List.mem_range.1 hs)]

theorem ascending_of_rows {f : Nat → Nat → Nat} (h : ∀ q < m.stateCount, m.edges q = row m.alphabetSize (f q)) :
    m.Ascending := by
  intro q
  by_cases hq : q < m.stateCount
  · rw [h q hq]
    exact row_ascending _ _
  · rw [edges_eq_nil hq]
    exact List.Pairwise.nil

theorem deterministic_of_rows {f : Nat → Nat → Nat} (h : ∀ q < m.stateCount, m.edges q = row m.alphabetSize (f q)) :
    m.Deterministic := by
  have hrow {p q : Nat} {l : Label} (hm : m.moves p l q) : ∃ s < m.alphabetSize, l = .symbol s ∧ q = f p s := by
    have hp := source_lt hm
    rw [moves, h p hp, mem_row] at hm
    obtain ⟨s, hs, he⟩ := hm
    cases he
    exact ⟨s, hs, rfl, rfl⟩
  refine ⟨fun p q hm => ?_, fun p s q r hq hr => ?_⟩
  · obtain ⟨s, -, hl, -⟩ := hrow hm
    cases hl
  · obtain ⟨s1, -, h1, rfl⟩ := hrow hq
    obtain ⟨s2, -, h2, rfl⟩ := hrow hr
    cases h1
    cases h2
    rfl

theorem target?_of_rows {f : Nat → Nat → Nat} (h : ∀ q < m.stateCount, m.edges q = row m.alphabetSize (f q))
    (hq : q < m.stateCount) (hs : s < m.alphabetSize) : m.target? q s = some (f q s) := by
  rw [target?_eq_some_iff (ascending_of_rows h) (deterministic_of_rows h), moves, h q hq, mem_row]
  exact ⟨s, hs, rfl⟩

theorem step_of_rows {f : Nat → Nat → Nat} (h : ∀ q < m.stateCount, m.edges q = row m.alphabetSize (f q))
    (hq : q < m.stateCount) (hs : s < m.alphabetSize) : m.step q s = f q s := by
  rw [step, target?_of_rows h hq hs]
  rfl

/-- an automaton whose edges are rows is complete -/
theorem complete_of_rows {f : Nat → Nat → Nat} (hstart : m.start < m.stateCount)
    (h : ∀ q < m.stateCount, m.edges q = row m.alphabetSize (f q))
    (hf : ∀ q < m.stateCount, ∀ s < m.alphabetSize, f q s < m.stateCount) : m.Complete where
  start_lt := hstart
  edges_eq hq := (h _ hq).trans (row_congr fun _ hs => (step_of_rows h hq hs).symm)
  step_lt hq hs := step_of_rows h hq hs ▸ hf _ hq _ hs

namespace Complete

theorem ascending (h : m.Complete) : m.Ascending :=
  ascending_of_rows fun _ => h.edges_eq

theorem deterministic (h : m.Complete) : m.Deterministic :=
  deterministic_of_rows fun _ => h.edges_eq

theorem target?_eq (h : m.Complete) (hq : q < m.stateCount) (hs : s < m.alphabetSize) :
    m.target? q s = some (m.step q s) :=
  target?_of_rows (fun _ => h.edges_eq) hq hs

theorem moves_iff (h : m.Complete) (hp : p < m.stateCount) : m.moves p (.symbol s) q ↔ s < m.alphabetSize ∧ q = m.step p s := by
  rw [moves, h.edges_eq hp, mem_row]
  constructor
  · rintro ⟨s', hs, he⟩
    cases he
    exact ⟨hs, rfl⟩
  · rintro ⟨hs, rfl⟩
    exact ⟨s, hs, rfl⟩

theorem after_lt (h : m.Complete) (hq : q < m.stateCount) (hw : ∀ s ∈ w, s < m.alphabetSize) :
    m.after q w < m.stateCount := by
  induction w generalizing q with
  | nil => exact hq
  | cons s w ih =>
    exact ih (h.step_lt hq (hw s List.mem_cons_self)) fun t ht => hw t (List.mem_cons_of_mem s ht)

theorem wellFormed (h : m.Complete) : m.WellFormed where
  ascending := h.ascending
  start_lt := h.start_lt
  target_lt {p l q} hm := by
    have hp := source_lt hm
    cases l with
    | epsilon => exact absurd hm (h.deterministic.1 p q)
    | symbol s =>
      obtain ⟨hs, rfl⟩ := (h.moves_iff hp).1 hm
      exact h.step_lt hp hs
  symbol_lt hm := ((h.moves_iff (source_lt hm)).1 hm).1

theorem isComplete (h : m.Complete) : m.isComplete = true := by
  refine (isComplete_iff h.ascending h.wellFormed.symbol_lt).2 ⟨h.deterministic, ?_⟩
  intro q hq s hs
  exact ⟨m.step q s, (h.moves_iff hq).2 ⟨hs, rfl⟩⟩

end Complete

theorem WellFormed.complete (hw : m.WellFormed) (hc : m.isComplete = true) : m.Complete := by
  obtain ⟨hd, hmoves⟩ := (isComplete_iff hw.ascending hw.symbol_lt).1 hc
  have hstep {q s : Nat} (hq : q < m.stateCount) (hs : s < m.alphabetSize) : m.moves q (.symbol s) (m.step q s) := by
    obtain ⟨r, hr⟩ := hmoves q hq s hs
    rw [step, (target?_eq_some_iff hw.ascending hd).2 hr]
    exact hr
  refine ⟨hw.start_lt, fun {q} hq => edges_ext (hw.ascending q) (row_ascending _ _) fun e => ?_,
    fun hq hs => hw.target_lt (hstep hq hs)⟩
  rw [mem_row]
  constructor
  · intro he
    obtain ⟨l, r⟩ := e
    cases l with
    | epsilon => exact absurd he (hd.1 q r)
    | symbol s =>
      have hs := hw.symbol_lt he
      exact ⟨s, hs, by rw [hd.2 q s r _ he (hstep hq hs)]⟩
  · rintro ⟨s, hs, rfl⟩
    exact hstep hq hs

end Automaton

end Munch
