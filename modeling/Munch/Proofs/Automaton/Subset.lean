/-
The exploration of the sets of states.

A set belongs to a word if its members are the states in which the automaton can be after that word. Sets are numbered by
discovery, and symbols are followed in order, so what has been followed is everything before one pair of a set and a symbol
in lexicographic order; `Explored` says what is known then.

Results:
- `gathers_next`: following a symbol from the set of a word gives the set of the longer word.
- `Explored.seen`, `Explored.grow`: following one more symbol keeps what is known, whether the set is a new one or not.
- `exists_explored`: the exploration ends with all sets followed up; it cannot find more than all sets of states.
-/
import Mathlib.Tactic
import Munch.Automaton.Subset
import Munch.Proofs.Automaton.Closure

namespace Munch

/-- in an array without repetition a value has one place -/
theorem getElem?_unique {α : Type} {xs : Array α} (h : xs.toList.Nodup) {i j : Nat} {x : α} (hi : xs[i]? = some x)
    (hj : xs[j]? = some x) : i = j := by
  rw [← Array.getElem?_toList] at hi hj
  exact (List.getElem?_inj (List.getElem?_eq_some_iff.1 hi).1 h).1 (hi.trans hj.symm)

namespace Subsets

open Scratch (clean)

variable {m : Automaton} {set : List Nat} {sets : Array (List Nat)} {u : List Nat} {a i j r s : Nat}

/-! ## Sets of words -/

/-- the states that a set reaches by one move on a symbol -/
def moved (m : Automaton) (set : List Nat) (a : Nat) : List Nat :=
  ((clean m.stateCount).move m set a).1

/-- the set behind a set on a symbol -/
def next (m : Automaton) (set : List Nat) (a : Nat) : List Nat :=
  ((clean m.stateCount).closure m (moved m set a)).1

/-- the set in which the automaton begins -/
def first (m : Automaton) : List Nat :=
  ((clean m.stateCount).closure m [m.start]).1

/-- a set in ascending order with the states that are reached by a word -/
structure Gathers (m : Automaton) (u set : List Nat) : Prop where
  ascending : set.Pairwise (· < ·)
  mem_iff : ∀ {q}, q ∈ set ↔ m.Reads m.start u q

theorem Gathers.lt (hw : m.WellFormed) (h : Gathers m u set) : ∀ q ∈ set, q < m.stateCount :=
  fun _ hq => (h.mem_iff.1 hq).target_lt hw hw.start_lt

theorem mem_moved_iff (hw : m.WellFormed) {q : Nat} : q ∈ moved m set a ↔ ∃ p ∈ set, m.moves p (.symbol a) q :=
  (Scratch.move_clean hw.closed set a).mem_iff

theorem moved_lt (hw : m.WellFormed) (set : List Nat) (a : Nat) : ∀ q ∈ moved m set a, q < m.stateCount := by
  intro q hq
  obtain ⟨p, -, hm⟩ := (mem_moved_iff hw).1 hq
  exact hw.target_lt hm

theorem gathers_first (hw : m.WellFormed) : Gathers m [] (first m) := by
  have h := Scratch.closure_clean hw.closed (List.forall_mem_singleton.2 hw.start_lt)
  exact ⟨h.ascending, h.mem_iff.trans (by simp)⟩

theorem first_ne_nil (hw : m.WellFormed) : first m ≠ [] :=
  List.ne_nil_of_mem ((gathers_first hw).mem_iff.2 .done)

/-- following a symbol from the set of a word gives the set of the longer word -/
theorem gathers_next (hw : m.WellFormed) (h : Gathers m u set) (a : Nat) : Gathers m (u ++ [a]) (next m set a) := by
  have hc := Scratch.closure_clean hw.closed (moved_lt hw set a)
  refine ⟨hc.ascending, hc.mem_iff.trans ?_⟩
  simp only [mem_moved_iff hw, h.mem_iff]
  constructor
  · rintro ⟨p', ⟨p, hp, hm⟩, hq⟩
    exact hp.trans (Path.read hm hq)
  · intro hq
    obtain ⟨p, hp, hpq⟩ := Path.append_iff.1 hq
    obtain ⟨p1, p2, h1, hm, h2⟩ := Path.of_cons hpq
    have hp1 : m.Reads m.start u p1 := u.append_nil ▸ hp.trans h1
    exact ⟨p2, ⟨p1, hp1, hm⟩, h2⟩

/-- where no move leads on a symbol, the set behind it is empty, and only there -/
theorem moved_eq_nil_iff (hw : m.WellFormed) : moved m set a = [] ↔ next m set a = [] := by
  have hc := Scratch.closure_clean hw.closed (moved_lt hw set a)
  constructor
  · intro hm
    refine List.eq_nil_iff_forall_not_mem.2 fun q hq => ?_
    obtain ⟨p, hp, -⟩ := hc.mem_iff.1 hq
    rw [hm] at hp
    cases hp
  · intro hn
    refine List.eq_nil_iff_forall_not_mem.2 fun q hq => ?_
    have : q ∈ next m set a := hc.mem_iff.2 ⟨q, hq, Path.done⟩
    rw [hn] at this
    cases this

/-! ## What is known during the exploration -/

/-- the pair `(i, a)` comes before the pair `(r, s)` -/
def Before (i a r s : Nat) : Prop :=
  i < r ∨ i = r ∧ a < s

/-- a symbol leads from the set with one number to the set with another -/
def Leads (m : Automaton) (sets : Array (List Nat)) (i a j : Nat) : Prop :=
  ∃ set, sets[i]? = some set ∧ sets[j]? = some (next m set a)

/-- what is known when all symbols before the pair `(r, s)` have been followed -/
structure Explored (m : Automaton) (sets : Array (List Nat)) (r s : Nat) : Prop where
  nodup : sets.toList.Nodup
  first : sets[0]? = some (first m)
  word : ∀ {i : Nat} {set}, sets[i]? = some set → set ≠ [] ∧ ∃ u, Gathers m u set
  closed : ∀ {i a set}, Before i a r s → a < m.alphabetSize → sets[i]? = some set → next m set a ≠ [] →
    ∃ j : Nat, sets[j]? = some (next m set a)
  /-- each set but the first was found from an earlier one -/
  found : ∀ {j : Nat}, 0 < j → j < sets.size → ∃ i a, i < j ∧ a < m.alphabetSize ∧ Before i a r s ∧ Leads m sets i a j
  /-- sets were found in the order of their numbers -/
  order : ∀ {i a j h : Nat}, a < m.alphabetSize → Before i a r s → Leads m sets i a j → 0 < h → h < j →
    ∃ i' a', a' < m.alphabetSize ∧ Before i' a' i a ∧ Leads m sets i' a' h

theorem before_succ : Before i a r (s + 1) ↔ Before i a r s ∨ i = r ∧ a = s := by
  unfold Before
  omega

theorem getElem?_push_of_some {x : List Nat} (h : sets[i]? = some set) : (sets.push x)[i]? = some set := by
  rw [Array.getElem?_push_lt (Array.getElem?_eq_some_iff.1 h).1]
  exact congrArg some (Array.getElem?_eq_some_iff.1 h).2

theorem Leads.push {x : List Nat} (h : Leads m sets i a j) : Leads m (sets.push x) i a j := by
  obtain ⟨set, hi, hj⟩ := h
  exact ⟨set, getElem?_push_of_some hi, getElem?_push_of_some hj⟩

namespace Explored

/-- following one more symbol to no set, or to one that was found before -/
theorem seen (h : Explored m sets r s) (hr : sets[r]? = some set)
    (hs : next m set s = [] ∨ ∃ j : Nat, sets[j]? = some (next m set s)) : Explored m sets r (s + 1) where
  nodup := h.nodup
  first := h.first
  word := h.word
  closed {i a set'} hb ha hi hne := by
    rcases before_succ.1 hb with hb | ⟨rfl, rfl⟩
    · exact h.closed hb ha hi hne
    · rw [hr] at hi
      cases hi
      exact hs.resolve_left hne
  found hj hlt := by
    obtain ⟨i, a, h1, h2, h3, h4⟩ := h.found hj hlt
    exact ⟨i, a, h1, h2, before_succ.2 (Or.inl h3), h4⟩
  order {i a j k} ha hb hl hk hkj := by
    rcases before_succ.1 hb with hb | ⟨rfl, rfl⟩
    · exact h.order ha hb hl hk hkj
    · obtain ⟨set', -, hj⟩ := hl
      obtain ⟨i, a, -, h2, h3, h4⟩ := h.found hk (hkj.trans (Array.getElem?_eq_some_iff.1 hj).1)
      exact ⟨i, a, h2, h3, h4⟩

/-- following one more symbol to a new set -/
theorem grow (hw : m.WellFormed) (h : Explored m sets r s) (hr : sets[r]? = some set) (hs : s < m.alphabetSize)
    (hne : next m set s ≠ []) (hnew : next m set s ∉ sets) : Explored m (sets.push (next m set s)) r (s + 1) := by
  have hrlt := (Array.getElem?_eq_some_iff.1 hr).1
  have hlast : (sets.push (next m set s))[sets.size]? = some (next m set s) := Array.getElem?_push_size
  have hsize : (sets.push (next m set s)).size = sets.size + 1 := Array.size_push _
  have hnodup : (sets.push (next m set s)).toList.Nodup := by
    rw [Array.toList_push]
    refine List.nodup_append.2 ⟨h.nodup, List.nodup_singleton _, fun x hx y hy he => ?_⟩
    obtain rfl := List.mem_singleton.1 hy
    exact hnew (Array.mem_toList_iff.1 (he ▸ hx))
  -- what has been followed before came from sets that were there before
  have hold {i : Nat} {set' : List Nat} (hi : i ≤ r) (hset : (sets.push (next m set s))[i]? = some set') :
      sets[i]? = some set' := by
    rw [Array.getElem?_push_lt (by omega)] at hset
    rw [Array.getElem?_eq_getElem (by omega), hset]
  have hle {i a : Nat} (hb : Before i a r s) : i ≤ r := by
    unfold Before at hb
    omega
  -- a symbol that was followed before does not lead to the new set
  have hleads {i a j : Nat} (ha : a < m.alphabetSize) (hb : Before i a r s)
      (hl : Leads m (sets.push (next m set s)) i a j) : Leads m sets i a j := by
    obtain ⟨set', hi, hj⟩ := hl
    have hi' := hold (hle hb) hi
    have hne' : next m set' a ≠ [] := by
      rw [Array.getElem?_push] at hj
      split at hj
      · exact Option.some.inj hj ▸ hne
      · exact (h.word hj).1
    obtain ⟨j', hj'⟩ := h.closed hb ha hi' hne'
    obtain rfl := getElem?_unique hnodup hj (getElem?_push_of_some hj')
    exact ⟨set', hi', hj'⟩
  exact
    { nodup := hnodup
      first := getElem?_push_of_some h.first
      word := fun {i set'} hi => by
        rw [Array.getElem?_push] at hi
        split at hi
        · cases hi
          obtain ⟨-, u, hu⟩ := h.word hr
          exact ⟨hne, u ++ [s], gathers_next hw hu s⟩
        · exact h.word hi
      closed := fun {i a set'} hb ha hi hne' => by
        rcases before_succ.1 hb with hb | ⟨rfl, rfl⟩
        · obtain ⟨j, hj⟩ := h.closed hb ha (hold (hle hb) hi) hne'
          exact ⟨j, getElem?_push_of_some hj⟩
        · rw [getElem?_push_of_some hr] at hi
          cases hi
          exact ⟨_, hlast⟩
      found := fun {j} hj hlt => by
        by_cases hjs : j < sets.size
        · obtain ⟨i, a, h1, h2, h3, h4⟩ := h.found hj hjs
          exact ⟨i, a, h1, h2, before_succ.2 (Or.inl h3), h4.push⟩
        · obtain rfl : j = sets.size := by omega
          exact ⟨r, s, hrlt, hs, before_succ.2 (Or.inr ⟨rfl, rfl⟩), set, getElem?_push_of_some hr, hlast⟩
      order := fun {i a j k} ha hb hl hk hkj => by
        rcases before_succ.1 hb with hb | ⟨rfl, rfl⟩
        · obtain ⟨i', a', h1, h2, h3⟩ := h.order ha hb (hleads ha hb hl) hk hkj
          exact ⟨i', a', h1, h2, h3.push⟩
        · obtain ⟨_, -, hj⟩ := hl
          have hjlt := (Array.getElem?_eq_some_iff.1 hj).1
          obtain ⟨i', a', -, h2, h3, h4⟩ := h.found hk (by omega)
          exact ⟨i', a', h2, h3, h4.push⟩ }

end Explored

/-! ## One symbol -/

/-- the edges of a set of which the symbols below `s` have been followed -/
structure Row (m : Automaton) (sets : Array (List Nat)) (set : List Nat) (s : Nat) (es : List Edge) : Prop where
  ascending : es.Pairwise fun e f => e.label.rank < f.label.rank
  mem_iff : ∀ {l j}, (⟨l, j⟩ : Edge) ∈ es ↔ ∃ a < s, l = .symbol a ∧ sets[j]? = some (next m set a)

theorem Row.push {es : List Edge} {x : List Nat} (h : Row m sets set s es) (hx : x ∉ sets) (hne : x ≠ [])
    (hclosed : ∀ a < s, next m set a ≠ [] → ∃ j : Nat, sets[j]? = some (next m set a)) :
    Row m (sets.push x) set s es := by
  refine ⟨h.ascending, fun {l j} => h.mem_iff.trans ?_⟩
  refine exists_congr fun a => and_congr_right fun ha => and_congr_right fun _ => ⟨getElem?_push_of_some, fun hj => ?_⟩
  rw [Array.getElem?_push] at hj
  split at hj
  · obtain rfl := Option.some.inj hj
    obtain ⟨j', hj'⟩ := hclosed a ha hne
    exact absurd (Array.mem_of_getElem? hj') hx
  · exact hj

theorem Row.skip {es : List Edge} (h : Row m sets set s es) (hs : ∀ j : Nat, sets[j]? ≠ some (next m set s)) :
    Row m sets set (s + 1) es := by
  refine ⟨h.ascending, fun {l j} => h.mem_iff.trans ⟨?_, ?_⟩⟩
  · rintro ⟨a, ha, rfl, hj⟩
    exact ⟨a, Nat.lt_succ_of_lt ha, rfl, hj⟩
  · rintro ⟨a, ha, rfl, hj⟩
    rcases Nat.lt_succ_iff_lt_or_eq.1 ha with ha | rfl
    · exact ⟨a, ha, rfl, hj⟩
    · exact absurd hj (hs j)

theorem Row.snoc {es : List Edge} (h : Row m sets set s es) (hn : sets.toList.Nodup)
    (hj : sets[j]? = some (next m set s)) : Row m sets set (s + 1) (es ++ [⟨.symbol s, j⟩]) := by
  refine ⟨List.pairwise_append.2 ⟨h.ascending, List.pairwise_singleton _ _, fun e he f hf => ?_⟩, fun {l t} => ?_⟩
  · obtain rfl := List.mem_singleton.1 hf
    obtain ⟨l, t⟩ := e
    obtain ⟨a, ha, rfl, -⟩ := h.mem_iff.1 he
    exact Nat.succ_lt_succ ha
  · rw [List.mem_append, h.mem_iff, List.mem_singleton, Edge.mk.injEq]
    constructor
    · rintro (⟨a, ha, rfl, ht⟩ | ⟨rfl, rfl⟩)
      · exact ⟨a, Nat.lt_succ_of_lt ha, rfl, ht⟩
      · exact ⟨s, Nat.lt_succ_self s, rfl, hj⟩
    · rintro ⟨a, ha, rfl, ht⟩
      rcases Nat.lt_succ_iff_lt_or_eq.1 ha with ha | rfl
      · exact Or.inl ⟨a, ha, rfl, ht⟩
      · exact Or.inr ⟨rfl, getElem?_unique hn ht hj⟩

/-- the exploration while the set behind the finished rows is followed: symbols below `s` have been, with the given edges
in reverse order -/
structure Followed (m : Automaton) (c : Subsets) (s : Nat) (edges : List Edge) : Prop where
  explored : Explored m c.sets c.rows.size s
  scratch : c.scratch = clean m.stateCount
  le : c.rows.size ≤ c.sets.size
  rows : ∀ {i : Nat} {set es}, c.sets[i]? = some set → c.rows[i]? = some es → Row m c.sets set m.alphabetSize es
  row : ∀ {set}, c.sets[c.rows.size]? = some set → Row m c.sets set s edges.reverse

theorem intern_of_mem {c : Subsets} (hn : c.sets.toList.Nodup) (hj : c.sets[j]? = some set) : c.intern set = (j, c) := by
  unfold intern
  cases hf : c.sets.findIdx? (· == set) with
  | none =>
    have := Array.findIdx?_eq_none_iff.1 hf set (Array.mem_of_getElem? hj)
    simp at this
  | some i =>
    obtain ⟨hi, hp, -⟩ := Array.findIdx?_eq_some_iff_getElem.1 hf
    obtain rfl : i = j := getElem?_unique hn ((Array.getElem?_eq_getElem hi).trans (congrArg some (beq_iff_eq.1 hp))) hj
    rfl

theorem intern_of_not_mem {c : Subsets} (h : set ∉ c.sets) :
    c.intern set = (c.sets.size, { c with sets := c.sets.push set }) := by
  have hf : c.sets.findIdx? (· == set) = none := Array.findIdx?_eq_none_iff.2 fun x hx => by
    rw [beq_eq_false_iff_ne]
    exact fun he => h (he ▸ hx)
  rw [intern, hf]

theorem follow_eq (hw : m.WellFormed) {c : Subsets} (hc : c.scratch = clean m.stateCount) (set : List Nat)
    (edges : List Edge) (a : Nat) : follow m set (c, edges) a =
      if next m set a = [] then (c, edges)
      else ((c.intern (next m set a)).2, ⟨.symbol a, (c.intern (next m set a)).1⟩ :: edges) := by
  obtain ⟨scratch, sets, rows⟩ := c
  obtain rfl : scratch = clean m.stateCount := hc
  have h1 : (clean m.stateCount).move m set a = (moved m set a, clean m.stateCount) :=
    Prod.ext rfl (Scratch.move_clean hw.closed set a).clean
  have h2 : (clean m.stateCount).closure m (moved m set a) = (next m set a, clean m.stateCount) :=
    Prod.ext rfl (Scratch.closure_clean hw.closed (moved_lt hw set a)).clean
  have h3 : (moved m set a).isEmpty = true ↔ next m set a = [] := List.isEmpty_iff.trans (moved_eq_nil_iff hw)
  simp only [follow, h1, h2, h3]

/-- following one more symbol -/
theorem Followed.follow (hw : m.WellFormed) {c : Subsets} {edges : List Edge} (h : Followed m c s edges)
    (hs : s < m.alphabetSize) (hset : c.sets[c.rows.size]? = some set) :
    Followed m (follow m set (c, edges) s).1 (s + 1) (follow m set (c, edges) s).2 ∧
      (follow m set (c, edges) s).1.rows = c.rows ∧
      (follow m set (c, edges) s).1.sets[c.rows.size]? = some set := by
  have hex := h.explored
  rw [follow_eq hw h.scratch]
  by_cases hne : next m set s = []
  · rw [if_pos hne]
    refine ⟨⟨hex.seen hset (Or.inl hne), h.scratch, h.le, h.rows, fun hset' => (h.row hset').skip fun j hj => ?_⟩,
      rfl, hset⟩
    rw [hset] at hset'
    cases hset'
    exact (hex.word hj).1 hne
  · rw [if_neg hne]
    by_cases hmem : next m set s ∈ c.sets
    · obtain ⟨j, hj⟩ := Array.mem_iff_getElem?.1 hmem
      rw [intern_of_mem hex.nodup hj]
      refine ⟨⟨hex.seen hset (Or.inr ⟨j, hj⟩), h.scratch, h.le, h.rows, fun hset' => ?_⟩, rfl, hset⟩
      rw [hset] at hset'
      cases hset'
      rw [List.reverse_cons]
      exact (h.row hset).snoc hex.nodup hj
    · rw [intern_of_not_mem hmem]
      have hgrow := hex.grow hw hset hs hne hmem
      have hset' := getElem?_push_of_some (x := next m set s) hset
      refine ⟨⟨hgrow, h.scratch, ?_, fun {i set' es} hi hes => ?_, fun hset'' => ?_⟩, rfl, hset'⟩
      · exact h.le.trans (by simp)
      · have hi' : i < c.rows.size := (Array.getElem?_eq_some_iff.1 hes).1
        have hset' : c.sets[i]? = some set' := by
          rw [Array.getElem?_push_lt (by have := h.le; omega)] at hi
          rw [Array.getElem?_eq_getElem (by have := h.le; omega), hi]
        exact (h.rows hset' hes).push hmem hne fun a ha => hex.closed (Or.inl hi') ha hset'
      · rw [hset'] at hset''
        cases hset''
        rw [List.reverse_cons]
        refine Row.snoc ((h.row hset).push hmem hne fun a ha => ?_) hgrow.nodup Array.getElem?_push_size
        exact hex.closed (Or.inr ⟨rfl, ha⟩) (ha.trans hs) hset

/-! ## The whole exploration -/

theorem Followed.foldl (hw : m.WellFormed) {c : Subsets} (h : Followed m c 0 []) (hset : c.sets[c.rows.size]? = some set)
    (hs : s ≤ m.alphabetSize) :
    Followed m ((List.range s).foldl (Subsets.follow m set) (c, [])).1 s
        ((List.range s).foldl (Subsets.follow m set) (c, [])).2 ∧
      ((List.range s).foldl (Subsets.follow m set) (c, [])).1.rows = c.rows ∧
      ((List.range s).foldl (Subsets.follow m set) (c, [])).1.sets[c.rows.size]? = some set := by
  induction s with
  | zero => exact ⟨h, rfl, hset⟩
  | succ s ih =>
    obtain ⟨hf, hrows, hset'⟩ := ih (by omega)
    rw [List.range_succ, List.foldl_append, List.foldl_cons, List.foldl_nil]
    obtain ⟨h1, h2, h3⟩ := hf.follow hw hs (hrows.symm ▸ hset')
    exact ⟨h1, h2.trans hrows, hrows ▸ h3⟩

theorem Explored.row_end (h : Explored m sets r m.alphabetSize) : Explored m sets (r + 1) 0 := by
  have hb {i a : Nat} (ha : a < m.alphabetSize) : Before i a (r + 1) 0 ↔ Before i a r m.alphabetSize := by
    unfold Before
    omega
  refine ⟨h.nodup, h.first, h.word, fun hb' ha => h.closed ((hb ha).1 hb') ha, fun hj hlt => ?_,
    fun ha hb' => h.order ha ((hb ha).1 hb')⟩
  obtain ⟨i, a, h1, h2, h3, h4⟩ := h.found hj hlt
  exact ⟨i, a, h1, h2, (hb h2).2 h3, h4⟩

theorem Followed.expand (hw : m.WellFormed) {c : Subsets} (h : Followed m c 0 [])
    (hset : c.sets[c.rows.size]? = some set) :
    Followed m (c.expand m set) 0 [] ∧ (c.expand m set).rows.size = c.rows.size + 1 := by
  obtain ⟨hf, hrows, hset'⟩ := h.foldl hw hset (Nat.le_refl m.alphabetSize)
  have he : c.expand m set = { ((List.range m.alphabetSize).foldl (Subsets.follow m set) (c, [])).1 with
      rows := c.rows.push ((List.range m.alphabetSize).foldl (Subsets.follow m set) (c, [])).2.reverse } := by
    rw [← hrows]
    rfl
  rw [he]
  generalize (List.range m.alphabetSize).foldl (Subsets.follow m set) (c, []) = x at hf hrows hset'
  obtain ⟨c', edges⟩ := x
  simp only at hf hrows hset' ⊢
  have hsize : (c.rows.push edges.reverse).size = c.rows.size + 1 := Array.size_push _
  refine ⟨⟨?_, hf.scratch, ?_, fun {i set' es} hi hes => ?_, fun hset'' => ?_⟩, hsize⟩
  · rw [hsize]
    exact (hrows ▸ hf.explored).row_end
  · rw [hsize]
    exact (Array.getElem?_eq_some_iff.1 hset').1
  · rw [Array.getElem?_push] at hes
    split at hes
    · rename_i hi'
      subst hi'
      cases hes
      exact hf.row (hrows.symm ▸ hi)
    · exact hf.rows hi (hrows.symm ▸ hes)
  · exact ⟨List.Pairwise.nil, by simp⟩

/-- there are no more sets than sets of states -/
theorem Explored.size_le (hw : m.WellFormed) (h : Explored m sets r s) : sets.size ≤ 2 ^ m.stateCount := by
  have hprop {set : List Nat} (hs : set ∈ sets.toList) : set.Pairwise (· < ·) ∧ ∀ q ∈ set, q < m.stateCount := by
    obtain ⟨i, hi⟩ := Array.mem_iff_getElem?.1 (Array.mem_toList_iff.1 hs)
    obtain ⟨-, u, hu⟩ := h.word hi
    exact ⟨hu.ascending, hu.lt hw⟩
  have hnd : (sets.toList.map List.toFinset).Nodup := by
    refine (List.nodup_map_iff_inj_on h.nodup).2 fun x hx y hy he => ?_
    apply (hprop hx).1.eq_of_mem_iff (hprop hy).1
    intro q
    rw [← List.mem_toFinset, he, List.mem_toFinset]
  calc sets.size = (sets.toList.map List.toFinset).toFinset.card := by
        rw [List.toFinset_card_of_nodup hnd]
        simp
    _ ≤ (Finset.range m.stateCount).powerset.card := by
        refine Finset.card_le_card fun x hx => ?_
        obtain ⟨set, hs, rfl⟩ := List.mem_map.1 (List.mem_toFinset.1 hx)
        refine Finset.mem_powerset.2 fun q hq => Finset.mem_range.2 ?_
        exact (hprop hs).2 q (List.mem_toFinset.1 hq)
    _ = 2 ^ m.stateCount := by rw [Finset.card_powerset, Finset.card_range]

theorem Followed.explore (hw : m.WellFormed) {c : Subsets} {rounds : Nat} (h : Followed m c 0 [])
    (hr : 2 ^ m.stateCount ≤ rounds + c.rows.size) :
    Followed m (explore m rounds c) 0 [] ∧ (explore m rounds c).rows.size = (explore m rounds c).sets.size := by
  induction rounds generalizing c with
  | zero =>
    rw [Nat.zero_add] at hr
    exact ⟨h, Nat.le_antisymm h.le ((h.explored.size_le hw).trans hr)⟩
  | succ rounds ih =>
    rw [Subsets.explore]
    cases hset : c.sets[c.rows.size]? with
    | none => exact ⟨h, Nat.le_antisymm h.le (Array.getElem?_eq_none_iff.1 hset)⟩
    | some set =>
      obtain ⟨h1, h2⟩ := h.expand hw hset
      exact ih h1 (by omega)

theorem followed_initial (hw : m.WellFormed) : Followed m { scratch := clean m.stateCount, sets := #[first m] } 0 [] := by
  have hget {i : Nat} {set : List Nat} (hi : (#[first m] : Array (List Nat))[i]? = some set) : i = 0 ∧ set = first m := by
    cases i with
    | zero => exact ⟨rfl, (Option.some.inj hi).symm⟩
    | succ i => cases hi
  refine ⟨⟨List.nodup_singleton _, rfl, fun hi => ?_, fun hb => ?_, fun hj hlt => ?_, fun _ hb => ?_⟩, rfl, Nat.zero_le _,
    fun _ hes => ?_, fun _ => ⟨List.Pairwise.nil, by simp⟩⟩
  · obtain ⟨-, rfl⟩ := hget hi
    exact ⟨first_ne_nil hw, [], gathers_first hw⟩
  · simp [Before] at hb
  · exact absurd hj (by simpa using hlt)
  · simp [Before] at hb
  · cases hes

/-- the exploration ends with all sets followed up -/
theorem exists_explored (hw : m.WellFormed) :
    Followed m (ofAutomaton m) 0 [] ∧ (ofAutomaton m).rows.size = (ofAutomaton m).sets.size := by
  have h2 : (clean m.stateCount).closure m [m.start] = (first m, clean m.stateCount) :=
    Prod.ext rfl (Scratch.closure_clean hw.closed (by simpa using hw.start_lt)).clean
  have he : ofAutomaton m =
      Subsets.explore m (2 ^ m.stateCount) { scratch := clean m.stateCount, sets := #[first m] } := by
    simp only [ofAutomaton, h2]
    rfl
  rw [he]
  exact (followed_initial hw).explore hw (by simp)

end Subsets

end Munch
