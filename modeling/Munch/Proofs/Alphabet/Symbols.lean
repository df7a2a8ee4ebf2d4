/-
Code points and the symbols of an alphabet.

The automata are built with the symbols that make up an interval (`symbolsOf`), and texts are read with the symbol of a
code point (`symbolOf?` and, counted from one, `symbolIn`). Over an alphabet in ascending order the two agree.

Results:
- `startingAt?_eq_some_iff`, `tiles_eq_ok_iff`: what the search for a run of neighbouring intervals finds.
- `symbolOf?_eq_some_iff`, `symbolIn_pairs`: the symbol of a code point is the interval that holds it.
- `exists_symbolsOf_split`: every interval that an alphabet was split from is made up of symbols.
- `contains_iff_of_symbolsOf`: the symbols of an interval are those of its code points.
- `matches_iff_spells`: an expression matches a word if the code points of the word have symbols, and it spells these.
-/
import Mathlib.Tactic
import Munch.Proofs.Alphabet.Split
import Munch.Proofs.Language
import Munch.Tables

namespace Munch

namespace Bisection

/-- if the test holds anywhere, the last place is one less than the count -/
theorem lastTrue_add_one {n : Nat} {test : Nat → Bool} (h : HoldsBefore n test) {i : Nat} (hi : i < n)
    (ht : test i = true) : lastTrue n test + 1 = countTrue n test := by
  have hc : i < countTrue n test := (lt_countTrue_iff h).2 ⟨hi, ht⟩
  unfold countTrue at hc ⊢
  rw [if_neg (by omega)] at hc ⊢
  split
  case isTrue => rfl
  case isFalse hf =>
    rw [if_neg hf] at hc
    have : lastTrue n test = 0 := (test_search test 0 n).resolve_left hf
    omega

/-- the place before the count is one where the test holds -/
theorem test_countTrue_sub_one {n : Nat} {test : Nat → Bool} (h : countTrue n test ≠ 0) :
    test (countTrue n test - 1) = true := by
  unfold countTrue at h ⊢
  split_ifs at h ⊢ with h1 h2
  · exact absurd rfl h
  · exact h2
  · exact absurd ((test_search test 0 n).resolve_left h2) h

/-- the count is `k + 1` if the test holds exactly up to `k` -/
theorem countTrue_eq_add_one {n k : Nat} {test : Nat → Bool} (hk : k < n) (h : ∀ i < n, test i = true ↔ i ≤ k) :
    countTrue n test = k + 1 := by
  have hb : HoldsBefore n test := fun i j hij hj ht => (h i (by omega)).2 (by have := (h j hj).1 ht; omega)
  have h1 : k < countTrue n test := (lt_countTrue_iff hb).2 ⟨hk, (h k hk).2 (Nat.le_refl k)⟩
  have h2 : ¬k + 1 < countTrue n test := fun hl => by
    obtain ⟨hn, ht⟩ := (lt_countTrue_iff hb).1 hl
    have := (h _ hn).1 ht
    omega
  omega

end Bisection

namespace Interval

/-- intervals in ascending order, without overlaps -/
def Ascending (intervals : Array Interval) : Prop :=
  intervals.toList.Pairwise fun i j => i.stop < j.start

variable {alphabet : Array Interval}

theorem Ascending.stop_lt_start (h : Ascending alphabet) {k l : Nat} {x y : Interval} (hx : alphabet[k]? = some x)
    (hy : alphabet[l]? = some y) (hkl : k < l) : x.stop < y.start := by
  obtain ⟨hk, rfl⟩ := Array.getElem?_eq_some_iff.1 hx
  obtain ⟨hl, rfl⟩ := Array.getElem?_eq_some_iff.1 hy
  simpa using List.pairwise_iff_getElem.1 h k l hk hl hkl

/-- up to an interval that holds a code point, and no further, intervals begin at or before it -/
theorem Ascending.begins_iff (h : Ascending alphabet) {k c : Nat} {x : Interval} (hx : alphabet[k]? = some x)
    (hc : x.contains c = true) {i : Nat} (hi : i < alphabet.size) :
    ((alphabet[i]?).any fun y => decide (y.start ≤ c)) = true ↔ i ≤ k := by
  rw [contains_iff] at hc
  have hy : alphabet[i]? = some alphabet[i] := Array.getElem?_eq_getElem hi
  simp only [hy, Option.any_some, decide_eq_true_eq]
  rcases Nat.lt_trichotomy i k with hik | rfl | hik
  · have := h.stop_lt_start hy hx hik
    have := alphabet[i].start_le_stop
    omega
  · rw [hx] at hy
    cases hy
    omega
  · have := h.stop_lt_start hx hy hik
    omega

/-! ## Runs of neighbouring intervals -/

theorem startingAt?_eq_some_iff (h : Ascending alphabet) {start k : Nat} :
    startingAt? alphabet start = some k ↔ ∃ x, alphabet[k]? = some x ∧ x.start = start := by
  unfold startingAt?
  constructor
  · intro hk
    simp only at hk
    split at hk
    case isTrue ha =>
      obtain rfl := Option.some.inj hk
      simpa [Option.any_eq_true] using ha
    case isFalse => cases hk
  · rintro ⟨x, hx, rfl⟩
    have hk : k < alphabet.size := (Array.getElem?_eq_some_iff.1 hx).1
    have hb := fun i (hi : i < alphabet.size) => h.begins_iff hx (contains_start x) hi
    have hc := Bisection.countTrue_eq_add_one hk hb
    have hl := Bisection.lastTrue_add_one (fun i j hij hj ht => (hb i (by omega)).2 (by have := (hb j hj).1 ht; omega)) hk
      ((hb k hk).2 (Nat.le_refl k))
    have : Bisection.lastTrue alphabet.size (fun i => (alphabet[i]?).any fun a => decide (a.start ≤ x.start)) = k := by
      omega
    simp only [this, hx, Option.any_some, decide_true, if_true]

/-- the first `n` of a list of intervals leave no gap, and the last of them ends at `stop` -/
inductive Tiling (stop : Nat) : List Interval → Nat → Prop where
  | last {i : Interval} {rest : List Interval} (h : i.stop = stop) : Tiling stop (i :: rest) 1
  | more {i j : Interval} {rest : List Interval} {n : Nat} (hlt : i.stop < stop) (hj : j.start = i.stop + 1)
      (h : Tiling stop (j :: rest) n) : Tiling stop (i :: j :: rest) (n + 1)

theorem Tiling.le_length {stop n : Nat} {l : List Interval} (h : Tiling stop l n) : n ≤ l.length := by
  induction h with
  | last h => simp
  | more hlt hj h ih => simp only [List.length_cons] at *; omega

theorem Tiling.pos {stop n : Nat} {l : List Interval} (h : Tiling stop l n) : 0 < n := by
  cases h with
  | last => exact Nat.one_pos
  | more => exact Nat.succ_pos _

theorem run_eq_ok_iff {start stop : Nat} {current : Interval} {index : Nat} {rest : List Interval}
    {symbols : List Nat} : run start stop current index rest = .ok symbols ↔
      ∃ n, Tiling stop (current :: rest) n ∧ symbols = List.range' index n := by
  induction rest generalizing current index symbols with
  | nil =>
    unfold run
    constructor
    · intro h
      split_ifs at h with h1 h2
      exact ⟨1, .last h2, by cases h; rfl⟩
    · rintro ⟨n, ht, rfl⟩
      cases ht with
      | last h => rw [if_neg (by omega), if_pos h]; rfl
  | cons next rest ih =>
    unfold run
    constructor
    · intro h
      split_ifs at h with h1 h2 h3
      · obtain ⟨s, hs, rfl⟩ : ∃ s, run start stop next (index + 1) rest = .ok s ∧ index :: s = symbols := by
          cases hr : run start stop next (index + 1) rest with
          | error f => rw [hr] at h; cases h
          | ok s => rw [hr] at h; exact ⟨s, rfl, by cases h; rfl⟩
        obtain ⟨n, ht, rfl⟩ := ih.1 hs
        exact ⟨n + 1, .more h1 h2 ht, by rw [List.range'_succ]⟩
      · exact ⟨1, .last h3, by cases h; rfl⟩
    · rintro ⟨n, ht, rfl⟩
      cases ht with
      | last h => rw [if_neg (by omega), if_pos h]; rfl
      | more hlt hj ht =>
        rw [if_pos hlt, if_pos hj, ih.2 ⟨_, ht, rfl⟩, List.range'_succ]
        rfl

theorem tiles_eq_ok_iff (h : Ascending alphabet) {start stop : Nat} {symbols : List Nat} :
    tiles alphabet start stop = .ok symbols ↔
      ∃ k x n, alphabet[k]? = some x ∧ x.start = start ∧ Tiling stop (alphabet.toList.drop k) n ∧
        symbols = List.range' k n := by
  have hdrop {k : Nat} {x : Interval} (hx : alphabet[k]? = some x) :
      alphabet.toList.drop k = x :: alphabet.toList.drop (k + 1) := by
    obtain ⟨hk, rfl⟩ := Array.getElem?_eq_some_iff.1 hx
    exact List.drop_eq_getElem_cons hk
  unfold tiles
  cases hs : startingAt? alphabet start with
  | none =>
    refine ⟨fun h => (nomatch h), ?_⟩
    rintro ⟨k, x, n, hx, hst, -, -⟩
    rw [(startingAt?_eq_some_iff h).2 ⟨x, hx, hst⟩] at hs
    cases hs
  | some k =>
    obtain ⟨x, hx, hst⟩ := (startingAt?_eq_some_iff h).1 hs
    simp only [hdrop hx, run_eq_ok_iff]
    constructor
    · rintro ⟨n, ht, rfl⟩
      exact ⟨k, x, n, hx, hst, by rwa [hdrop hx], rfl⟩
    · rintro ⟨k', x', n, hx', hst', ht, rfl⟩
      have : k' = k := Option.some.inj (((startingAt?_eq_some_iff h).2 ⟨x', hx', hst'⟩).symm.trans hs)
      subst this
      exact ⟨n, by rwa [hdrop hx] at ht, rfl⟩

/-- the first `n` intervals of a tiling hold exactly the code points from the first on up to `stop` -/
theorem Tiling.contains_iff {stop n : Nat} {l : List Interval} (h : Tiling stop l n) {x : Interval}
    (hx : l.head? = some x) {c : Nat} :
    (x.start ≤ c ∧ c ≤ stop) ↔ ∃ k < n, ∃ y, l[k]? = some y ∧ y.contains c = true := by
  induction h generalizing x with
  | last h =>
    cases hx
    simp [Interval.contains_iff, h]
  | @more i j rest n hlt hj _ ih =>
    cases hx
    have hi := i.start_le_stop
    constructor
    · rintro ⟨h1, h2⟩
      by_cases hc : c ≤ i.stop
      · exact ⟨0, by omega, i, rfl, Interval.contains_iff.2 ⟨h1, hc⟩⟩
      · obtain ⟨k, hk, y, hy, hcy⟩ := (ih rfl).1 ⟨by omega, h2⟩
        exact ⟨k + 1, by omega, y, hy, hcy⟩
    · rintro ⟨k, hk, y, hy, hcy⟩
      cases k with
      | zero =>
        cases hy
        rw [Interval.contains_iff] at hcy
        omega
      | succ k =>
        have := (ih rfl).2 ⟨k, by omega, y, hy, hcy⟩
        omega

/-- where every point up to `stop` is covered and no interval crosses it, there is a tiling -/
theorem exists_tiling {stop : Nat} {x : Interval} {l : List Interval}
    (hl : (x :: l).Pairwise fun i j => i.stop < j.start) (hx : x.start ≤ stop)
    (hcov : ∀ c, x.start ≤ c → c ≤ stop → ∃ y ∈ x :: l, y.contains c = true)
    (hcross : ∀ y ∈ x :: l, y.start ≤ stop → y.stop ≤ stop) : ∃ n, Tiling stop (x :: l) n := by
  induction l generalizing x with
  | nil =>
    obtain ⟨y, hy, hc⟩ := hcov stop hx (Nat.le_refl _)
    obtain rfl := List.mem_singleton.1 hy
    have := hcross y hy hx
    rw [contains_iff] at hc
    exact ⟨1, .last (by omega)⟩
  | cons y l ih =>
    obtain ⟨hlx, hl'⟩ := List.pairwise_cons.1 hl
    rcases Nat.eq_or_lt_of_le (hcross x List.mem_cons_self hx) with he | hlt
    · exact ⟨1, .last he⟩
    · -- the point behind `x` is covered, and that can only be where `y` begins
      obtain ⟨z, hz, hc⟩ := hcov (x.stop + 1) (by have := x.start_le_stop; omega) hlt
      rw [contains_iff] at hc
      have hyx := hlx y List.mem_cons_self
      have hy : y.start = x.stop + 1 := by
        rcases List.mem_cons.1 hz with rfl | hz
        · omega
        · rcases List.mem_cons.1 hz with rfl | hz
          · omega
          · have := (List.pairwise_cons.1 hl').1 z hz
            have := y.start_le_stop
            omega
      obtain ⟨n, hn⟩ := ih hl' (by omega)
        (fun c h1 h2 => by
          obtain ⟨w, hw, hcw⟩ := hcov c (by have := x.start_le_stop; omega) h2
          rcases List.mem_cons.1 hw with rfl | hw
          · rw [contains_iff] at hcw
            omega
          · exact ⟨w, hw, hcw⟩)
        (fun z hz => hcross z (List.mem_cons_of_mem x hz))
      exact ⟨n + 1, .more hlt hy hn⟩

end Interval

namespace Alphabet

open Munch.Interval

/-- the intervals are in ascending order and disjoint -/
def Ordered (a : Alphabet) : Prop :=
  Ascending a.intervals

theorem ordered_ofIntervals (is : List Interval) : (ofIntervals is).Ordered := by
  simpa [Ordered, Ascending, ofIntervals] using split_ascending is

variable {a : Alphabet}

/-! ## The symbol of a code point -/

theorem symbolOf?_eq_some_iff (h : a.Ordered) {c s : Nat} :
    a.symbolOf? c = some s ↔ ∃ x, a.interval? s = some x ∧ x.contains c = true := by
  unfold symbolOf? interval?
  constructor
  · intro hs
    simp only at hs
    split_ifs at hs with h1 h2
    obtain rfl := Option.some.inj hs
    simpa [Option.any_eq_true] using h2
  · rintro ⟨x, hx, hc⟩
    have hk : s < a.intervals.size := (Array.getElem?_eq_some_iff.1 hx).1
    have := Bisection.countTrue_eq_add_one hk fun i hi => h.begins_iff hx hc hi
    simp only [size, this, Nat.add_sub_cancel, hx, Option.any_some, hc, if_true]
    rfl

theorem symbolOf?_lt (h : a.Ordered) {c s : Nat} (hs : a.symbolOf? c = some s) : s < a.size := by
  obtain ⟨x, hx, -⟩ := (symbolOf?_eq_some_iff h).1 hs
  exact (Array.getElem?_eq_some_iff.1 hx).1

/-- each symbol is that of a code point -/
theorem exists_symbolOf? (h : a.Ordered) {s : Nat} (hs : s < a.size) : ∃ c, a.symbolOf? c = some s :=
  ⟨a.intervals[s].start, (symbolOf?_eq_some_iff h).2 ⟨_, Array.getElem?_eq_getElem hs, contains_start _⟩⟩

/-- the tables count the symbols from one, and `0` stands for no symbol -/
theorem symbolIn_pairs (a : Alphabet) (c : Nat) : symbolIn a.pairs c = (a.symbolOf? c).elim 0 (· + 1) := by
  have htest (i : Nat) : ((a.pairs[i]?).any fun p => decide (p.1 ≤ c)) =
      ((a.intervals[i]?).any fun x => decide (x.start ≤ c)) := by
    simp only [pairs, Array.getElem?_map, Option.any_map, ends]
    rfl
  let begins (i : Nat) : Bool := (a.intervals[i]?).any fun x => decide (x.start ≤ c)
  have hfirst : Bisection.countTrue a.size begins ≠ 0 → begins (Bisection.countTrue a.size begins - 1) = true :=
    Bisection.test_countTrue_sub_one
  unfold symbolIn symbolOf?
  simp only [htest, show a.pairs.size = a.size by simp [pairs, size]]
  generalize Bisection.countTrue a.size begins = n at *
  by_cases h1 : n = 0
  · rw [if_pos h1, if_pos h1]
    rfl
  · have hend : ((a.pairs[n - 1]?).any fun p => decide (c ≤ p.2)) = (a.intervals[n - 1]?).any (·.contains c) := by
      have hn : begins (n - 1) = true := hfirst h1
      simp only [begins] at hn
      simp only [pairs, Array.getElem?_map, Option.any_map, ends]
      cases hx : a.intervals[n - 1]? with
      | none => rfl
      | some x =>
        rw [hx, Option.any_some] at hn
        simp only [Option.any_some, contains, hn, Bool.true_and]
        rfl
    rw [if_neg h1, if_neg h1, hend]
    split
    · simp only [Option.elim_some]
      omega
    · rfl

/-! ## The symbols of an interval -/

/-- the symbols of an interval are those of its code points -/
theorem contains_iff_of_symbolsOf (h : a.Ordered) {i : Interval} {symbols : List Nat}
    (hs : a.symbolsOf i = .ok symbols) {c : Nat} :
    i.contains c = true ↔ ∃ s ∈ symbols, a.symbolOf? c = some s := by
  obtain ⟨k, x, n, hx, hst, ht, rfl⟩ := (tiles_eq_ok_iff h).1 hs
  have hhead : (a.intervals.toList.drop k).head? = some x := by
    rw [List.head?_drop]
    simpa using hx
  rw [Interval.contains_iff, ← hst, ht.contains_iff hhead]
  simp only [symbolOf?_eq_some_iff h, List.mem_range'_1, interval?, List.getElem?_drop, Array.getElem?_toList]
  constructor
  · rintro ⟨l, hl, y, hy, hc⟩
    exact ⟨k + l, by omega, y, hy, hc⟩
  · rintro ⟨s, hs, y, hy, hc⟩
    exact ⟨s - k, by omega, y, by rwa [show k + (s - k) = s by omega], hc⟩

theorem lt_size_of_symbolsOf {i : Interval} {symbols : List Nat} (hs : a.symbolsOf i = .ok symbols)
    {s : Nat} (hm : s ∈ symbols) : s < a.size := by
  unfold symbolsOf tiles at hs
  split at hs
  · cases hs
  · next k _ =>
    split at hs
    · cases hs
    · next first rest hdrop =>
      obtain ⟨n, ht, rfl⟩ := run_eq_ok_iff.1 hs
      rw [← hdrop] at ht
      rw [List.mem_range'_1] at hm
      have hle := ht.le_length
      simp only [List.length_drop, Array.length_toList] at hle
      simp only [size]
      omega

/-- every interval that an alphabet was split from is made up of symbols -/
theorem exists_symbolsOf_split {is : List Interval} {i : Interval} (hi : i ∈ is) :
    ∃ symbols, (ofIntervals is).symbolsOf i = .ok symbols := by
  have ho := ordered_ofIntervals is
  -- the member that holds the first code point of `i` begins there
  obtain ⟨j, hj, hc⟩ := exists_mem_split_contains_iff.2 ⟨i, hi, contains_start i⟩
  have hjs : j.start = i.start := by
    have := within_of_meets hj hi hc (contains_start i)
    rw [Interval.contains_iff] at hc
    omega
  obtain ⟨k, hk, rfl⟩ := List.mem_iff_getElem.1 hj
  have hsub : ∀ y ∈ (split is).drop k, y ∈ split is := fun y hy => List.mem_of_mem_drop hy
  have hdrop : (split is).drop k = (split is)[k] :: (split is).drop (k + 1) := List.drop_eq_getElem_cons hk
  have hasc : ((split is).drop k).Pairwise fun i j => i.stop < j.start := (split_ascending is).drop
  rw [hdrop] at hsub hasc
  obtain ⟨n, hn⟩ := exists_tiling hasc (show _ ≤ i.stop from hjs ▸ i.start_le_stop)
    (fun c h1 h2 => by
      have hic : i.contains c = true := Interval.contains_iff.2 ⟨by omega, h2⟩
      obtain ⟨y, hy, hcy⟩ := exists_mem_split_contains_iff.2 ⟨i, hi, hic⟩
      obtain ⟨l, hl, rfl⟩ := List.mem_iff_getElem.1 hy
      refine ⟨(split is)[l], ?_, hcy⟩
      rw [← hdrop, List.mem_drop_iff_getElem]
      rw [Interval.contains_iff] at hcy
      by_cases hkl : k ≤ l
      · exact ⟨l - k, by omega, by congr 1; omega⟩
      · have := List.pairwise_iff_getElem.1 (split_ascending is) l k hl hk (by omega)
        omega)
    (fun y hy hys => by
      have := split_uncut (hsub y hy) hi
      by_contra hlt
      have hle : (split is)[k].start ≤ y.start := by
        rcases List.mem_cons.1 hy with rfl | hy
        · exact Nat.le_refl _
        · have := (List.pairwise_cons.1 hasc).1 y hy
          have := (split is)[k].start_le_stop
          omega
      omega)
  refine ⟨List.range' k n, (tiles_eq_ok_iff ho).2 ⟨k, (split is)[k], n, ?_, hjs, ?_, rfl⟩⟩
  · simp [ofIntervals, hk]
  · show Tiling i.stop ((split is).drop k) n
    rwa [hdrop]

/-- an interval that an alphabet was split from is made up of the symbols of its code points -/
theorem exists_symbols_of_mem {is : List Interval} {i : Interval} (hi : i ∈ is) :
    ∃ symbols, (ofIntervals is).symbolsOf i = .ok symbols ∧ (∀ s ∈ symbols, s < (ofIntervals is).size) ∧
      ∀ c, i.contains c = true ↔ ∃ s ∈ symbols, (ofIntervals is).symbolOf? c = some s := by
  obtain ⟨symbols, hs⟩ := exists_symbolsOf_split hi
  refine ⟨symbols, hs, ?_, ?_⟩
  · intro s hm
    exact lt_size_of_symbolsOf hs hm
  · intro c
    exact contains_iff_of_symbolsOf (ordered_ofIntervals is) hs

/-! ## Words -/

/-- the symbols of the code points of a word, if each has one -/
def word? (a : Alphabet) (w : List Nat) : Option (List Nat) :=
  w.mapM a.symbolOf?

@[simp] theorem word?_nil (a : Alphabet) : a.word? [] = some [] := rfl

theorem word?_cons (a : Alphabet) (c : Nat) (w : List Nat) :
    a.word? (c :: w) = (a.symbolOf? c).bind fun s => (a.word? w).map (s :: ·) := by
  simp only [word?, List.mapM_cons]
  cases a.symbolOf? c <;> cases List.mapM a.symbolOf? w <;> rfl

theorem word?_eq_some_iff {w v : List Nat} : a.word? w = some v ↔ w.map a.symbolOf? = v.map some := by
  induction w generalizing v with
  | nil => cases v <;> simp
  | cons c w ih =>
    rw [word?_cons]
    cases v with
    | nil => simp [Option.bind_eq_some_iff]
    | cons s v =>
      simp only [Option.bind_eq_some_iff, Option.map_eq_some_iff, List.cons.injEq, List.map_cons, ← ih]
      constructor
      · rintro ⟨s', hs, v', hv, rfl, rfl⟩
        exact ⟨hs, hv⟩
      · rintro ⟨hs, hv⟩
        exact ⟨s, hs, v, hv, rfl, rfl⟩

end Alphabet

namespace Regex

/-- the intervals of the expression are made up of symbols of the alphabet -/
def TiledBy (r : Regex) (a : Alphabet) : Prop :=
  ∀ i ∈ r.intervals, ∃ symbols, a.symbolsOf i = .ok symbols

theorem tiledBy_cat_iff {x y : Regex} {a : Alphabet} : (cat x y).TiledBy a ↔ x.TiledBy a ∧ y.TiledBy a :=
  List.forall_mem_append

theorem tiledBy_alt_iff {x y : Regex} {a : Alphabet} : (alt x y).TiledBy a ↔ x.TiledBy a ∧ y.TiledBy a :=
  List.forall_mem_append

/-- **Words and their symbols.** An expression matches a word if the code points of the word have symbols and it spells
these. -/
theorem matches_iff_spells {r : Regex} {a : Alphabet} (ho : a.Ordered) (hr : r.TiledBy a) {w : List Nat} :
    r.Matches w ↔ ∃ v, a.word? w = some v ∧ r.Spells a v := by
  have hatom : ∀ is ∈ r.sets, ∀ c s, a.symbolOf? c = some s →
      ((∃ i ∈ is, i.contains c = true) ↔ ∃ i ∈ is, ∃ symbols, a.symbolsOf i = .ok symbols ∧ s ∈ symbols) := by
    intro is his c s hs
    refine exists_congr fun i => and_congr_right fun hi => ?_
    obtain ⟨symbols, hsym⟩ := hr i (by rw [intervals_eq_flatten_sets]; exact List.mem_flatten.2 ⟨is, his, hi⟩)
    rw [Alphabet.contains_iff_of_symbolsOf ho hsym, hs]
    simp [hsym]
  have hword : ∀ v, a.word? w = some v → (r.Matches w ↔ r.Spells a v) := by
    intro v hv
    have hmap := Alphabet.word?_eq_some_iff.1 hv
    have hc : ∀ c ∈ w, ∃ s, a.symbolOf? c = some s := by
      intro c hc
      have : a.symbolOf? c ∈ v.map some := hmap ▸ List.mem_map_of_mem hc
      obtain ⟨s, -, hs⟩ := List.mem_map.1 this
      exact ⟨s, hs.symm⟩
    have hvf : v = w.map fun c => (a.symbolOf? c).getD 0 := by
      have := congrArg (List.map fun o => Option.getD o 0) hmap
      simpa [List.map_map, Function.comp_def] using this.symm
    rw [hvf]
    refine lang_map_iff fun is his c hcw => ?_
    obtain ⟨s, hs⟩ := hc c hcw
    rw [hs]
    exact hatom is his c s hs
  constructor
  · intro h
    obtain ⟨v, hv⟩ : ∃ v, a.word? w = some v := by
      refine ⟨w.map fun c => (a.symbolOf? c).getD 0, Alphabet.word?_eq_some_iff.2 ?_⟩
      rw [List.map_map]
      refine List.map_congr_left fun c hc => ?_
      obtain ⟨is, his, i, hi, hic⟩ := Lang.exists_atom h hc
      obtain ⟨symbols, hsym⟩ := hr i (by rw [intervals_eq_flatten_sets]; exact List.mem_flatten.2 ⟨is, his, hi⟩)
      obtain ⟨s, -, hs⟩ := (Alphabet.contains_iff_of_symbolsOf ho hsym).1 hic
      simp [hs]
    exact ⟨v, hv, (hword v hv).1 h⟩
  · rintro ⟨v, hv, h⟩
    exact (hword v hv).2 h

/-- an alphabet that was split from the intervals of an expression, and perhaps others, tiles them -/
theorem tiledBy_ofIntervals {r : Regex} {is : List Interval} (h : ∀ i ∈ r.intervals, i ∈ is) :
    r.TiledBy (.ofIntervals is) :=
  fun i hi => Alphabet.exists_symbolsOf_split (h i hi)

end Regex

end Munch
