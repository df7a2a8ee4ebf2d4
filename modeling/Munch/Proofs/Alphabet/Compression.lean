/-
Symbols instead of code points.

A symbol of an alphabet is found in two ways: for an interval of a rule, when the automata are built, and for a code point,
when a text is read. Over the alphabet that intervals split into, the symbol of a code point is the one interval that holds
it, in both ways of counting, and the symbols of a given interval are those of its code points. So no rule can tell apart
two code points that have one symbol.

Results:
- `symbolOf?_eq_none_iff`: the code points without a symbol are those that no interval covers.
- `contains_eq_of_symbolOf?_eq`: code points with one symbol are in the same intervals.
- `compresses_ofIntervals`: all of it, for every list of intervals.
-/
import Mathlib.Tactic
import Munch.Proofs.Alphabet.Coarsest

namespace Munch

namespace Alphabet

open Munch.Interval

variable {a : Alphabet} {is : List Interval} {i : Interval} {c d s t : Nat}

/-- a code point is in one interval of an alphabet at most -/
theorem symbol_unique (h : a.Ordered) {x y : Interval} (hx : a.interval? s = some x) (hy : a.interval? t = some y)
    (hcx : x.contains c = true) (hcy : y.contains c = true) : s = t := by
  have hs := (symbolOf?_eq_some_iff h).2 ⟨x, hx, hcx⟩
  have ht := (symbolOf?_eq_some_iff h).2 ⟨y, hy, hcy⟩
  rw [hs] at ht
  exact Option.some.inj ht

theorem exists_symbolOf?_iff : (∃ s, (ofIntervals is).symbolOf? c = some s) ↔ Covers is c := by
  simp only [symbolOf?_eq_some_iff (ordered_ofIntervals is)]
  rw [Covers, ← exists_mem_split_contains_iff]
  constructor
  · intro h
    obtain ⟨s, x, hx, hc⟩ := h
    exact ⟨x, by simpa [ofIntervals] using Array.mem_of_getElem? hx, hc⟩
  · intro h
    obtain ⟨x, hx, hc⟩ := h
    obtain ⟨s, hs⟩ := List.mem_iff_getElem?.1 hx
    exact ⟨s, x, by simpa [interval?, ofIntervals] using hs, hc⟩

theorem symbolOf?_eq_none_iff : (ofIntervals is).symbolOf? c = none ↔ ¬Covers is c := by
  rw [← exists_symbolOf?_iff, Option.eq_none_iff_forall_ne_some, not_exists]

/-- the place in the tables is one behind the symbol -/
theorem symbolIn_pairs_eq_succ_iff : symbolIn a.pairs c = s + 1 ↔ a.symbolOf? c = some s := by
  rw [symbolIn_pairs]
  cases a.symbolOf? c <;> simp

theorem symbolIn_pairs_eq_zero_iff : symbolIn a.pairs c = 0 ↔ a.symbolOf? c = none := by
  rw [symbolIn_pairs]
  cases a.symbolOf? c <;> simp

/-- an interval holds both or neither of two code points with one symbol -/
theorem contains_eq_of_symbolOf?_eq (hi : i ∈ is) (h : (ofIntervals is).symbolOf? c = (ofIntervals is).symbolOf? d) :
    i.contains c = i.contains d := by
  obtain ⟨symbols, -, -, hcontains⟩ := exists_symbols_of_mem hi
  rw [Bool.eq_iff_iff, hcontains c, hcontains d, h]

/-- the symbols of an alphabet stand for the code points of some intervals, without a loss and in both directions -/
structure Compresses (is : List Interval) (a : Alphabet) : Prop where
  symbol_iff : ∀ c s, a.symbolOf? c = some s ↔ ∃ x, a.interval? s = some x ∧ x.contains c = true
  unique : ∀ c s t x y, a.interval? s = some x → a.interval? t = some y → x.contains c = true → y.contains c = true →
    s = t
  /-- the tables count the symbols from one -/
  column_iff : ∀ c s, symbolIn a.pairs c = s + 1 ↔ a.symbolOf? c = some s
  none_iff : ∀ c, a.symbolOf? c = none ↔ ¬Covers is c
  zero_iff : ∀ c, symbolIn a.pairs c = 0 ↔ ¬Covers is c
  symbols : ∀ i ∈ is, ∃ symbols, a.symbolsOf i = .ok symbols ∧
    ∀ c, i.contains c = true ↔ ∃ s ∈ symbols, a.symbolOf? c = some s
  same : ∀ c d, a.symbolOf? c = a.symbolOf? d → ∀ i ∈ is, i.contains c = i.contains d

/-- **Symbols are as good as code points.** The alphabet of some intervals has a symbol for exactly the code points that they
cover, the interval that holds it. Each of the intervals is made up of symbols, those of its code points, so that code
points with one symbol are in the same intervals. -/
theorem compresses_ofIntervals (is : List Interval) : Compresses is (ofIntervals is) := by
  have ho := ordered_ofIntervals is
  exact
    { symbol_iff := fun _ _ => symbolOf?_eq_some_iff ho
      unique := fun _ _ _ _ _ hx hy hcx hcy => symbol_unique ho hx hy hcx hcy
      column_iff := fun _ _ => symbolIn_pairs_eq_succ_iff
      none_iff := fun _ => symbolOf?_eq_none_iff
      zero_iff := fun _ => symbolIn_pairs_eq_zero_iff.trans symbolOf?_eq_none_iff
      symbols := by
        intro i hi
        obtain ⟨symbols, hs, -, hcontains⟩ := exists_symbols_of_mem hi
        exact ⟨symbols, hs, hcontains⟩
      same := fun _ _ h _ hi => contains_eq_of_symbolOf?_eq hi h }

end Alphabet

end Munch
