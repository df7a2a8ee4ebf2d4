/-
Bisection over the indices `0 .. n - 1` for a test that holds up to some point and fails from there on.

`lastTrue n test` is the last index at which such a test holds (or `0` if it holds nowhere), found with one test for
each halving of the range. `countTrue n test` is the number of indices at which it holds: `lt_countTrue_iff` says that
these are the indices below it.
-/

namespace Munch.Bisection

/-- the first index of the half that is searched on: the later half if the test holds where it begins -/
def half (test : Nat → Bool) (base size : Nat) : Nat :=
  if test (base + size / 2) then base + size / 2 else base

/-- the halving search among the `size` indices from `base` on, of which the first is the best so far -/
def search (test : Nat → Bool) (base size : Nat) : Nat :=
  if h : 1 < size then search test (half test base size) (size - size / 2) else base
termination_by size
decreasing_by omega

/-- the last index below `n` at which `test` holds, or `0` -/
def lastTrue (n : Nat) (test : Nat → Bool) : Nat :=
  search test 0 n

/-- the number of indices below `n` at which `test` holds -/
def countTrue (n : Nat) (test : Nat → Bool) : Nat :=
  if n = 0 then 0
  else if test (lastTrue n test) then lastTrue n test + 1 else lastTrue n test

/-- if the test holds at an index below `n`, it holds at every index before it -/
def HoldsBefore (n : Nat) (test : Nat → Bool) : Prop :=
  ∀ i j, i ≤ j → j < n → test j = true → test i = true

theorem half_cases (test : Nat → Bool) (base size : Nat) :
    half test base size = base + size / 2 ∧ test (base + size / 2) = true ∨
      half test base size = base ∧ test (base + size / 2) = false := by
  cases h : test (base + size / 2)
  · exact .inr ⟨by simp [half, h], rfl⟩
  · exact .inl ⟨by simp [half, h], rfl⟩

theorem search_lt (test : Nat → Bool) {base size : Nat} (hs : 0 < size) : search test base size < base + size := by
  fun_induction search test base size with
  | case1 base size h ih =>
    have := ih (by omega)
    have := half_cases test base size
    omega
  | case2 => omega

theorem test_search (test : Nat → Bool) (base size : Nat) :
    test (search test base size) = true ∨ search test base size = base := by
  fun_induction search test base size with
  | case1 base size h ih =>
    rcases half_cases test base size with ⟨hb, ht⟩ | ⟨hb, -⟩
    · exact .inl (ih.elim id fun e => by rw [e, hb, ht])
    · exact ih.imp_right fun e => e.trans hb
  | case2 => exact .inr rfl

theorem test_above_search {n : Nat} {test : Nat → Bool} (h : HoldsBefore n test) {base size i : Nat}
    (hn : base + size ≤ n) (hi : search test base size < i) (hj : i < base + size) : test i = false := by
  fun_induction search test base size with
  | case1 base size hs ih =>
    rcases half_cases test base size with ⟨hb, -⟩ | ⟨hb, ht⟩
    · exact ih (by omega) hi (by omega)
    · by_cases hm : i < base + (size - size / 2)
      · exact ih (by omega) hi (by omega)
      · exact Bool.eq_false_iff.2 fun hti => by simp [h (base + size / 2) i (by omega) (by omega) hti] at ht
  | case2 base size hs => omega

theorem lt_countTrue_iff {n : Nat} {test : Nat → Bool} (h : HoldsBefore n test) {i : Nat} :
    i < countTrue n test ↔ i < n ∧ test i = true := by
  unfold countTrue
  split
  case isTrue hn => omega
  case isFalse hn =>
    have hlt : lastTrue n test < 0 + n := search_lt test (by omega)
    have habove (hi : i < n) (hti : test i = true) : i ≤ lastTrue n test :=
      Nat.le_of_not_lt fun hl => by
        simp [test_above_search h (Nat.le_of_eq (Nat.zero_add n)) hl (by omega)] at hti
    split
    case isTrue ht =>
      exact ⟨fun hi => ⟨by omega, h i _ (by omega) (by omega) ht⟩, fun hi => by have := habove hi.1 hi.2; omega⟩
    case isFalse ht =>
      have hz : lastTrue n test = 0 := (test_search test 0 n).resolve_left ht
      refine ⟨fun hi => by omega, fun ⟨hi, hti⟩ => absurd hti ?_⟩
      have := habove hi hti
      rwa [show i = lastTrue n test by omega]

end Munch.Bisection
