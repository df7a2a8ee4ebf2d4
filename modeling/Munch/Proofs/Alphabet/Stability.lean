/-
What the split does not depend on.

Intervals in ascending order are known as soon as it is known which points share one of them (`Shares`). Of the split these
are the points that nothing parts (`Unbroken`), and whether something parts two points does not depend on the order of the
given intervals, on how often one is given, or on intervals that begin and end where members of the split do.

Results:
- `eq_of_shares_iff`: ascending intervals in which the same points share a member are the same.
- `split_of_ascending`: ascending intervals are their own split.
- `unbroken_of_fits`: an interval that members of the split fill parts no points.
- `split_stable`: one split for one set of intervals, for its own members, and with any of their runs added.
-/
import Mathlib.Tactic
import Munch.Proofs.Alphabet.Coarsest

namespace Munch

namespace Interval

variable {is parts xs ys : List Interval} {i j : Interval} {p q c : Nat}

/-! ## Points that share an interval -/

/-- one of the intervals holds both points -/
def Shares (parts : List Interval) (p q : Nat) : Prop :=
  ∃ j ∈ parts, j.contains p = true ∧ j.contains q = true

/-- in ascending order no two intervals hold the same point -/
theorem eq_of_contains (h : parts.Pairwise fun i j => i.stop < j.start) (hi : i ∈ parts) (hj : j ∈ parts)
    (hic : i.contains c = true) (hjc : j.contains c = true) : i = j := by
  obtain ⟨k, hk, rfl⟩ := List.mem_iff_getElem.1 hi
  obtain ⟨l, hl, rfl⟩ := List.mem_iff_getElem.1 hj
  rw [contains_iff] at hic hjc
  rcases Nat.lt_trichotomy k l with hkl | rfl | hkl
  · have := List.pairwise_iff_getElem.1 h k l hk hl hkl
    omega
  · rfl
  · have := List.pairwise_iff_getElem.1 h l k hl hk hkl
    omega

/-- ascending intervals are the longest stretches of points that share an interval -/
theorem mem_iff_shares (h : parts.Pairwise fun i j => i.stop < j.start) : j ∈ parts ↔
    Shares parts j.start j.stop ∧ (∀ p < j.start, ¬Shares parts p j.start) ∧ ∀ q, j.stop < q → ¬Shares parts j.stop q := by
  constructor
  · intro hj
    refine ⟨⟨j, hj, contains_start j, contains_stop j⟩, ?_, ?_⟩
    · intro p hp hshare
      obtain ⟨x, hx, hxp, hxs⟩ := hshare
      obtain rfl := eq_of_contains h hx hj hxs (contains_start j)
      rw [contains_iff] at hxp
      omega
    · intro q hq hshare
      obtain ⟨x, hx, hxs, hxq⟩ := hshare
      obtain rfl := eq_of_contains h hx hj hxs (contains_stop j)
      rw [contains_iff] at hxq
      omega
  · intro hj
    obtain ⟨⟨x, hx, hxs, hxe⟩, hbefore, hbehind⟩ := hj
    have hstart : ¬x.start < j.start := fun hlt => hbefore x.start hlt ⟨x, hx, contains_start x, hxs⟩
    have hstop : ¬j.stop < x.stop := fun hlt => hbehind x.stop hlt ⟨x, hx, hxe, contains_stop x⟩
    rw [contains_iff] at hxs hxe
    have hxj : x = j := by
      cases x
      cases j
      simp only [mk.injEq] at *
      omega
    exact hxj ▸ hx

theorem eq_of_shares_iff (hx : xs.Pairwise fun i j => i.stop < j.start) (hy : ys.Pairwise fun i j => i.stop < j.start)
    (h : ∀ p q, p ≤ q → (Shares xs p q ↔ Shares ys p q)) : xs = ys := by
  have hmem : ∀ j, j ∈ xs ↔ j ∈ ys := by
    intro j
    rw [mem_iff_shares hx, mem_iff_shares hy, h _ _ j.start_le_stop]
    refine and_congr_right fun _ => and_congr ?_ ?_
    · exact forall₂_congr fun p hp => not_congr (h _ _ (Nat.le_of_lt hp))
    · exact forall₂_congr fun q hq => not_congr (h _ _ (Nat.le_of_lt hq))
  have hasymm : Std.Asymm fun i j : Interval => i.stop < j.start := by
    refine ⟨fun i j hij hji => ?_⟩
    have := i.start_le_stop
    have := j.start_le_stop
    omega
  exact hx.eq_of_mem_iff hy hmem

/-! ## The split and its points -/

/-- lists of intervals that part the same points have one split -/
theorem split_eq_split (h : ∀ p q, p ≤ q → (Unbroken xs p q ↔ Unbroken ys p q)) : split xs = split ys := by
  refine eq_of_shares_iff (split_ascending xs) (split_ascending ys) fun p q hpq => ?_
  rw [Shares, Shares, exists_mem_split_iff hpq, exists_mem_split_iff hpq, h p q hpq]

/-- between two points of one of them, ascending intervals neither begin nor end -/
theorem unbroken_iff_shares (h : parts.Pairwise fun i j => i.stop < j.start) (hpq : p ≤ q) :
    Unbroken parts p q ↔ Shares parts p q := by
  constructor
  · intro hu
    obtain ⟨j, hj, hp⟩ := hu.covers p le_rfl hpq
    have hstop := hu.no_stop j hj
    rw [contains_iff] at hp
    exact ⟨j, hj, contains_iff.2 hp, contains_iff.2 (by omega)⟩
  · intro hs
    obtain ⟨j, hj, hp, hq⟩ := hs
    rw [contains_iff] at hp hq
    have hmem : ∀ c, p ≤ c → c ≤ q → j.contains c = true := by
      intro c hpc hcq
      exact contains_iff.2 (by omega)
    refine ⟨fun c hpc hcq => ⟨j, hj, hmem c hpc hcq⟩, ?_, ?_⟩
    · intro i hi hin
      obtain rfl := eq_of_contains h hi hj (contains_start i) (hmem _ (by omega) hin.2)
      omega
    · intro i hi hin
      obtain rfl := eq_of_contains h hi hj (contains_stop i) (hmem _ hin.1 (by omega))
      omega

theorem split_of_ascending (h : parts.Pairwise fun i j => i.stop < j.start) : split parts = parts := by
  refine eq_of_shares_iff (split_ascending parts) h fun p q hpq => ?_
  rw [Shares, exists_mem_split_iff hpq, unbroken_iff_shares h hpq]

/-! ## More intervals -/

theorem Covers.mono (h : ∀ i ∈ xs, i ∈ ys) (hc : Covers xs c) : Covers ys c := by
  obtain ⟨i, hi, hic⟩ := hc
  exact ⟨i, h i hi, hic⟩

/-- with more intervals that cover no other point, more points may be parted, but none fewer -/
theorem Unbroken.of_subset (h : ∀ i ∈ xs, i ∈ ys) (hcov : ∀ c, Covers ys c → Covers xs c) (hu : Unbroken ys p q) :
    Unbroken xs p q where
  covers c hpc hcq := hcov c (hu.covers c hpc hcq)
  no_start i hi := hu.no_start i (h i hi)
  no_stop i hi := hu.no_stop i (h i hi)

theorem unbroken_congr (h : ∀ i, i ∈ xs ↔ i ∈ ys) : Unbroken xs p q ↔ Unbroken ys p q := by
  constructor
  · exact Unbroken.of_subset (fun i hi => (h i).2 hi) fun c => Covers.mono fun i hi => (h i).1 hi
  · exact Unbroken.of_subset (fun i hi => (h i).1 hi) fun c => Covers.mono fun i hi => (h i).2 hi

/-- the interval is filled by members of the split -/
def Fits (is : List Interval) (i : Interval) : Prop :=
  ∀ c, i.contains c = true → ∃ j ∈ split is, j.contains c = true ∧ ∀ d, j.contains d = true → i.contains d = true

/-- the points of any members of the split are filled by them -/
theorem fits_of_contains_iff {members : List Interval} (h : ∀ j ∈ members, j ∈ split is)
    (hi : ∀ c, i.contains c = true ↔ Covers members c) : Fits is i := by
  intro c hc
  obtain ⟨j, hj, hjc⟩ := (hi c).1 hc
  exact ⟨j, h j hj, hjc, fun d hd => (hi d).2 ⟨j, hj, hd⟩⟩

theorem Fits.covers (h : Fits is i) (hc : i.contains c = true) : Covers is c := by
  obtain ⟨j, hj, hjc, -⟩ := h c hc
  exact exists_mem_split_contains_iff.1 ⟨j, hj, hjc⟩

/-- an interval that is filled by members holds all points of a member or none -/
theorem Fits.contains_iff (h : Fits is i) (hj : j ∈ split is) (hp : j.contains p = true) (hq : j.contains q = true) :
    i.contains p = true ↔ i.contains q = true := by
  have hall {p q : Nat} (hp : j.contains p = true) (hq : j.contains q = true) (hip : i.contains p = true) :
      i.contains q = true := by
    obtain ⟨x, hx, hxp, hxi⟩ := h p hip
    obtain rfl := eq_of_contains (split_ascending is) hx hj hxp hp
    exact hxi q hq
  exact ⟨hall hp hq, hall hq hp⟩

theorem unbroken_of_fits (h : Fits is i) (hys : ∀ x, x ∈ ys ↔ x = i ∨ x ∈ is) (hpq : p ≤ q) :
    Unbroken ys p q ↔ Unbroken is p q := by
  have hsub : ∀ x ∈ is, x ∈ ys := fun x hx => (hys x).2 (Or.inr hx)
  constructor
  · refine Unbroken.of_subset hsub ?_
    intro c hc
    obtain ⟨x, hx, hxc⟩ := hc
    rcases (hys x).1 hx with rfl | hx
    · exact h.covers hxc
    · exact ⟨x, hx, hxc⟩
  · intro hu
    obtain ⟨j, hj, hp, hq⟩ := exists_mem_split_of_unbroken hpq hu
    have hin {c : Nat} (hpc : p ≤ c) (hcq : c ≤ q) : j.contains c = true := by
      rw [Interval.contains_iff] at *
      omega
    refine ⟨fun c hpc hcq => (hu.covers c hpc hcq).mono hsub, ?_, ?_⟩
    · intro x hx hstart
      rcases (hys x).1 hx with rfl | hx
      · -- the first point of the interval and `p` are in one member, so `p` is in the interval
        have hxp := (h.contains_iff hj (hin (by omega) hstart.2) hp).1 (contains_start x)
        rw [Interval.contains_iff] at hxp
        omega
      · exact hu.no_start x hx hstart
    · intro x hx hstop
      rcases (hys x).1 hx with rfl | hx
      · have hxq := (h.contains_iff hj (hin hstop.1 (by omega)) hq).1 (contains_stop x)
        rw [Interval.contains_iff] at hxq
        omega
      · exact hu.no_stop x hx hstop

/-- **The split is stable.** Lists with the same intervals, in any order and any of them repeated, have one split. The split
of the split is the split. An interval that is a run of members of the split can be added anywhere without a change. -/
theorem split_stable (xs : List Interval) :
    (∀ ys, (∀ i, i ∈ xs ↔ i ∈ ys) → split xs = split ys) ∧ split (split xs) = split xs ∧
      ∀ i k n, (∀ c, i.contains c = true ↔ Covers (((split xs).drop k).take n) c) →
        ∀ ys, (∀ x, x ∈ ys ↔ x = i ∨ x ∈ xs) → split ys = split xs := by
  refine ⟨?_, split_of_ascending (split_ascending xs), ?_⟩
  · intro ys h
    exact split_eq_split fun p q _ => unbroken_congr h
  · intro i k n hi ys hys
    have hfits : Fits xs i := fits_of_contains_iff (fun j hj => List.mem_of_mem_drop (List.mem_of_mem_take hj)) hi
    exact split_eq_split fun p q hpq => unbroken_of_fits hfits hys hpq

/-- one interval inside another one that is given twice, and one behind a gap -/
def overlaps : List Interval :=
  [⟨0, 9, by decide⟩, ⟨3, 5, by decide⟩, ⟨20, 29, by decide⟩, ⟨0, 9, by decide⟩]

theorem split_overlaps : split overlaps =
    [⟨0, 2, by decide⟩, ⟨3, 5, by decide⟩, ⟨6, 9, by decide⟩, ⟨20, 29, by decide⟩] := by
  cbv

theorem contains_run_overlaps (c : Nat) :
    (⟨3, 9, by decide⟩ : Interval).contains c = true ↔ Covers (((split overlaps).drop 1).take 2) c := by
  simp only [split_overlaps, Covers, List.drop_succ_cons, List.drop_zero, List.take_succ_cons, List.take_zero,
    List.mem_cons, List.not_mem_nil, or_false, exists_eq_or_imp, exists_eq_left, contains_iff]
  omega

/-- from the second member to the third one nothing new begins or ends -/
theorem split_stable_overlaps :
    (∀ i, i ∈ overlaps ↔ i ∈ overlaps.eraseDups.reverse) ∧ split overlaps = split overlaps.eraseDups.reverse ∧
      (∀ c, (⟨3, 9, by decide⟩ : Interval).contains c = true ↔ Covers (((split overlaps).drop 1).take 2) c) ∧
      split (⟨3, 9, by decide⟩ :: overlaps) = split overlaps := by
  have hmem : ∀ i, i ∈ overlaps ↔ i ∈ overlaps.eraseDups.reverse := by
    intro i
    rw [List.mem_reverse, List.mem_eraseDups]
  obtain ⟨hset, -, hadd⟩ := split_stable overlaps
  exact ⟨hmem, hset _ hmem, contains_run_overlaps,
    hadd _ 1 2 contains_run_overlaps _ fun x => List.mem_cons⟩

end Interval

end Munch
