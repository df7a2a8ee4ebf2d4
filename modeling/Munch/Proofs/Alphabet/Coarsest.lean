/-
The split is the coarsest one, and small numbers are enough for it.

Two covered points have to be kept apart if some point between them is covered by no interval, or if an interval begins or
ends between them; the split keeps apart no others (`Unbroken`). `sweepWithin` is the walk as it goes in numbers from `0` up
to a limit: to count below zero or to put the ends of an interval in the wrong order is a fault, and nothing comes behind
the limit. Over intervals within the limit it runs without a fault and emits the same.

Results:
- `exists_mem_split_iff`: two points share a member of the split if and only if nothing breaks the points between them.
- `exists_run`: a given interval is what a run of neighbouring members covers.
- `sweepWithin_eq`: no count leaves the numbers from `0` up to the limit.
- `split_coarsest`: all of it, for every list of intervals.
-/
import Mathlib.Tactic
import Munch.Proofs.Alphabet.Symbols

namespace Munch

/-- the point of an end -/
def Boundary.point : Boundary → Nat
  | opens p => p
  | closes p => p

namespace Interval

open Boundary

variable {is parts : List Interval} {i j : Interval} {p q c limit : Nat}

/-! ## Numbers up to a limit -/

/-- the number before a number; there is none before zero -/
def below : Nat → Except Fault Nat
  | 0 => .error .outOfRange
  | n + 1 => .ok n

/-- the number behind a number; there is none behind the limit -/
def behind? (limit n : Nat) : Option Nat :=
  if n < limit then some (n + 1) else none

/-- `closedBefore` with a count down from the point, and with ends that have to be in order -/
def emitBefore (opened : Option Nat) (point : Nat) : Except Fault (List Interval) :=
  match opened with
  | some s => if s < point then do return [← ofEnds s (← below point)] else return []
  | none => return []

/-- `closedAt` with ends that have to be in order -/
def emitAt (opened : Option Nat) (point : Nat) : Except Fault (List Interval) :=
  match opened with
  | some s => if s ≤ point then do return [← ofEnds s point] else return []
  | none => return []

/-- the walk in numbers up to a limit: counts down fault at zero, and nothing is opened behind the limit -/
def sweepWithin (limit depth : Nat) (opened : Option Nat) : List Boundary → Except Fault (List Interval)
  | [] => return []
  | .opens p :: rest => do
    let emitted ← emitBefore opened p
    return emitted ++ (← sweepWithin limit (depth + 1) (some p) rest)
  | .closes p :: rest => do
    let emitted ← emitAt opened p
    let depth ← below depth
    return emitted ++ (← sweepWithin limit depth (if 0 < depth then behind? limit p else none) rest)

theorem below_eq_ok {n : Nat} (h : 0 < n) : below n = .ok (n - 1) := by
  cases n with
  | zero => omega
  | succ n => rfl

theorem behind?_eq_filter (limit n : Nat) : behind? limit n = (some (n + 1)).filter (· ≤ limit) := by
  simp [behind?, Option.filter_some]

theorem ofEnds_eq_ok {start stop : Nat} (h : start ≤ stop) : ofEnds start stop = .ok ⟨start, stop, h⟩ :=
  dif_pos h

/-- there is a number before a point that comes after another one -/
theorem emitBefore_eq (opened : Option Nat) (point : Nat) : emitBefore opened point = .ok (closedBefore opened point) := by
  cases opened with
  | none => rfl
  | some s =>
    by_cases h : s < point
    · simp only [emitBefore, closedBefore, if_pos h, dif_pos h, below_eq_ok (Nat.zero_lt_of_lt h), bind, Except.bind,
        ofEnds_eq_ok (Nat.le_sub_one_of_lt h)]
      rfl
    · simp only [emitBefore, closedBefore, if_neg h, dif_neg h]
      rfl

theorem emitAt_eq (opened : Option Nat) (point : Nat) : emitAt opened point = .ok (closedAt opened point) := by
  cases opened with
  | none => rfl
  | some s =>
    by_cases h : s ≤ point
    · simp only [emitAt, closedAt, if_pos h, dif_pos h, bind, Except.bind, ofEnds_eq_ok h]
      rfl
    · simp only [emitAt, closedAt, if_neg h, dif_neg h]
      rfl

/-- what is opened behind the limit emits nothing -/
theorem closedBefore_filter (opened : Option Nat) (h : p ≤ limit) :
    closedBefore (opened.filter (· ≤ limit)) p = closedBefore opened p := by
  cases opened with
  | none => rfl
  | some s =>
    by_cases hs : s ≤ limit
    · rw [Option.filter_some_pos (by simpa using hs)]
    · rw [Option.filter_some_neg (by simpa using hs), closedBefore, closedBefore, dif_neg (by omega)]

theorem closedAt_filter (opened : Option Nat) (h : p ≤ limit) :
    closedAt (opened.filter (· ≤ limit)) p = closedAt opened p := by
  cases opened with
  | none => rfl
  | some s =>
    by_cases hs : s ≤ limit
    · rw [Option.filter_some_pos (by simpa using hs)]
    · rw [Option.filter_some_neg (by simpa using hs), closedAt, closedAt, dif_neg (by omega)]

/-- the walk within the limit goes along with the unlimited one, except that it opens nothing behind the limit -/
theorem sweepWithin_eq {depth point : Nat} {es : List Boundary} (h : Walk depth point es)
    (hle : ∀ e ∈ es, e.point ≤ limit) : sweepWithin limit depth ((front depth point).filter (· ≤ limit)) es =
      .ok (sweep depth (front depth point) es) := by
  induction es generalizing depth point with
  | nil => rfl
  | cons e es ih =>
    have hpoint := hle e List.mem_cons_self
    have hrest : ∀ f ∈ es, f.point ≤ limit := by
      intro f hf
      exact hle f (List.mem_cons_of_mem e hf)
    cases e with
    | opens p =>
      have hnext := ih h.opens hrest
      have hp : p ≤ limit := hpoint
      rw [front_succ, Option.filter_some_pos (by simpa using hp)] at hnext
      simp only [sweepWithin, sweep, emitBefore_eq, closedBefore_filter _ hp, bind, Except.bind, hnext]
      rfl
    | closes p =>
      have hnext := ih h.closes hrest
      have hp : p ≤ limit := hpoint
      have hopened : (front (depth - 1) (p + 1)).filter (· ≤ limit) =
          if 0 < depth - 1 then behind? limit p else none := by
        unfold front
        split
        · rw [behind?_eq_filter]
        · rfl
      rw [hopened, front_sub_one] at hnext
      simp only [sweepWithin, sweep, emitAt_eq, closedAt_filter _ hp, below_eq_ok h.depth_pos, bind, Except.bind, hnext]
      rfl

theorem point_le_of_mem_ordered (h : ∀ i ∈ is, i.stop ≤ limit) : ∀ e ∈ Boundary.ordered is, e.point ≤ limit := by
  intro e he
  obtain ⟨i, hi, rfl | rfl⟩ := mem_ordered.1 he
  · exact i.start_le_stop.trans (h i hi)
  · exact h i hi

/-! ## Points that share a member -/

/-- a point lies in one of the intervals -/
def Covers (is : List Interval) (c : Nat) : Prop :=
  ∃ i ∈ is, i.contains c = true

/-- all points from `p` to `q` are covered, no interval begins behind `p` and none ends before `q` -/
structure Unbroken (is : List Interval) (p q : Nat) : Prop where
  covers : ∀ c, p ≤ c → c ≤ q → Covers is c
  no_start : ∀ i ∈ is, ¬(p < i.start ∧ i.start ≤ q)
  no_stop : ∀ i ∈ is, ¬(p ≤ i.stop ∧ i.stop < q)

theorem unbroken_of_mem_split (hj : j ∈ split is) (hp : j.contains p = true) (hq : j.contains q = true) :
    Unbroken is p q := by
  rw [contains_iff] at hp hq
  refine ⟨?_, ?_, ?_⟩
  · intro c hpc hcq
    have hjc : j.contains c = true := contains_iff.2 ⟨by omega, by omega⟩
    exact exists_mem_split_contains_iff.1 ⟨j, hj, hjc⟩
  · intro i hi
    have := (split_uncut hj hi).1
    omega
  · intro i hi
    have := (split_uncut hj hi).2
    omega

/-- a member that ends between two points ends where an interval ends or just before one begins -/
theorem exists_mem_split_of_unbroken (hpq : p ≤ q) (h : Unbroken is p q) :
    ∃ j ∈ split is, j.contains p = true ∧ j.contains q = true := by
  obtain ⟨j, hj, hp⟩ := exists_mem_split_contains_iff.2 (h.covers p le_rfl hpq)
  refine ⟨j, hj, hp, ?_⟩
  rw [contains_iff] at hp ⊢
  by_contra hq
  obtain ⟨i, hi, hstop | hstart⟩ := split_ends_at_cut hj
  · exact h.no_stop i hi (by omega)
  · exact h.no_start i hi (by omega)

theorem exists_mem_split_iff (hpq : p ≤ q) :
    (∃ j ∈ split is, j.contains p = true ∧ j.contains q = true) ↔ Unbroken is p q := by
  constructor
  · intro h
    obtain ⟨j, hj, hp, hq⟩ := h
    exact unbroken_of_mem_split hj hp hq
  · exact exists_mem_split_of_unbroken hpq

/-! ## Runs -/

theorem covers_take_iff {l : List Interval} {n : Nat} :
    Covers (l.take n) c ↔ ∃ k < n, ∃ y, l[k]? = some y ∧ y.contains c = true := by
  simp only [Covers, List.mem_iff_getElem?, List.getElem?_take]
  constructor
  · intro h
    obtain ⟨y, ⟨k, hk⟩, hy⟩ := h
    split at hk
    · exact ⟨k, ‹_›, y, hk, hy⟩
    · cases hk
  · intro h
    obtain ⟨k, hk, y, hl, hy⟩ := h
    exact ⟨y, ⟨k, by rw [if_pos hk, hl]⟩, hy⟩

/-- a given interval is what some neighbours in the split cover -/
theorem exists_run (hi : i ∈ is) : ∃ k n, 0 < n ∧ k + n ≤ (split is).length ∧
    ∀ c, i.contains c = true ↔ Covers (((split is).drop k).take n) c := by
  obtain ⟨symbols, hs⟩ := Alphabet.exists_symbolsOf_split hi
  obtain ⟨k, x, n, hx, hstart, ht, -⟩ := (tiles_eq_ok_iff (Alphabet.ordered_ofIntervals is)).1 hs
  have ht : Tiling i.stop ((split is).drop k) n := ht
  have hx : (split is)[k]? = some x := by simpa [Alphabet.ofIntervals] using hx
  have hk : k < (split is).length := (List.getElem?_eq_some_iff.1 hx).1
  have hle : n ≤ (split is).length - k := List.length_drop ▸ ht.le_length
  refine ⟨k, n, ht.pos, by omega, ?_⟩
  intro c
  rw [covers_take_iff, contains_iff, ← hstart]
  exact ht.contains_iff (by rw [List.head?_drop, hx])

/-! ## The split -/

/-- `parts` are the coarsest disjoint intervals of which each of the intervals is a run -/
structure SplitsInto (is parts : List Interval) : Prop where
  ascending : parts.Pairwise fun i j => i.stop < j.start
  covers_iff : ∀ c, Covers parts c ↔ Covers is c
  runs : ∀ i ∈ is, ∃ k n, 0 < n ∧ k + n ≤ parts.length ∧
    ∀ c, i.contains c = true ↔ Covers ((parts.drop k).take n) c
  coarsest : ∀ p q, p < q → ((∃ j ∈ parts, j.contains p = true ∧ j.contains q = true) ↔ Unbroken is p q)
  few : parts.length ≤ 2 * is.length - 1

/-- **The split is the coarsest.** Intervals are split into ascending intervals that cover the same points, of which each
given interval is a run, and which part two points only where the given intervals tell them apart. The walk that does so
needs no number below zero or above the last point of the intervals. -/
theorem split_coarsest (hle : ∀ i ∈ is, i.stop ≤ limit) :
    SplitsInto is (split is) ∧ sweepWithin limit 0 none (Boundary.ordered is) = .ok (split is) := by
  constructor
  · exact
      { ascending := split_ascending is
        covers_iff := fun _ => exists_mem_split_contains_iff
        runs := fun _ hi => exists_run hi
        coarsest := fun _ _ hpq => exists_mem_split_iff (Nat.le_of_lt hpq)
        few := length_split_le is }
  · exact sweepWithin_eq (walk_ordered is) (point_le_of_mem_ordered hle)

example : (split [⟨5, 70, by decide⟩, ⟨20, 30, by decide⟩, ⟨15, 50, by decide⟩, ⟨50, 60, by decide⟩,
    ⟨80, 90, by decide⟩]).map ends =
      [(5, 14), (15, 19), (20, 30), (31, 49), (50, 50), (51, 60), (61, 70), (80, 90)] := by
  cbv

/-- an interval twice, from the first point on, and two that end at the last point of 32 bits -/
def corners : List Interval :=
  [⟨0, 5, by decide⟩, ⟨0, 5, by decide⟩, ⟨3, 4294967295, by decide⟩, ⟨4294967295, 4294967295, by decide⟩]

/-- behind the first intervals and before the last one nothing begins or ends -/
theorem split_coarsest_corners : (∀ i ∈ corners, i.stop ≤ 4294967295) ∧
    sweepWithin 4294967295 0 none (Boundary.ordered corners) = .ok (split corners) ∧
    ∃ j ∈ split corners, j.contains 6 = true ∧ j.contains 4294967294 = true := by
  have hle : ∀ i ∈ corners, i.stop ≤ 4294967295 := by decide
  obtain ⟨hsplit, hsweep⟩ := split_coarsest hle
  refine ⟨hle, hsweep, (hsplit.coarsest 6 4294967294 (by decide)).2 ⟨?_, by decide, by decide⟩⟩
  intro c h6 hlast
  exact ⟨⟨3, 4294967295, by decide⟩, by simp [corners], contains_iff.2 ⟨show 3 ≤ c by omega, show c ≤ 4294967295 by omega⟩⟩

end Interval

end Munch
