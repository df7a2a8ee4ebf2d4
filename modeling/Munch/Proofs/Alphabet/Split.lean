/-
What the split of intervals is.

Each end of a given interval is a cut between two code points: in front of the point where an interval begins, behind
the last point that it contains (`Boundary.cut` is the first point behind the cut). The walk over the ends is followed
with the number of open intervals (`level`) and the first point that has not been passed yet; `Sweeps` says what it
emits from there on.

Results, for every list of intervals:
- `split_ascending`: the result is in ascending order and disjoint.
- `exists_mem_split_contains_iff`: it covers exactly the code points that the given intervals cover.
- `split_uncut`: no member is cut, so a member that meets a given interval lies inside it (`within_of_meets`).
- `split_ends_at_cut`: every member ends at a cut.
- `length_split_le`: there are fewer members than ends of given intervals.
-/
import Mathlib.Tactic
import Munch.Alphabet.Split
import Munch.Proofs.Sorted

namespace Munch

namespace Boundary

/-- the first code point behind the cut that an end makes -/
def cut : Boundary → Nat
  | opens p => p
  | closes p => p + 1

/-- what an end adds to the number of open intervals -/
def weight : Boundary → Int
  | opens _ => 1
  | closes _ => -1

/-- what the ends up to a rank add to the number of open intervals -/
def level (r : Nat) (es : List Boundary) : Int :=
  (es.map fun e => if e.rank ≤ r then e.weight else 0).sum

theorem rank_le_two_mul_iff {e : Boundary} {c : Nat} : e.rank ≤ 2 * c ↔ e.cut ≤ c := by
  cases e <;> simp only [rank, cut] <;> omega

theorem cut_le_cut {e f : Boundary} (h : e.rank ≤ f.rank) : e.cut ≤ f.cut := by
  cases e <;> cases f <;> simp only [rank, cut] at * <;> omega

@[simp] theorem level_nil (r : Nat) : level r [] = 0 := rfl

theorem level_cons (r : Nat) (e : Boundary) (es : List Boundary) :
    level r (e :: es) = (if e.rank ≤ r then e.weight else 0) + level r es := by
  simp [level]

theorem level_perm {es fs : List Boundary} (h : es.Perm fs) (r : Nat) : level r es = level r fs :=
  (h.map _).sum_eq

theorem level_eq_zero {r : Nat} {es : List Boundary} (h : ∀ e ∈ es, r < e.rank) : level r es = 0 := by
  induction es with
  | nil => rfl
  | cons e es ih =>
    have he : ¬e.rank ≤ r := Nat.not_le.2 (h e List.mem_cons_self)
    rw [level_cons, if_neg he, ih fun f hf => h f (List.mem_cons_of_mem e hf)]
    rfl

end Boundary

namespace Interval

open Boundary

/-! ## The walk -/

/-- the point that `sweep` is given: the first one that has not been passed, if an interval is open -/
def front (depth point : Nat) : Option Nat :=
  if 0 < depth then some point else none

/-- the points from `point` up to but not including `stop`, if an interval is open -/
def piece (depth point stop : Nat) : List Interval :=
  if h : 0 < depth ∧ point < stop then [⟨point, stop - 1, Nat.le_sub_one_of_lt h.2⟩] else []

@[simp] theorem front_succ (depth point : Nat) : front (depth + 1) point = some point :=
  if_pos (Nat.succ_pos depth)

theorem front_sub_one (depth point : Nat) : front (depth - 1) point = if 1 < depth then some point else none := by
  unfold front
  congr 1
  exact propext ⟨fun _ => by omega, fun _ => by omega⟩

theorem closedBefore_front (depth point p : Nat) : closedBefore (front depth point) p = piece depth point p := by
  unfold front piece
  split <;> simp_all [closedBefore]

theorem closedAt_front (depth point p : Nat) : closedAt (front depth point) p = piece depth point (p + 1) := by
  unfold front piece
  split <;> simp_all [closedAt]

theorem mem_piece {depth point stop : Nat} {i : Interval} (h : i ∈ piece depth point stop) :
    0 < depth ∧ i.start = point ∧ i.stop + 1 = stop := by
  unfold piece at h
  split at h
  case isTrue hp =>
    rw [List.mem_singleton] at h
    subst h
    exact ⟨hp.1, rfl, by simp only; omega⟩
  case isFalse => cases h

theorem piece_contains_iff {depth point stop c : Nat} :
    (∃ i ∈ piece depth point stop, i.contains c = true) ↔ 0 < depth ∧ point ≤ c ∧ c < stop := by
  unfold piece
  split
  case isTrue hp =>
    simp only [List.mem_singleton, exists_eq_left, contains_iff]
    omega
  case isFalse hp =>
    simp only [List.not_mem_nil, false_and, exists_false, false_iff]
    omega

/-- the ends that are left, when `depth` intervals are open and all points before `point` have been passed -/
structure Walk (depth point : Nat) (es : List Boundary) : Prop where
  sorted : es.Pairwise fun e f => e.rank ≤ f.rank
  ahead : ∀ e ∈ es, point ≤ e.cut
  /-- no more intervals are closed than are open -/
  balanced : ∀ r, 0 ≤ (depth : Int) + level r es
  /-- all intervals are closed in the end -/
  closed : (depth : Int) + (es.map weight).sum = 0

theorem Walk.opens {depth point p : Nat} {es : List Boundary} (h : Walk depth point (.opens p :: es)) :
    Walk (depth + 1) p es := by
  obtain ⟨hfirst, hrest⟩ := List.pairwise_cons.1 h.sorted
  refine ⟨hrest, fun e he => cut_le_cut (hfirst e he), fun r => ?_, ?_⟩
  · have hb := h.balanced r
    rw [level_cons] at hb
    split at hb
    · simp only [weight] at hb
      push_cast
      omega
    · rw [level_eq_zero fun e he => by have := hfirst e he; omega]
      omega
  · have hc := h.closed
    simp only [List.map_cons, List.sum_cons, weight] at hc
    push_cast
    omega

theorem Walk.depth_pos {depth point p : Nat} {es : List Boundary} (h : Walk depth point (.closes p :: es)) :
    0 < depth := by
  -- no beginning has the rank of this end, so nothing but ends is counted up to it
  have hle (fs : List Boundary) (hf : ∀ f ∈ fs, 2 * p + 1 ≤ f.rank) : level (2 * p + 1) fs ≤ 0 := by
    induction fs with
    | nil => simp
    | cons f fs ih =>
      have := ih fun g hg => hf g (List.mem_cons_of_mem f hg)
      have hr := hf f List.mem_cons_self
      rw [level_cons]
      split
      · cases f with
        | opens q => simp only [rank] at *; omega
        | closes q => simp only [weight]; omega
      · omega
  have hb := h.balanced (2 * p + 1)
  have := hle es (List.pairwise_cons.1 h.sorted).1
  rw [level_cons, if_pos (by simp [rank])] at hb
  simp only [weight] at hb
  omega

theorem Walk.closes {depth point p : Nat} {es : List Boundary} (h : Walk depth point (.closes p :: es)) :
    Walk (depth - 1) (p + 1) es := by
  obtain ⟨hfirst, hrest⟩ := List.pairwise_cons.1 h.sorted
  have hd := h.depth_pos
  refine ⟨hrest, fun e he => cut_le_cut (hfirst e he), fun r => ?_, ?_⟩
  · have hb := h.balanced r
    rw [level_cons] at hb
    split at hb
    · simp only [weight] at hb
      omega
    · rw [level_eq_zero fun e he => by have := hfirst e he; omega]
      omega
  · have hc := h.closed
    simp only [List.map_cons, List.sum_cons, weight] at hc
    omega

/-! ## What the walk emits -/

/-- what `sweep` makes of the ends that are left -/
structure Sweeps (depth point : Nat) (es : List Boundary) (result : List Interval) : Prop where
  ahead : ∀ i ∈ result, point ≤ i.start
  ascending : result.Pairwise fun i j => i.stop < j.start
  covers : ∀ c, (∃ i ∈ result, i.contains c = true) ↔ point ≤ c ∧ 0 < (depth : Int) + level (2 * c) es
  uncut : ∀ i ∈ result, ∀ e ∈ es, ¬(i.start < e.cut ∧ e.cut ≤ i.stop)
  ends : ∀ i ∈ result, ∃ e ∈ es, e.cut = i.stop + 1

/-- one end: the points before its cut are emitted if an interval is open -/
theorem Sweeps.step {depth depth' point : Nat} {e : Boundary} {es : List Boundary} {result : List Interval}
    (hw : Walk depth point (e :: es)) (hd : (depth' : Int) = depth + e.weight) (h : Sweeps depth' e.cut es result) :
    Sweeps depth point (e :: es) (piece depth point e.cut ++ result) := by
  obtain ⟨hfirst, hrest⟩ := List.pairwise_cons.1 hw.sorted
  have hpoint : point ≤ e.cut := hw.ahead e List.mem_cons_self
  have hlater : ∀ f ∈ e :: es, e.cut ≤ f.cut := by
    intro f hf
    rcases List.mem_cons.1 hf with rfl | hf
    · exact Nat.le_refl _
    · exact cut_le_cut (hfirst f hf)
  refine ⟨fun i hi => ?_, ?_, fun c => ?_, fun i hi f hf => ?_, fun i hi => ?_⟩
  · rcases List.mem_append.1 hi with hi | hi
    · have := mem_piece hi
      omega
    · exact hpoint.trans (h.ahead i hi)
  · refine List.pairwise_append.2 ⟨?_, h.ascending, fun i hi j hj => ?_⟩
    · unfold piece
      split <;> simp
    · have := mem_piece hi
      have := h.ahead j hj
      omega
  · simp only [List.mem_append, or_and_right, exists_or, piece_contains_iff, h.covers c, level_cons,
      rank_le_two_mul_iff, hd]
    by_cases hc : e.cut ≤ c
    · simp only [if_pos hc]
      omega
    · have hz : level (2 * c) es = 0 :=
        level_eq_zero fun f hf => Nat.lt_of_not_le fun hr =>
          hc ((cut_le_cut (hfirst f hf)).trans (rank_le_two_mul_iff.1 hr))
      simp only [if_neg hc, hz]
      omega
  · rcases List.mem_append.1 hi with hi' | hi'
    · have := mem_piece hi'
      have := hlater f hf
      omega
    · rcases List.mem_cons.1 hf with rfl | hf
      · have := h.ahead i hi'
        omega
      · exact h.uncut i hi' f hf
  · rcases List.mem_append.1 hi with hi | hi
    · exact ⟨e, List.mem_cons_self, (mem_piece hi).2.2.symm⟩
    · obtain ⟨f, hf, hc⟩ := h.ends i hi
      exact ⟨f, List.mem_cons_of_mem e hf, hc⟩

theorem sweeps_sweep {depth point : Nat} {es : List Boundary} (h : Walk depth point es) :
    Sweeps depth point es (sweep depth (front depth point) es) := by
  induction es generalizing depth point with
  | nil =>
    have : depth = 0 := by simpa using h.closed
    exact ⟨by simp [sweep], by simp [sweep], by simp [sweep, this], by simp [sweep], by simp [sweep]⟩
  | cons e es ih =>
    cases e with
    | opens p =>
      have := Sweeps.step h (by simp [weight]) (ih h.opens)
      rwa [cut, ← closedBefore_front, front_succ] at this
    | closes p =>
      have hd := h.depth_pos
      have := Sweeps.step h (by simp only [weight]; omega) (ih h.closes)
      rwa [cut, ← closedAt_front, front_sub_one] at this

/-! ## The split -/

theorem mem_ordered {is : List Interval} {e : Boundary} :
    e ∈ Boundary.ordered is ↔ ∃ i ∈ is, e = .opens i.start ∨ e = .closes i.stop := by
  simp [Boundary.ordered, List.mem_mergeSort, ofInterval]

theorem pairwise_ordered (is : List Interval) : (Boundary.ordered is).Pairwise fun e f => e.rank ≤ f.rank :=
  pairwise_sort rank (is.flatMap ofInterval)

/-- up to a rank, intervals are opened before they are closed -/
theorem level_ordered (is : List Interval) (r : Nat) :
    level r (Boundary.ordered is) = is.countP fun i => decide (2 * i.start ≤ r ∧ r < 2 * i.stop + 1) := by
  rw [Boundary.ordered, level_perm (List.mergeSort_perm _ _)]
  induction is with
  | nil => rfl
  | cons i is ih =>
    have := i.start_le_stop
    rw [List.flatMap_cons, ofInterval, List.cons_append, List.cons_append, List.nil_append, level_cons, level_cons, ih,
      List.countP_cons]
    simp only [rank, weight, decide_eq_true_eq]
    split_ifs <;> push_cast <;> omega

theorem sum_weight_ordered (is : List Interval) : ((Boundary.ordered is).map weight).sum = 0 := by
  rw [Boundary.ordered, ((List.mergeSort_perm _ _).map _).sum_eq]
  induction is with
  | nil => rfl
  | cons i is ih => simp_all [ofInterval, weight]

theorem walk_ordered (is : List Interval) : Walk 0 0 (Boundary.ordered is) where
  sorted := pairwise_ordered is
  ahead := fun _ _ => Nat.zero_le _
  balanced := fun r => by rw [level_ordered]; omega
  closed := by simp [sum_weight_ordered]

theorem sweeps_split (is : List Interval) : Sweeps 0 0 (Boundary.ordered is) (split is) :=
  sweeps_sweep (walk_ordered is)

theorem split_ascending (is : List Interval) : (split is).Pairwise fun i j => i.stop < j.start :=
  (sweeps_split is).ascending

theorem exists_mem_split_contains_iff {is : List Interval} {c : Nat} :
    (∃ j ∈ split is, j.contains c = true) ↔ ∃ i ∈ is, i.contains c = true := by
  rw [(sweeps_split is).covers c, level_ordered]
  simp only [Nat.zero_le, true_and, Nat.cast_zero, zero_add, Nat.cast_pos, List.countP_pos_iff, decide_eq_true_eq,
    contains_iff]
  exact ⟨fun ⟨i, hi, h⟩ => ⟨i, hi, by omega⟩, fun ⟨i, hi, h⟩ => ⟨i, hi, by omega⟩⟩

/-- no given interval begins or ends inside a member of the split -/
theorem split_uncut {is : List Interval} {i j : Interval} (hj : j ∈ split is) (hi : i ∈ is) :
    ¬(j.start < i.start ∧ i.start ≤ j.stop) ∧ ¬(j.start ≤ i.stop ∧ i.stop < j.stop) := by
  have hs := (sweeps_split is).uncut j hj (.opens i.start) (mem_ordered.2 ⟨i, hi, Or.inl rfl⟩)
  have he := (sweeps_split is).uncut j hj (.closes i.stop) (mem_ordered.2 ⟨i, hi, Or.inr rfl⟩)
  simp only [cut] at hs he
  exact ⟨hs, by omega⟩

/-- behind each member of the split a given interval has ended or another one begins -/
theorem split_ends_at_cut {is : List Interval} {j : Interval} (hj : j ∈ split is) :
    ∃ i ∈ is, i.stop = j.stop ∨ i.start = j.stop + 1 := by
  obtain ⟨e, he, hc⟩ := (sweeps_split is).ends j hj
  obtain ⟨i, hi, rfl | rfl⟩ := mem_ordered.1 he
  · exact ⟨i, hi, Or.inr hc⟩
  · exact ⟨i, hi, Or.inl (by simpa [cut] using hc)⟩

/-- a member of the split that meets a given interval lies inside it -/
theorem within_of_meets {is : List Interval} {i j : Interval} (hj : j ∈ split is) (hi : i ∈ is) {c : Nat}
    (hcj : j.contains c = true) (hci : i.contains c = true) : i.start ≤ j.start ∧ j.stop ≤ i.stop := by
  have := split_uncut hj hi
  rw [contains_iff] at hcj hci
  omega

/-! ## The number of members -/

/-- an end emits one interval at most -/
theorem length_sweep_le (depth : Nat) (opened : Option Nat) (es : List Boundary) :
    (sweep depth opened es).length ≤ es.length := by
  induction es generalizing depth opened with
  | nil => exact Nat.le_refl 0
  | cons e es ih =>
    cases e with
    | opens p =>
      have hone : (closedBefore opened p).length ≤ 1 := by
        unfold closedBefore
        grind
      have := ih (depth + 1) (some p)
      simp only [sweep, List.length_append, List.length_cons]
      omega
    | closes p =>
      have hone : (closedAt opened p).length ≤ 1 := by
        unfold closedAt
        grind
      have := ih (depth - 1) (if 1 < depth then some (p + 1) else none)
      simp only [sweep, List.length_append, List.length_cons]
      omega

theorem length_ordered (is : List Interval) : (Boundary.ordered is).length = 2 * is.length := by
  rw [Boundary.ordered, List.length_mergeSort]
  induction is with
  | nil => rfl
  | cons i is ih =>
    rw [List.flatMap_cons, List.length_append, ih, ofInterval]
    simp only [List.length_cons, List.length_nil]
    omega

/-- the first end emits nothing, so there are fewer members than ends -/
theorem length_split_le (is : List Interval) : (split is).length ≤ 2 * is.length - 1 := by
  rw [← length_ordered, split]
  cases Boundary.ordered is with
  | nil => exact Nat.le_refl 0
  | cons e es =>
    cases e with
    | opens p => exact length_sweep_le 1 (some p) es
    | closes p => exact length_sweep_le 0 none es

end Interval

end Munch
