/-
Lists sorted by a key.

A list that is sorted by a key is cut into pieces where the key changes.

Results:
- `pairwise_sort`: keys do not fall in a sorted list.
- `exists_group_iff`: the pieces of a sorted list, cut where the key changes, are the classes of the key.
-/
import Mathlib.Tactic
import Mathlib.Data.List.SplitBy

namespace Munch

variable {α : Type} {key : α → Nat} {same : α → α → Bool}

theorem pairwise_sort (key : α → Nat) (l : List α) :
    (l.mergeSort fun x y => decide (key x ≤ key y)).Pairwise fun x y => key x ≤ key y := by
  have htrans (x y z : α) (hxy : decide (key x ≤ key y) = true) (hyz : decide (key y ≤ key z) = true) :
      decide (key x ≤ key z) = true :=
    decide_eq_true ((of_decide_eq_true hxy).trans (of_decide_eq_true hyz))
  have htotal (x y : α) : (decide (key x ≤ key y) || decide (key y ≤ key x)) = true := by
    simpa using Nat.le_total (key x) (key y)
  exact (List.pairwise_mergeSort htrans htotal l).imp fun h => of_decide_eq_true h

/-! ## Pieces -/

theorem key_eq_of_mem_group (hsame : ∀ x y, same x y = true ↔ key x = key y) {l g : List α} (hg : g ∈ l.splitBy same)
    {x y : α} (hx : x ∈ g) (hy : y ∈ g) : key x = key y := by
  have hc : g.Pairwise fun x y => key x = key y := by
    refine List.IsChain.pairwise ?_
    exact (List.isChain_of_mem_splitBy hg).imp fun x y h => (hsame x y).1 h
  exact List.Pairwise.forall_of_forall_of_flip (R := fun x y => key x = key y) (fun _ _ => rfl) hc
    (hc.imp fun h => h.symm) hx hy

/-- keys grow strictly from piece to piece -/
theorem groups_ascend {gs : List (List α)} (hne : [] ∉ gs) (heq : ∀ g ∈ gs, ∀ x ∈ g, ∀ y ∈ g, key x = key y)
    (hsorted : gs.flatten.Pairwise fun x y => key x ≤ key y)
    (hcut : gs.IsChain fun g h => ∃ hg hh, key (g.getLast hg) ≠ key (h.head hh)) :
    gs.Pairwise fun g h => ∀ x ∈ g, ∀ y ∈ h, key x < key y := by
  induction gs with
  | nil => exact List.Pairwise.nil
  | cons g gs ih =>
    rw [List.flatten_cons, List.pairwise_append] at hsorted
    obtain ⟨-, hrest, hle⟩ := hsorted
    have hrec := ih (fun h => hne (List.mem_cons_of_mem g h)) (fun h hh => heq h (List.mem_cons_of_mem g hh)) hrest
      hcut.tail
    refine List.pairwise_cons.2 ⟨fun h hh x hx y hy => ?_, hrec⟩
    cases gs with
    | nil => cases hh
    | cons first gs =>
      obtain ⟨hg, hf, hcutf⟩ := (List.isChain_cons_cons.1 hcut).1
      have hlast := g.getLast_mem hg
      have hhead := first.head_mem hf
      have h1 := heq g List.mem_cons_self x hx _ hlast
      have h2 : key (g.getLast hg) ≤ key (first.head hf) :=
        hle _ hlast _ (List.mem_flatten.2 ⟨first, List.mem_cons_self, hhead⟩)
      have h3 : key (first.head hf) ≤ key y := by
        rcases List.mem_cons.1 hh with rfl | hh
        · exact Nat.le_of_eq (heq h (List.mem_cons_of_mem g List.mem_cons_self) _ hhead y hy)
        · exact Nat.le_of_lt ((List.pairwise_cons.1 hrec).1 h hh _ hhead y hy)
      omega

/-- the pieces of a sorted list, cut where the key changes, are the classes of the key -/
theorem exists_group_iff (hsame : ∀ x y, same x y = true ↔ key x = key y) {l : List α}
    (hl : l.Pairwise fun x y => key x ≤ key y) {x y : α} (hx : x ∈ l) (hy : y ∈ l) :
    (∃ g ∈ l.splitBy same, x ∈ g ∧ y ∈ g) ↔ key x = key y := by
  constructor
  · rintro ⟨g, hg, hxg, hyg⟩
    exact key_eq_of_mem_group hsame hg hxg hyg
  · intro he
    have hcut : (l.splitBy same).IsChain fun g h => ∃ hg hh, key (g.getLast hg) ≠ key (h.head hh) := by
      refine (List.isChain_getLast_head_splitBy same l).imp fun g h => ?_
      rintro ⟨hg, hh, hf⟩
      exact ⟨hg, hh, fun heq => by rw [(hsame _ _).2 heq] at hf; cases hf⟩
    have hasc := groups_ascend (List.nil_notMem_splitBy same l)
      (fun g hg x hx y hy => key_eq_of_mem_group hsame hg hx hy) (by rwa [List.flatten_splitBy]) hcut
    rw [← List.flatten_splitBy same l] at hx hy
    obtain ⟨g, hg, hxg⟩ := List.mem_flatten.1 hx
    obtain ⟨h, hh, hyh⟩ := List.mem_flatten.1 hy
    by_cases hgh : g = h
    · subst hgh
      exact ⟨g, hg, hxg, hyh⟩
    · obtain ⟨i, hi, rfl⟩ := List.mem_iff_getElem.1 hg
      obtain ⟨j, hj, rfl⟩ := List.mem_iff_getElem.1 hh
      rcases Nat.lt_trichotomy i j with hij | hij | hij
      · have := List.pairwise_iff_getElem.1 hasc i j hi hj hij x hxg y hyh
        omega
      · subst hij
        exact absurd rfl hgh
      · have := List.pairwise_iff_getElem.1 hasc j i hj hi hij y hyh x hxg
        omega

end Munch
