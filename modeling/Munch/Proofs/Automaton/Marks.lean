/-
Marks on states.

Sets of states are collected with a mark for each state that is in the set already, and the marks are taken back when the
set is complete. `Marks` says that the marks and the list of the states found so far agree.

Results:
- `marks_foldl_mark`: each state of a list is found once, and marked.
- `unmark_eq`: when the marks of all states found are taken back, no mark is left.
-/
import Mathlib.Tactic
import Munch.Automaton.Refinement

namespace Munch

open Refinement (mark)

/-- whether a state has a mark -/
def Marked (marked : Array Bool) (q : Nat) : Prop :=
  (marked[q]?).getD false = true

/-- the marked states, which are also listed once each, are those of `S` -/
structure Marks (n : Nat) (r : Array Bool × List Nat) (S : Nat → Prop) : Prop where
  size_eq : r.1.size = n
  nodup : r.2.Nodup
  mem_iff : ∀ {q}, q ∈ r.2 ↔ S q
  marked_iff : ∀ {q}, Marked r.1 q ↔ S q

theorem Marks.self {n : Nat} {r : Array Bool × List Nat} {S : Nat → Prop} (h : Marks n r S) : Marks n r (· ∈ r.2) :=
  ⟨h.size_eq, h.nodup, Iff.rfl, h.marked_iff.trans h.mem_iff.symm⟩

/-- only states have marks -/
theorem Marks.lt {n : Nat} {r : Array Bool × List Nat} {S : Nat → Prop} (h : Marks n r S) {q : Nat} (hq : S q) :
    q < n := by
  by_contra hle
  have hm := h.marked_iff.2 hq
  rw [Marked, Array.getElem?_eq_none (h.size_eq ▸ Nat.not_lt.1 hle)] at hm
  cases hm

theorem marks_mark {n : Nat} {r : Array Bool × List Nat} {S : Nat → Prop} (h : Marks n r S) {q : Nat} (hq : q < n) :
    Marks n (mark r q) fun x => S x ∨ x = q := by
  have hlt : q < r.1.size := h.size_eq ▸ hq
  have hget : r.1[q]? = some r.1[q] := Array.getElem?_eq_getElem hlt
  have hm := h.marked_iff (q := q)
  unfold mark
  split
  case isTrue hf =>
    have hn : ¬S q := fun hs => by
      have := hm.2 hs
      rw [Marked, hf] at this
      cases this
    refine ⟨by simpa using h.size_eq, ?_, fun {x} => ?_, fun {x} => ?_⟩
    · exact List.nodup_cons.2 ⟨fun hx => hn (h.mem_iff.1 hx), h.nodup⟩
    · rw [List.mem_cons, h.mem_iff, or_comm]
    · rw [← h.marked_iff]
      simp only [Marked, Array.getElem?_setIfInBounds]
      by_cases hx : q = x
      · subst hx
        simp [hlt]
      · have : ¬x = q := fun e => hx e.symm
        simp [hx, this]
  case isFalse hf =>
    have hs : S q := hm.1 (by
      cases hv : r.1[q] with
      | true => rw [Marked, hget, hv]; rfl
      | false => exact absurd (hget.trans (by rw [hv])) hf)
    have hor (x : Nat) : S x ↔ S x ∨ x = q := ⟨Or.inl, fun hx => hx.elim id fun e => e ▸ hs⟩
    exact ⟨h.size_eq, h.nodup, h.mem_iff.trans (hor _), h.marked_iff.trans (hor _)⟩

theorem marks_foldl_mark {n : Nat} {l : List Nat} (hl : ∀ q ∈ l, q < n) {r : Array Bool × List Nat} {S : Nat → Prop}
    (h : Marks n r S) : Marks n (l.foldl mark r) fun x => S x ∨ x ∈ l := by
  induction l generalizing r S with
  | nil => simpa using h
  | cons q l ih =>
    have := ih (fun x hx => hl x (List.mem_cons_of_mem q hx)) (marks_mark h (hl q List.mem_cons_self))
    simpa only [List.foldl_cons, List.mem_cons, or_assoc] using this

theorem not_marked_clean (n q : Nat) : ¬Marked (Array.replicate n false) q := by
  rw [Marked, Array.getElem?_replicate]
  split <;> exact Bool.false_ne_true

theorem marks_clean (n : Nat) : Marks n (Array.replicate n false, []) fun _ => False :=
  ⟨by simp, List.nodup_nil, by simp, fun {q} => by simpa using not_marked_clean n q⟩

/-- when the marks of all marked states are taken away, none is left -/
theorem unmark_eq {n : Nat} {marked : Array Bool} {found : List Nat} (hs : marked.size = n)
    (h : ∀ q, Marked marked q → q ∈ found) :
    found.foldl (fun marked q => marked.setIfInBounds q false) marked = Array.replicate n false := by
  induction found generalizing marked with
  | nil =>
    refine Array.ext (by simpa using hs) fun q hq _ => ?_
    rw [Array.getElem_replicate]
    by_contra hf
    refine List.not_mem_nil (h q ?_)
    have hq' : q < marked.size := hq
    have : marked[q] = true := by simpa using hf
    simp [Marked, hq', this]
  | cons r found ih =>
    rw [List.foldl_cons]
    refine ih (by simpa using hs) fun q hq => ?_
    rw [Marked, Array.getElem?_setIfInBounds] at hq
    split at hq
    case isTrue => split at hq <;> cases hq
    case isFalse hne =>
      rcases List.mem_cons.1 (h q hq) with rfl | hm
      · exact absurd rfl hne
      · exact hm

end Munch
