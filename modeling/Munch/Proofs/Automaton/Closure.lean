/-
The sets of states that are reached without input and on one symbol.

Both are collected with marks on a clean scratch, and leave it clean. While moves without input are followed
(`Scratch.Draining`), every state found has been reached, and a state that is not on the stack any more has had its moves
followed.

Results:
- `move_clean`: `Scratch.move` gives, in ascending order, the targets of the moves on the symbol.
- `closure_clean`: `Scratch.closure` gives, in ascending order, the states that are reached without input.
-/
import Mathlib.Tactic
import Munch.Automaton.Scratch
import Munch.Proofs.Automaton.Marks
import Munch.Proofs.Automaton.Run
import Munch.Proofs.Sorted

namespace Munch

open Refinement (mark)

namespace Scratch

variable {m : Automaton} {n : Nat} {s : Scratch} {found qs : List Nat}

/-- a set in ascending order with the states of `S`, and a clean scratch -/
structure Collected (n : Nat) (r : List Nat × Scratch) (S : Nat → Prop) : Prop where
  ascending : r.1.Pairwise (· < ·)
  mem_iff : ∀ {q}, q ∈ r.1 ↔ S q
  clean : r.2 = clean n

theorem collected_finish {S : Nat → Prop} (h : Marks n (s.marks, found) S) (hs : s.stack = []) :
    Collected n (finish (s, found)) S := by
  have hperm := List.mergeSort_perm found fun p q => decide (p ≤ q)
  have hsorted : (found.mergeSort fun p q => decide (p ≤ q)).Pairwise (· ≤ ·) := pairwise_sort id found
  have hnd : (found.mergeSort fun p q => decide (p ≤ q)).Nodup := hperm.nodup_iff.2 h.nodup
  refine ⟨?_, hperm.mem_iff.trans h.mem_iff, ?_⟩
  · exact hsorted.imp₂ (fun _ _ => Nat.lt_of_le_of_ne) hnd
  · have := unmark_eq h.size_eq fun q hq => h.mem_iff.2 (h.marked_iff.1 hq)
    simp only [finish, unmark, clean, Scratch.mk.injEq]
    exact ⟨this, hs⟩

/-! ## Moves on a symbol -/

theorem note_eq (s : Scratch) (found : List Nat) (q : Nat) : s.note found q =
    ({ s with marks := (mark (s.marks, found) q).1 }, (mark (s.marks, found) q).2) := by
  unfold note mark
  split <;> rfl

theorem noteAll_eq (s : Scratch) (found qs : List Nat) : s.noteAll found qs =
    ({ s with marks := (qs.foldl mark (s.marks, found)).1 }, (qs.foldl mark (s.marks, found)).2) := by
  unfold noteAll
  induction qs generalizing s found with
  | nil => rfl
  | cons q qs ih => rw [List.foldl_cons, note_eq, ih, List.foldl_cons]

/-- the states that `qs` reach by one move on a symbol -/
theorem move_clean (hm : m.Closed) (qs : List Nat) (a : Nat) :
    Collected m.stateCount ((clean m.stateCount).move m qs a) fun q => ∃ p ∈ qs, m.moves p (.symbol a) q := by
  have hmem {q : Nat} : q ∈ (qs.flatMap fun q => m.targets q a) ↔ ∃ p ∈ qs, m.moves p (.symbol a) q := by
    simp only [List.mem_flatMap, Automaton.mem_targets_iff hm.ascending]
  have hmarks := marks_foldl_mark (l := qs.flatMap fun q => m.targets q a)
    (fun q hq => by obtain ⟨p, -, hp⟩ := hmem.1 hq; exact hm.target_lt hp) (marks_clean m.stateCount)
  simp only [hmem, false_or] at hmarks
  rw [move, noteAll_eq]
  exact collected_finish hmarks rfl

/-! ## Moves without input -/

/-- what pushing the states `qs` does -/
structure Pushed (n : Nat) (qs : List Nat) (r r' : Scratch × List Nat) : Prop where
  marks : Marks n (r'.1.marks, r'.2) fun q => q ∈ r.2 ∨ q ∈ qs
  kept : r.1.stack ⊆ r'.1.stack
  stack : ∀ {q}, q ∈ r'.1.stack → q ∈ r.1.stack ∨ q ∈ r'.2
  fresh : ∀ {q}, q ∈ r'.2 → q ∈ r.2 ∨ q ∈ r'.1.stack

theorem push_eq (s : Scratch) (found : List Nat) (q : Nat) : s.push found q =
    ({ marks := (mark (s.marks, found) q).1, stack := if s.marks[q]? = some false then q :: s.stack else s.stack },
      (mark (s.marks, found) q).2) := by
  unfold push mark
  split <;> rfl

theorem pushed_push (h : Marks n (s.marks, found) (· ∈ found)) {q : Nat} (hq : q < n) :
    Pushed n [q] (s, found) (s.push found q) := by
  have hm := marks_mark h hq
  rw [push_eq]
  refine ⟨by simpa using hm, fun x hx => ?_, fun {x} hx => ?_, fun {x} hx => ?_⟩
  · simp only
    split
    · exact List.mem_cons_of_mem q hx
    · exact hx
  · simp only at hx ⊢
    split at hx
    · rcases List.mem_cons.1 hx with rfl | hx
      · exact Or.inr (hm.mem_iff.2 (Or.inr rfl))
      · exact Or.inl hx
    · exact Or.inl hx
  · unfold mark at hx
    split at hx
    case isTrue hf =>
      rcases List.mem_cons.1 hx with rfl | hx
      · exact Or.inr (by simp only at hf; simp [hf])
      · exact Or.inl hx
    case isFalse => exact Or.inl hx

theorem Pushed.trans {ps qs : List Nat} {r r' r'' : Scratch × List Nat} (h : Pushed n ps r r') (h' : Pushed n qs r' r'') :
    Pushed n (ps ++ qs) r r'' := by
  have hfound {q : Nat} : q ∈ r'.2 → q ∈ r''.2 := fun hq => h'.marks.mem_iff.2 (Or.inl hq)
  refine ⟨?_, List.Subset.trans h.kept h'.kept, fun hq => ?_, fun hq => ?_⟩
  · have hS : (fun q => q ∈ r.2 ∨ q ∈ ps ++ qs) = fun q => q ∈ r'.2 ∨ q ∈ qs := by
      funext q
      rw [List.mem_append, ← or_assoc, ← h.marks.mem_iff]
    rw [hS]
    exact h'.marks
  · rcases h'.stack hq with hq | hq
    · exact (h.stack hq).imp_right hfound
    · exact Or.inr hq
  · rcases h'.fresh hq with hq | hq
    · exact (h.fresh hq).imp_right fun hq => h'.kept hq
    · exact Or.inr hq

theorem pushed_pushAll (h : Marks n (s.marks, found) (· ∈ found)) (hqs : ∀ q ∈ qs, q < n) :
    Pushed n qs (s, found) (s.pushAll found qs) := by
  unfold pushAll
  induction qs generalizing s found with
  | nil => exact ⟨by simpa using h, fun _ hx => hx, Or.inl, Or.inl⟩
  | cons q qs ih =>
    have hpush := pushed_push h (hqs q List.mem_cons_self)
    exact hpush.trans (ih hpush.marks.self fun x hx => hqs x (List.mem_cons_of_mem q hx))

/-- what holds while the moves without input are followed from the states `qs` on -/
structure Draining (m : Automaton) (qs : List Nat) (r : Scratch × List Nat) : Prop where
  marks : Marks m.stateCount (r.1.marks, r.2) (· ∈ r.2)
  stack : ∀ {q}, q ∈ r.1.stack → q ∈ r.2
  first : qs ⊆ r.2
  reached : ∀ {q}, q ∈ r.2 → ∃ p ∈ qs, m.Reads p [] q
  followed : ∀ {p q}, p ∈ r.2 → p ∉ r.1.stack → m.moves p .epsilon q → q ∈ r.2

/-- following the moves of the state on top of the stack -/
theorem Draining.follow (hm : m.Closed) {q : Nat} {rest : List Nat} (h : Draining m qs (s, found))
    (hs : s.stack = q :: rest) :
    Draining m qs (pushAll { s with stack := rest } found (m.epsilonTargets q)) := by
  have hmem {r : Nat} : r ∈ m.epsilonTargets q ↔ m.moves q .epsilon r := Automaton.mem_epsilonTargets_iff hm.ascending
  have hp := pushed_pushAll (s := { s with stack := rest }) h.marks fun r hr => hm.target_lt (hmem.1 hr)
  have hq : q ∈ found := h.stack (by rw [hs]; exact List.mem_cons_self)
  refine ⟨hp.marks.self, fun hx => ?_, fun x hx => hp.marks.mem_iff.2 (Or.inl (h.first hx)), fun hx => ?_,
    fun {x y} hx hxs hxy => hp.marks.mem_iff.2 ?_⟩
  · rcases hp.stack hx with hx | hx
    · exact hp.marks.mem_iff.2 (Or.inl (h.stack (by rw [hs]; exact List.mem_cons_of_mem q hx)))
    · exact hx
  · rcases hp.marks.mem_iff.1 hx with hx | hx
    · exact h.reached hx
    · obtain ⟨p, hp, hread⟩ := h.reached hq
      exact ⟨p, hp, hread.trans (Path.skip (hmem.1 hx) .done)⟩
  · by_cases hxq : x = q
    · subst hxq
      exact Or.inr (hmem.2 hxy)
    · -- a state below the top of the stack is still on it, and a state found just now is
      rcases hp.fresh hx with hx | hx
      · refine Or.inl (h.followed hx (fun hx' => hxs (hp.kept ?_)) hxy)
        rw [hs] at hx'
        exact (List.mem_cons.1 hx').resolve_left hxq
      · exact absurd hx hxs

theorem draining_drain (hm : m.Closed) (h : Draining m qs (s, found)) :
    Draining m qs (drain m s found) ∧ (drain m s found).1.stack = [] := by
  induction s, found using drain.induct m with
  | case1 s found hs =>
    rw [drain, hs]
    exact ⟨h, hs⟩
  | case2 s found q rest hs r ih =>
    rw [drain, hs]
    exact ih (h.follow hm hs)

/-- when the stack is empty, all states that are reached without input have been found -/
theorem Draining.mem_iff {r : Scratch × List Nat} (h : Draining m qs r) (hs : r.1.stack = []) {q : Nat} :
    q ∈ r.2 ↔ ∃ p ∈ qs, m.Reads p [] q := by
  refine ⟨h.reached, ?_⟩
  rintro ⟨p, hp, hread⟩
  have hclosed {p q : Nat} (hp : p ∈ r.2) (hm : m.moves p .epsilon q) : q ∈ r.2 :=
    h.followed hp (by simp [hs]) hm
  have hp' := h.first hp
  clear hp
  generalize hw : ([] : List Nat) = w at hread
  induction hread with
  | done => exact hp'
  | @step p q r l w hm _ ih =>
    obtain ⟨hl, hw'⟩ := List.append_eq_nil_iff.1 hw.symm
    cases l with
    | epsilon => exact ih (hclosed hp' hm) hw'.symm
    | symbol a => cases hl

/-- the states `qs` are on the stack, and their moves have still to be followed -/
theorem draining_pushAll (hqs : ∀ q ∈ qs, q < m.stateCount) :
    Draining m qs ((clean m.stateCount).pushAll [] qs) := by
  have hp := pushed_pushAll (s := clean m.stateCount) (marks_clean m.stateCount).self hqs
  refine ⟨hp.marks.self, fun hq => ?_, fun q hq => hp.marks.mem_iff.2 (Or.inr hq), fun hq => ?_,
    fun {p q} hpf hps hm => ?_⟩
  · exact (hp.stack hq).resolve_left List.not_mem_nil
  · have hq := (hp.marks.mem_iff.1 hq).resolve_left List.not_mem_nil
    exact ⟨_, hq, .done⟩
  · exact absurd ((hp.fresh hpf).resolve_left List.not_mem_nil) hps

/-- the states that `qs` reach without input -/
theorem closure_clean (hm : m.Closed) (hqs : ∀ q ∈ qs, q < m.stateCount) :
    Collected m.stateCount ((clean m.stateCount).closure m qs) fun q => ∃ p ∈ qs, m.Reads p [] q := by
  obtain ⟨hd, hs⟩ := draining_drain hm (draining_pushAll hqs)
  have hmarks := hd.marks
  simp only [hd.mem_iff hs] at hmarks
  exact collected_finish hmarks hs

end Scratch

end Munch
