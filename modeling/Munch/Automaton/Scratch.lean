/-
Sets of states, collected with the help of marks.

A `Scratch` has a mark for each state, which says whether the state is already in the set being collected, and a stack of
states whose moves have still to be followed. Both questions, for the states that can be reached without input and for
those that are reached on a symbol, leave all marks and the stack as they found them: unset and empty.
-/
import Munch.Automaton.Basic

namespace Munch

/-- marks for the states of an automaton, and a stack of states -/
structure Scratch where
  marks : Array Bool
  stack : List Nat := []
  deriving DecidableEq, Repr

namespace Scratch

/-- no state is marked, and the stack is empty -/
def clean (stateCount : Nat) : Scratch :=
  { marks := Array.replicate stateCount false }

/-- the number of states without a mark -/
def unmarked (s : Scratch) : Nat :=
  s.marks.count false

/-- mark `q` and put it on the stack and in front of the set, unless it is marked -/
def push (s : Scratch) (found : List Nat) (q : Nat) : Scratch × List Nat :=
  if s.marks[q]? = some false then
    ({ marks := s.marks.setIfInBounds q true, stack := q :: s.stack }, q :: found)
  else (s, found)

/-- mark `q` and put it in front of the set, unless it is marked -/
def note (s : Scratch) (found : List Nat) (q : Nat) : Scratch × List Nat :=
  if s.marks[q]? = some false then ({ s with marks := s.marks.setIfInBounds q true }, q :: found)
  else (s, found)

/-- push all given states -/
def pushAll (s : Scratch) (found : List Nat) (qs : List Nat) : Scratch × List Nat :=
  qs.foldl (fun r q => r.1.push r.2 q) (s, found)

/-- note all given states -/
def noteAll (s : Scratch) (found : List Nat) (qs : List Nat) : Scratch × List Nat :=
  qs.foldl (fun r q => r.1.note r.2 q) (s, found)

/-- what bounds the work that is left: each state without a mark may still be pushed, and each state on the stack has to
be popped -/
def work (s : Scratch) : Nat :=
  2 * s.unmarked + s.stack.length

theorem unmarked_set {marks : Array Bool} {q : Nat} (h : marks[q]? = some false) :
    (marks.setIfInBounds q true).count false + 1 = marks.count false := by
  obtain ⟨hq, hv⟩ := Array.getElem?_eq_some_iff.1 h
  have hpos : 0 < marks.count false := Array.count_pos_iff.2 (hv ▸ Array.getElem_mem hq)
  rw [Array.setIfInBounds, dif_pos hq, Array.count_set]
  simp [hv]
  omega

theorem work_push_le (s : Scratch) (found : List Nat) (q : Nat) : (s.push found q).1.work ≤ s.work := by
  unfold push
  split
  case isTrue h =>
    have := unmarked_set h
    simp only [work, unmarked, List.length_cons]
    omega
  case isFalse => exact Nat.le_refl _

theorem work_pushAll_le (s : Scratch) (found : List Nat) (qs : List Nat) : (s.pushAll found qs).1.work ≤ s.work := by
  unfold pushAll
  induction qs generalizing s found with
  | nil => exact Nat.le_refl _
  | cons q rest ih => exact Nat.le_trans (ih _ _) (work_push_le s found q)

/-- follow the moves without input of all states on the stack, and of those found on the way -/
def drain (m : Automaton) (s : Scratch) (found : List Nat) : Scratch × List Nat :=
  match _h : s.stack with
  | [] => (s, found)
  | q :: rest =>
    let r := pushAll { s with stack := rest } found (m.epsilonTargets q)
    drain m r.1 r.2
termination_by s.work
decreasing_by
  have := work_pushAll_le { s with stack := rest } found (m.epsilonTargets q)
  simp only [work, unmarked, _h, List.length_cons] at this ⊢
  omega

/-- take the marks of the given states away -/
def unmark (s : Scratch) (qs : List Nat) : Scratch :=
  { s with marks := qs.foldl (fun marks q => marks.setIfInBounds q false) s.marks }

/-- a set in ascending order, with the marks of its members taken away -/
def finish (r : Scratch × List Nat) : List Nat × Scratch :=
  (r.2.mergeSort fun p q => decide (p ≤ q), r.1.unmark r.2)

/-- the states that the given ones reach without input -/
def closure (m : Automaton) (s : Scratch) (qs : List Nat) : List Nat × Scratch :=
  let r := s.pushAll [] qs
  finish (drain m r.1 r.2)

/-- the states that the given ones reach by one move on a symbol -/
def move (m : Automaton) (s : Scratch) (qs : List Nat) (symbol : Nat) : List Nat × Scratch :=
  finish (s.noteAll [] (qs.flatMap fun q => m.targets q symbol))

end Scratch

end Munch
