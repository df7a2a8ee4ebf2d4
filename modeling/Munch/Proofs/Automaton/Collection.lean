/-
Sets of states, collected one after the other with the same scratch.

`Scratch.closureWithin` and `Scratch.moveWithin` collect a set step by step: every state that is looked up has to be there,
with a mark, and the loop that follows the moves without input is run for a number of rounds. `Query` is a question for
either set, and `answers` are the answers to questions in a row, where each one finds the scratch as the last one left it.

Results:
- `length_pushAll`: what is found is put on the stack, so the loop has a round for each state of the set.
- `drainWithin_eq`, `closureWithin_eq`, `moveWithin_eq`: nothing is looked up that is not there, and so many rounds are
  enough.
- `Query.collected`: an answer is the set that was asked for, and the scratch is clean again.
- `collect_exact`: so every sequence of questions is answered as if each one had a scratch of its own.
-/
import Mathlib.Tactic
import Munch.Proofs.Automaton.Closure

namespace Munch

/-- the moves without input -/
def Automaton.Skips (m : Automaton) (p q : Nat) : Prop :=
  m.moves p .epsilon q

/-- what is read without input is a chain of moves without input -/
theorem Automaton.reads_nil_iff {m : Automaton} {p q : Nat} : m.Reads p [] q ↔ Relation.ReflTransGen m.Skips p q := by
  constructor
  · intro h
    generalize hw : ([] : List Nat) = w at h
    induction h with
    | done => exact .refl
    | @step p q r l w hm _ ih =>
      obtain ⟨hl, hw'⟩ := List.append_eq_nil_iff.1 hw.symm
      cases l with
      | epsilon => exact .head hm (ih hw'.symm)
      | symbol a => cases hl
  · intro h
    induction h using Relation.ReflTransGen.head_induction_on with
    | refl => exact .done
    | head hm _ ih => exact Path.skip hm ih

namespace Scratch

/-! ## Checked steps and counted rounds -/

/-- a step for each of some states, which all have to have a mark -/
def eachWithin (step : Scratch → List Nat → Nat → Scratch × List Nat) (r : Scratch × List Nat) (qs : List Nat) :
    Except Fault (Scratch × List Nat) :=
  qs.foldlM (fun r q => if q < r.1.marks.size then .ok (step r.1 r.2 q) else .error .outOfRange) r

/-- follow the moves without input of the states on the stack, one state in a round; `none` if there are more states than
rounds -/
def drainWithin (m : Automaton) (rounds : Nat) (r : Scratch × List Nat) :
    Except Fault (Option (Scratch × List Nat)) :=
  match rounds, r.1.stack with
  | _, [] => .ok (some r)
  | 0, _ :: _ => .ok none
  | rounds + 1, q :: rest =>
    if q < m.stateCount then do
      let r ← eachWithin push ({ r.1 with stack := rest }, r.2) (m.epsilonTargets q)
      drainWithin m rounds r
    else .error .outOfRange

/-- a set in ascending order; the marks of its members, which have to be there, are taken away -/
def finishWithin (r : Scratch × List Nat) : Except Fault (List Nat × Scratch) :=
  if ∀ q ∈ r.2, q < r.1.marks.size then .ok (finish r) else .error .outOfRange

/-- the states that the given ones reach without input, found in a number of rounds -/
def closureWithin (m : Automaton) (rounds : Nat) (s : Scratch) (qs : List Nat) :
    Except Fault (Option (List Nat × Scratch)) := do
  let r ← eachWithin push (s, []) qs
  match ← drainWithin m rounds r with
  | none => return none
  | some r => return some (← finishWithin r)

/-- the states that the given ones reach by one move on a symbol -/
def moveWithin (m : Automaton) (s : Scratch) (qs : List Nat) (symbol : Nat) : Except Fault (List Nat × Scratch) := do
  let r ← qs.foldlM (fun r q =>
    if q < m.stateCount then eachWithin note r (m.targets q symbol) else .error .outOfRange) (s, [])
  finishWithin r

variable {m : Automaton} {n : Nat} {s : Scratch} {found qs : List Nat}

theorem size_marks_push (s : Scratch) (found : List Nat) (q : Nat) : (s.push found q).1.marks.size = s.marks.size := by
  unfold push
  split <;> simp

theorem size_marks_note (s : Scratch) (found : List Nat) (q : Nat) : (s.note found q).1.marks.size = s.marks.size := by
  unfold note
  split <;> simp

/-- steps that keep the marks are made for all states that have one -/
theorem eachWithin_eq {step : Scratch → List Nat → Nat → Scratch × List Nat}
    (hstep : ∀ s found q, (step s found q).1.marks.size = s.marks.size) {r : Scratch × List Nat}
    (hqs : ∀ q ∈ qs, q < r.1.marks.size) :
    eachWithin step r qs = .ok (qs.foldl (fun r q => step r.1 r.2 q) r) := by
  induction qs generalizing r with
  | nil => rfl
  | cons q qs ih =>
    obtain ⟨hq, hqs⟩ := List.forall_mem_cons.1 hqs
    have hrest := ih (r := step r.1 r.2 q) (by rwa [hstep])
    rw [eachWithin, List.foldlM_cons, if_pos hq]
    exact hrest

/-! ## Rounds -/

theorem pushAll_cons (s : Scratch) (found : List Nat) (q : Nat) (qs : List Nat) :
    s.pushAll found (q :: qs) = (s.push found q).1.pushAll (s.push found q).2 qs := rfl

/-- a state that is found is put on the stack -/
theorem length_push (s : Scratch) (found : List Nat) (q : Nat) :
    (s.push found q).2.length + s.stack.length = found.length + (s.push found q).1.stack.length := by
  unfold push
  split
  · simp only [List.length_cons]
    omega
  · rfl

theorem length_pushAll (s : Scratch) (found qs : List Nat) :
    (s.pushAll found qs).2.length + s.stack.length = found.length + (s.pushAll found qs).1.stack.length := by
  induction qs generalizing s found with
  | nil => rfl
  | cons q qs ih =>
    have hpush := length_push s found q
    have hrest := ih (s.push found q).1 (s.push found q).2
    rw [pushAll_cons]
    omega

theorem length_le_pushAll (s : Scratch) (found qs : List Nat) : found.length ≤ (s.pushAll found qs).2.length := by
  induction qs generalizing s found with
  | nil => exact Nat.le_refl _
  | cons q qs ih =>
    have hpush : found.length ≤ (s.push found q).2.length := by
      unfold push
      split
      · exact Nat.le_succ _
      · exact Nat.le_refl _
    exact hpush.trans (ih _ _)

theorem length_le_drain (m : Automaton) (s : Scratch) (found : List Nat) :
    found.length ≤ (drain m s found).2.length := by
  induction s, found using drain.induct m with
  | case1 s found hs => rw [drain, hs]
  | case2 s found q rest hs r ih =>
    rw [drain, hs]
    exact (length_le_pushAll _ _ _).trans ih

theorem drainWithin_nil (hs : s.stack = []) (rounds : Nat) : drainWithin m rounds (s, found) = .ok (some (s, found)) := by
  unfold drainWithin
  simp [hs]

theorem drainWithin_zero {q : Nat} {rest : List Nat} (hs : s.stack = q :: rest) :
    drainWithin m 0 (s, found) = .ok none := by
  unfold drainWithin
  simp [hs]

theorem drainWithin_succ {q : Nat} {rest : List Nat} (hs : s.stack = q :: rest) (hq : q < m.stateCount)
    (htargets : ∀ r ∈ m.epsilonTargets q, r < s.marks.size) (rounds : Nat) :
    drainWithin m (rounds + 1) (s, found) =
      drainWithin m rounds (pushAll { s with stack := rest } found (m.epsilonTargets q)) := by
  have heach := eachWithin_eq size_marks_push (r := ({ s with stack := rest }, found)) htargets
  conv_lhs => unfold drainWithin
  simp only [hs, if_pos hq, heach]
  rfl

/-- The loop has a round for each state on the stack and for each one that is still to be found. It looks nothing up that is
not there. -/
theorem drainWithin_eq (hm : m.Closed) (h : Draining m qs (s, found)) (rounds : Nat) :
    drainWithin m rounds (s, found) = .ok (if (drain m s found).2.length + s.stack.length ≤ rounds + found.length
      then some (drain m s found) else none) := by
  induction s, found using drain.induct m generalizing rounds with
  | case1 s found hs =>
    have hdrain : drain m s found = (s, found) := by rw [drain, hs]
    rw [drainWithin_nil hs, hdrain, hs, if_pos (by simp)]
  | case2 s found q rest hs r ih =>
    have hdrain : drain m s found = drain m r.1 r.2 := by rw [drain, hs]
    have hle := length_le_drain m r.1 r.2
    have hlen : r.2.length + rest.length = found.length + r.1.stack.length := length_pushAll { s with stack := rest } _ _
    have hle' : found.length ≤ r.2.length := length_le_pushAll { s with stack := rest } _ _
    rw [hdrain, hs, List.length_cons]
    cases rounds with
    | zero => rw [if_neg (by omega), drainWithin_zero hs]
    | succ rounds =>
      have hq : q < m.stateCount := h.marks.lt (h.stack (by rw [hs]; exact List.mem_cons_self))
      have htargets : ∀ r ∈ m.epsilonTargets q, r < s.marks.size := by
        intro r hr
        rw [show s.marks.size = m.stateCount from h.marks.size_eq]
        exact hm.target_lt ((Automaton.mem_epsilonTargets_iff hm.ascending).1 hr)
      rw [drainWithin_succ hs hq htargets]
      refine (ih (h.follow hm hs) rounds).trans ?_
      congr 2
      rw [eq_iff_iff]
      omega

theorem finishWithin_eq {S : Nat → Prop} (h : Marks n (s.marks, found) S) :
    finishWithin (s, found) = .ok (finish (s, found)) := by
  apply if_pos
  intro q hq
  rw [show s.marks.size = n from h.size_eq]
  exact h.lt (h.mem_iff.1 hq)

theorem closureWithin_eq (hm : m.Closed) (hqs : ∀ q ∈ qs, q < m.stateCount) (rounds : Nat) :
    closureWithin m rounds (clean m.stateCount) qs =
      .ok (if ((clean m.stateCount).closure m qs).1.length ≤ rounds
        then some ((clean m.stateCount).closure m qs) else none) := by
  have hpush : eachWithin push (clean m.stateCount, []) qs = .ok ((clean m.stateCount).pushAll [] qs) :=
    eachWithin_eq size_marks_push (by simpa [clean] using hqs)
  have hd := draining_pushAll hqs
  have hlen := length_pushAll (clean m.stateCount) [] qs
  rcases hr : (clean m.stateCount).pushAll [] qs with ⟨s, found⟩
  rw [hr] at hpush hd hlen
  have hrounds := drainWithin_eq hm hd rounds
  have hfinish := finishWithin_eq (draining_drain hm hd).1.marks
  have hclosure : (clean m.stateCount).closure m qs = finish (drain m s found) := by rw [closure, hr]
  have hcount : ((clean m.stateCount).closure m qs).1.length = (drain m s found).2.length := by
    rw [hclosure]
    exact List.length_mergeSort _
  -- at the beginning all states that were found are on the stack
  have hiff : (drain m s found).2.length + s.stack.length ≤ rounds + found.length ↔
      ((clean m.stateCount).closure m qs).1.length ≤ rounds := by
    simp only [clean, List.length_nil] at hlen
    omega
  simp only [closureWithin, hpush, bind, Except.bind, hrounds, hiff]
  by_cases hle : ((clean m.stateCount).closure m qs).1.length ≤ rounds
  · rw [if_pos hle, if_pos hle, hclosure]
    simp only [hfinish]
    rfl
  · rw [if_neg hle, if_neg hle]
    rfl

theorem size_marks_noteAll (s : Scratch) (found qs : List Nat) : (s.noteAll found qs).1.marks.size = s.marks.size := by
  unfold noteAll
  induction qs generalizing s found with
  | nil => rfl
  | cons q qs ih => rw [List.foldl_cons, ih, size_marks_note]

theorem noteAll_append (s : Scratch) (found ps qs : List Nat) :
    s.noteAll found (ps ++ qs) = (s.noteAll found ps).1.noteAll (s.noteAll found ps).2 qs :=
  List.foldl_append

theorem moveWithin_eq (hm : m.Closed) (hqs : ∀ q ∈ qs, q < m.stateCount) (a : Nat) :
    moveWithin m (clean m.stateCount) qs a = .ok ((clean m.stateCount).move m qs a) := by
  have htargets : ∀ p, ∀ q ∈ m.targets p a, q < m.stateCount := by
    intro p q hq
    exact hm.target_lt ((Automaton.mem_targets_iff hm.ascending).1 hq)
  have hfold (r : Scratch × List Nat) (hr : r.1.marks.size = m.stateCount) : qs.foldlM (fun r q =>
      if q < m.stateCount then eachWithin note r (m.targets q a) else .error .outOfRange) r =
        .ok (r.1.noteAll r.2 (qs.flatMap fun q => m.targets q a)) := by
    induction qs generalizing r with
    | nil => rfl
    | cons p qs ih =>
      obtain ⟨hp, hqs⟩ := List.forall_mem_cons.1 hqs
      have hnote : eachWithin note r (m.targets p a) = .ok (r.1.noteAll r.2 (m.targets p a)) :=
        eachWithin_eq size_marks_note (by rw [hr]; exact htargets p)
      have hrest := ih hqs (r.1.noteAll r.2 (m.targets p a)) (by rw [size_marks_noteAll, hr])
      rw [List.foldlM_cons, if_pos hp, hnote, List.flatMap_cons, noteAll_append]
      exact hrest
  have hmarks := marks_foldl_mark (l := qs.flatMap fun q => m.targets q a) (r := ((clean m.stateCount).marks, []))
    (by
      intro q hq
      obtain ⟨p, -, hq⟩ := List.mem_flatMap.1 hq
      exact htargets p q hq)
    (marks_clean m.stateCount)
  rw [moveWithin, hfold _ (by simp [clean])]
  rw [move, noteAll_eq]
  exact finishWithin_eq hmarks

/-! ## Questions in a row -/

/-- a question for a set of states -/
inductive Query where
  /-- the states that the given ones reach without input -/
  | closure (qs : List Nat)
  /-- the states that the given ones reach by one move on a symbol -/
  | move (qs : List Nat) (symbol : Nat)
  deriving DecidableEq, Repr

namespace Query

/-- the given states -/
def states : Query → List Nat
  | closure qs => qs
  | move qs _ => qs

/-- whether a state is asked for -/
def Finds (m : Automaton) (q : Nat) : Query → Prop
  | closure qs => ∃ p ∈ qs, Relation.ReflTransGen m.Skips p q
  | move qs a => ∃ p ∈ qs, m.moves p (.symbol a) q

/-- the answer, and what becomes of the scratch -/
def answer (m : Automaton) (s : Scratch) : Query → List Nat × Scratch
  | closure qs => s.closure m qs
  | move qs a => s.move m qs a

/-- the answer with checked places, where the loop has a number of rounds -/
def answerWithin (m : Automaton) (rounds : Nat) (s : Scratch) : Query → Except Fault (Option (List Nat × Scratch))
  | closure qs => closureWithin m rounds s qs
  | move qs a => (moveWithin m s qs a).map some

/-- the rounds of the loop, if a set of so many states is the answer -/
def rounds (size : Nat) : Query → Nat
  | closure _ => size
  | move _ _ => 0

/-- an answer is the set that is asked for, and the scratch is clean again -/
theorem collected (hm : m.Closed) {x : Query} (hx : ∀ q ∈ x.states, q < m.stateCount) :
    Collected m.stateCount (x.answer m (clean m.stateCount)) fun q => x.Finds m q := by
  cases x with
  | closure qs =>
    have h := closure_clean hm hx
    simp only [Automaton.reads_nil_iff] at h
    exact h
  | move qs a => exact move_clean hm qs a

theorem answerWithin_eq (hm : m.Closed) {x : Query} (hx : ∀ q ∈ x.states, q < m.stateCount) (rounds : Nat) :
    x.answerWithin m rounds (clean m.stateCount) =
      .ok (if x.rounds (x.answer m (clean m.stateCount)).1.length ≤ rounds
        then some (x.answer m (clean m.stateCount)) else none) := by
  cases x with
  | closure qs => exact closureWithin_eq hm hx rounds
  | move qs a =>
    have hmove : moveWithin m (clean m.stateCount) qs a = .ok ((clean m.stateCount).move m qs a) := moveWithin_eq hm hx a
    rw [answerWithin, hmove, Query.rounds, if_pos (Nat.zero_le _)]
    rfl

end Query

/-- the answers to questions one after the other, with one scratch -/
def answers (m : Automaton) (s : Scratch) : List Query → List (List Nat) × Scratch
  | [] => ([], s)
  | x :: rest =>
    let (set, s) := x.answer m s
    let (sets, s) := answers m s rest
    (set :: sets, s)

theorem answers_eq (hm : m.Closed) {queries : List Query} (h : ∀ x ∈ queries, ∀ q ∈ x.states, q < m.stateCount) :
    answers m (clean m.stateCount) queries =
      (queries.map fun x => (x.answer m (clean m.stateCount)).1, clean m.stateCount) := by
  induction queries with
  | nil => rfl
  | cons x queries ih =>
    obtain ⟨hx, hqueries⟩ := List.forall_mem_cons.1 h
    rw [answers]
    simp only [(Query.collected hm hx).clean, ih hqueries, List.map_cons]

/-- **Sets of states are collected exactly, and nothing is left of them.** In an automaton with moves to its states only,
questions about states are answered on a clean scratch. An answer is the ascending list of exactly the states that are
reached without input, or by one move on a symbol, and the scratch is clean again. All places that are looked up on the way
are there, and the loop ends after one round for each state of the set, whichever way the moves go in circles. So questions in
a row, on the same scratch, get the answers that each of them gets on a fresh one. -/
theorem collect_exact (hm : m.Closed) {queries : List Query} (h : ∀ x ∈ queries, ∀ q ∈ x.states, q < m.stateCount) :
    (∀ x ∈ queries, Collected m.stateCount (x.answer m (clean m.stateCount)) (fun q => x.Finds m q) ∧
      ∀ rounds, x.answerWithin m rounds (clean m.stateCount) =
        .ok (if x.rounds (x.answer m (clean m.stateCount)).1.length ≤ rounds
          then some (x.answer m (clean m.stateCount)) else none)) ∧
      answers m (clean m.stateCount) queries =
        (queries.map fun x => (x.answer m (clean m.stateCount)).1, clean m.stateCount) :=
  ⟨fun x hx => ⟨Query.collected hm (h x hx), Query.answerWithin_eq hm (h x hx)⟩, answers_eq hm h⟩

/-- two states that reach each other without input, and a third one with two moves on one symbol -/
def spinning : Automaton :=
  { alphabetSize := 1
    states := #[{ edges := [⟨.epsilon, 1⟩] }, { edges := [⟨.epsilon, 0⟩] }, { edges := [⟨.symbol 0, 1⟩, ⟨.symbol 0, 2⟩] }] }

/-- states that are given twice and not in order, around a circle of moves without input, with one scratch -/
theorem collect_exact_spinning : spinning.Closed ∧
    answers spinning (clean 3) [.closure [1, 1], .move [2, 0, 2] 0, .closure [2, 0]] =
      ([[0, 1], [1, 2], [0, 1, 2]], clean 3) ∧
    closureWithin spinning 1 (clean 3) [1, 1] = .ok none ∧
    closureWithin spinning 2 (clean 3) [1, 1] = .ok (some ([0, 1], clean 3)) := by
  have hm : spinning.Closed := (Automaton.wellFormed_of_edges (by decide) (by decide)).closed
  have h : ∀ x ∈ [Query.closure [1, 1], .move [2, 0, 2] 0, .closure [2, 0]], ∀ q ∈ x.states, q < 3 := by decide
  obtain ⟨hexact, hanswers⟩ := collect_exact hm h
  have hrounds := (hexact (.closure [1, 1]) List.mem_cons_self).2
  refine ⟨hm, hanswers.trans ?_, ?_, ?_⟩
  · cbv
  · refine (hrounds 1).trans ?_
    cbv
  · refine (hrounds 2).trans ?_
    cbv

end Scratch

end Munch
