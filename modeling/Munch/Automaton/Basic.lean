/-
Finite automata over the symbols `0 .. alphabetSize - 1`, with states numbered from `0`.

The same type holds the automaton of the rules, which has moves without input and a choice of moves, and the deterministic
ones made from it. The edges of a state are kept in ascending order and without repetition, moves without input first;
the questions about an automaton rely on that order.

As in a release build, an edge is put in if its source is a state, whatever its symbol and its target are.
-/
import Munch.Fault

namespace Munch

/-- what a move reads -/
inductive Label where
  | epsilon
  | symbol (n : Nat)
  deriving DecidableEq, Repr

/-- the order of labels: no input first, then the symbols -/
def Label.rank : Label → Nat
  | epsilon => 0
  | symbol n => n + 1

theorem Label.rank_injective {l l' : Label} (h : l.rank = l'.rank) : l = l' := by
  cases l <;> cases l' <;> simp_all [rank]

/-- a move out of a state -/
structure Edge where
  label : Label
  target : Nat
  deriving DecidableEq, Repr

namespace Edge

/-- the order of edges: by label and then by target -/
def before (e f : Edge) : Bool :=
  decide (e.label.rank < f.label.rank) || (e.label.rank == f.label.rank && decide (e.target < f.target))

/-- put an edge into its place in a list in ascending order, unless it is there -/
def insertInto (e : Edge) : List Edge → List Edge
  | [] => [e]
  | f :: rest =>
    if e = f then f :: rest
    else if e.before f then e :: f :: rest
    else f :: insertInto e rest

@[simp] theorem mem_insertInto {e x : Edge} {es : List Edge} : x ∈ insertInto e es ↔ x = e ∨ x ∈ es := by
  induction es with
  | nil => simp [insertInto]
  | cons f rest ih =>
    unfold insertInto
    split
    case isTrue h => simp [h]
    case isFalse =>
      split
      · simp
      · simp only [List.mem_cons, ih]
        exact or_left_comm

theorem sublist_insertInto (e : Edge) (es : List Edge) : es.Sublist (insertInto e es) := by
  induction es with
  | nil => exact List.nil_sublist _
  | cons f rest ih =>
    unfold insertInto
    split
    case isTrue => exact List.Sublist.refl _
    case isFalse =>
      split
      · exact List.sublist_cons_self e _
      · exact ih.cons_cons f

theorem before_iff {e f : Edge} :
    e.before f = true ↔ e.label.rank < f.label.rank ∨ e.label.rank = f.label.rank ∧ e.target < f.target := by
  simp [before]

theorem before_trans {e f g : Edge} (h : e.before f = true) (h' : f.before g = true) : e.before g = true := by
  rw [before_iff] at *
  omega

theorem before_of_not_before {e f : Edge} (hne : e ≠ f) (h : ¬e.before f = true) : f.before e = true := by
  obtain ⟨l, q⟩ := e
  obtain ⟨l', q'⟩ := f
  have : l.rank = l'.rank → q ≠ q' := fun hl hq => hne (by rw [Label.rank_injective hl, hq])
  rw [before_iff] at *
  simp only at *
  omega

/-- an edge put into an ascending list leaves it ascending -/
theorem pairwise_insertInto {e : Edge} {es : List Edge} (h : es.Pairwise fun x y => x.before y = true) :
    (insertInto e es).Pairwise fun x y => x.before y = true := by
  induction es with
  | nil => simp [insertInto]
  | cons f rest ih =>
    obtain ⟨hf, hrest⟩ := List.pairwise_cons.1 h
    unfold insertInto
    split
    case isTrue => exact h
    case isFalse hne =>
      split
      case isTrue hb =>
        refine List.pairwise_cons.2 ⟨fun x hx => ?_, h⟩
        rcases List.mem_cons.1 hx with rfl | hx
        · exact hb
        · exact before_trans hb (hf x hx)
      case isFalse hb =>
        refine List.pairwise_cons.2 ⟨fun x hx => ?_, ih hrest⟩
        rcases mem_insertInto.1 hx with rfl | hx
        · exact before_of_not_before hne hb
        · exact hf x hx

end Edge

/-- a state: its edges, whether it accepts, and the token type that it recognises -/
structure State where
  edges : List Edge := []
  accepting : Bool := false
  token : Option Nat := none
  deriving DecidableEq, Repr

/-- a finite automaton; an error state is there once the automaton is complete -/
structure Automaton where
  alphabetSize : Nat
  states : Array State := #[]
  start : Nat := 0
  errorState : Option Nat := none
  deriving DecidableEq, Repr

namespace Automaton

/-- the automaton with the given number of states and no edges -/
def withStates (count alphabetSize : Nat) : Automaton :=
  { alphabetSize := alphabetSize, states := Array.replicate count {} }

/-- the number of states -/
def stateCount (m : Automaton) : Nat :=
  m.states.size

/-- the automaton with one more state, whose number is the number of states before -/
def addState (m : Automaton) : Automaton :=
  { m with states := m.states.push {} }

/-- the edges of a state, if there is such a state -/
def edges? (m : Automaton) (q : Nat) : Option (List Edge) :=
  (m.states[q]?).map State.edges

/-- the edges of a state -/
def edges (m : Automaton) (q : Nat) : List Edge :=
  (m.edges? q).getD []

/-- whether a state accepts -/
def isAccepting (m : Automaton) (q : Nat) : Bool :=
  (m.states[q]?).any State.accepting

/-- the token type that a state recognises -/
def token? (m : Automaton) (q : Nat) : Option Nat :=
  (m.states[q]?).bind State.token

/-- the automaton with one more edge out of `p` -/
def addEdge (m : Automaton) (p : Nat) (label : Label) (q : Nat) : Automaton :=
  { m with states := m.states.modify p fun s => { s with edges := Edge.insertInto ⟨label, q⟩ s.edges } }

/-- the automaton with one more edge out of `p`, which has to be a state; that `q` is one and that the symbol is there is
the caller's business -/
def connect (m : Automaton) (p : Nat) (label : Label) (q : Nat) : Except Fault Automaton :=
  if p < m.stateCount then .ok (m.addEdge p label q) else .error .outOfRange

@[simp] theorem stateCount_addState (m : Automaton) : m.addState.stateCount = m.stateCount + 1 := by
  simp [stateCount, addState]

@[simp] theorem stateCount_addEdge (m : Automaton) (p : Nat) (label : Label) (q : Nat) :
    (m.addEdge p label q).stateCount = m.stateCount := by
  simp [stateCount, addEdge]

@[simp] theorem edges_addState (m : Automaton) (q : Nat) : m.addState.edges q = m.edges q := by
  simp only [edges, edges?, addState, Array.getElem?_push]
  split
  case isTrue h => simp [h]
  case isFalse => rfl

theorem mem_edges_addEdge {m : Automaton} {p : Nat} (hp : p < m.stateCount) {label : Label} {q r : Nat} {e : Edge} :
    e ∈ (m.addEdge p label q).edges r ↔ r = p ∧ e = ⟨label, q⟩ ∨ e ∈ m.edges r := by
  simp only [edges, edges?, addEdge, Array.getElem?_modify]
  by_cases h : p = r
  · subst h
    have : p < m.states.size := hp
    simp [this]
  · have : r ≠ p := fun e => h e.symm
    simp [h, this]

theorem connect_eq_ok {m : Automaton} {p : Nat} {label : Label} {q : Nat} (hp : p < m.stateCount) :
    m.connect p label q = .ok (m.addEdge p label q) :=
  if_pos hp

theorem of_connect_eq_ok {m m' : Automaton} {p : Nat} {label : Label} {q : Nat} (h : m.connect p label q = .ok m') :
    p < m.stateCount ∧ m' = m.addEdge p label q := by
  unfold connect at h
  split at h
  case isTrue hp =>
    cases h
    exact ⟨hp, rfl⟩
  case isFalse => cases h

/-- the automaton in which `q` accepts, with a token type if one is given; `q` should be a state -/
def accept (m : Automaton) (q : Nat) (token : Option Nat) : Automaton :=
  { m with states := m.states.modify q fun s => { s with accepting := true, token := token.or s.token } }

/-- the automaton that starts in `q`, which should be a state -/
def startAt (m : Automaton) (q : Nat) : Automaton :=
  { m with start := q }

/-- the accepting states in ascending order -/
def acceptingStates (m : Automaton) : List Nat :=
  (List.range m.stateCount).filter m.isAccepting

/-- the states with a token type in ascending order, with that type -/
def tokenStates (m : Automaton) : List (Nat × Nat) :=
  (List.range m.stateCount).filterMap fun q => (m.token? q).map fun t => (q, t)

/-- all edges with the states that they leave, ordered by state, label and target -/
def transitions (m : Automaton) : List (Nat × Edge) :=
  (List.range m.stateCount).flatMap fun q => (m.edges q).map fun e => (q, e)

/-- the targets of the moves of `q` without input, in ascending order -/
def epsilonTargets (m : Automaton) (q : Nat) : List Nat :=
  ((m.edges q).takeWhile fun e => e.label == .epsilon).map Edge.target

/-- the targets of the moves of `q` on a symbol, in ascending order -/
def targets (m : Automaton) (q symbol : Nat) : List Nat :=
  (((m.edges q).dropWhile fun e => decide (e.label.rank < symbol + 1)).takeWhile
    fun e => e.label == .symbol symbol).map Edge.target

/-- the target of the first move of `q` on a symbol -/
def target? (m : Automaton) (q symbol : Nat) : Option Nat :=
  (m.targets q symbol).head?

/-- whether neighbours in a list of edges have different labels -/
def labelsDiffer : List Edge → Bool
  | e :: f :: rest => e.label != f.label && labelsDiffer (f :: rest)
  | _ => true

/-- whether no state has a move without input or two moves on one symbol -/
def isDeterministic (m : Automaton) : Bool :=
  m.states.all fun s => s.edges.all (fun e => e.label != .epsilon) && labelsDiffer s.edges

/-- whether each state has exactly one move on each symbol and no other -/
def isComplete (m : Automaton) : Bool :=
  m.isDeterministic && m.states.all fun s => s.edges.length == m.alphabetSize

end Automaton

end Munch
