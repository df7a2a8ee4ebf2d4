/-
One automaton for all rules of a lexer.

The automaton starts in a state that has one move for each mode, on the symbol with the number of the mode. Behind it each
mode has a state of its own, from which moves without input lead to the expressions of its rules. Where the expression of
a rule ends, the automaton accepts the token type of the rule; token types are numbered in the order of the rules.
-/
import Munch.Automaton.Fragment
import Munch.Lexer.Description

namespace Munch

/-- why the modes of a description do not fit together -/
inductive ModeError where
  | noModes
  | undefinedMode (token mode : String)
  | unknownStartMode (mode : String)
  deriving DecidableEq, Repr

/-- the text of a refusal -/
def ModeError.message : ModeError → String
  | noModes => "The lexer description contains no modes"
  | undefinedMode token mode => "Token '" ++ token ++ "' switches to undefined mode '" ++ mode ++ "'"
  | unknownStartMode mode => "Unknown start mode '" ++ mode ++ "'"

/-- why no lexer can be made: the modes do not fit together, or a step was given values that it does not accept -/
inductive BuildError where
  | modes (e : ModeError)
  | fault (f : Fault)
  deriving DecidableEq, Repr

/-- a token type: the name of its rule, and the number of the mode to continue in -/
structure TokenType where
  name : String
  mode : Nat
  deriving DecidableEq, Repr

namespace Description

variable {α : Type}

/-- the first rule that names a mode which is not declared -/
def firstUndefined? (d : Description α) : Option (Rule α) :=
  d.rules.find? fun r => !d.modeNames.contains r.next

/-- what is wrong with the modes, if anything is -/
def modeError? (d : Description α) : Option ModeError :=
  if d.modes.isEmpty then some .noModes
  else
    match d.firstUndefined? with
    | some r => some (.undefinedMode r.name r.next)
    | none => (d.startMode.filter fun s => !d.modeNames.contains s).map .unknownStartMode

end Description

/-- the automaton of the rules so far, with the modes and token types that it knows -/
structure Assembly where
  nfa : Automaton
  /-- the names of the modes in the order in which they are first named -/
  modeNames : List String := []
  /-- for modes that have been declared, the number of the mode and its state -/
  modeStates : List (Nat × Nat) := []
  tokens : List TokenType := []
  startMode : Nat := 0
  deriving Repr

namespace Assembly

/-- the number of a mode, which is a new one if the mode was not named before -/
def modeIndex (a : Assembly) (name : String) : Nat × Assembly :=
  match a.modeNames.findIdx? (· == name) with
  | some i => (i, a)
  | none => (a.modeNames.length, { a with modeNames := a.modeNames ++ [name] })

/-- the state of a mode, which is a new one if the mode was not declared before -/
def modeState (a : Assembly) (mode : Nat) : Nat × Assembly :=
  match a.modeStates.find? (·.1 == mode) with
  | some (_, q) => (q, a)
  | none =>
    (a.nfa.stateCount, { a with nfa := a.nfa.addState, modeStates := a.modeStates ++ [(mode, a.nfa.stateCount)] })

/-- add a rule behind the state of its mode -/
def addRule (alphabet : Alphabet) (modeState : Nat) (a : Assembly) (r : Rule Regex) : Except Fault Assembly := do
  let first := a.nfa.stateCount
  let nfa ← a.nfa.addState.connect modeState .epsilon first
  let (last, nfa) ← r.expr.compile alphabet first nfa
  let (next, a) := { a with nfa := nfa.accept last (some a.tokens.length) }.modeIndex r.next
  return { a with tokens := a.tokens ++ [{ name := r.name, mode := next }] }

/-- add the rules of one part of a mode -/
def addMode (alphabet : Alphabet) (a : Assembly) (m : Mode Regex) : Except Fault Assembly := do
  let (mode, a) := a.modeIndex m.name
  let (state, a) := a.modeState mode
  let nfa ← a.nfa.connect a.nfa.start (.symbol mode) state
  m.rules.foldlM (addRule alphabet state) { a with nfa := nfa }

/-- the number of the mode to begin in -/
def chooseStart (a : Assembly) (startMode : Option String) : Assembly :=
  match startMode with
  | none => a
  | some name =>
    let (mode, a) := a.modeIndex name
    { a with startMode := mode }

/-- no rules yet: the automaton has only its start; there are symbols enough for the alphabet and for the modes -/
def initial (d : Description Regex) (alphabet : Alphabet) : Assembly :=
  { nfa := (Automaton.withStates 0 (max alphabet.size d.modeNames.eraseDups.length)).addState }

/-- the automaton of all rules of a description -/
def ofDescription (d : Description Regex) (alphabet : Alphabet) : Except BuildError Assembly :=
  match d.modeError? with
  | some e => .error (.modes e)
  | none =>
    match d.modes.foldlM (addMode alphabet) (initial d alphabet) with
    | .ok a => .ok (a.chooseStart d.startMode)
    | .error f => .error (.fault f)

end Assembly

end Munch
