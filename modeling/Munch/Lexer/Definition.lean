/-
Finished lexers: the minimal complete automaton of a description, with all that a scanner needs to run it.
-/
import Munch.Automaton.Subset
import Munch.Automaton.Completion
import Munch.Automaton.Minimal
import Munch.Lexer.Assembly
import Munch.Tables

namespace Munch

/-- the automata on the way from the rules to the smallest automaton -/
structure Stages where
  nfa : Automaton
  dfa : Automaton
  completed : Automaton
  minimal : Automaton
  deriving Repr

/-- the automaton of the rules made deterministic, complete and minimal -/
def Stages.ofAutomaton (nfa : Automaton) : Except Fault Stages := do
  let dfa ← nfa.determinize
  let completed ← dfa.complete
  let minimal ← completed.minimize
  return { nfa := nfa, dfa := dfa, completed := completed, minimal := minimal }

/-- a finished lexer -/
structure Definition where
  automaton : Automaton
  alphabet : Alphabet
  tokens : List TokenType
  errorState : Nat
  modeNames : List String
  startMode : Nat
  deriving Repr

namespace Definition

/-- the lexer of a description -/
def build (d : Description Regex) : Except BuildError Definition := do
  let alphabet := Alphabet.ofIntervals d.intervals
  let a ← Assembly.ofDescription d alphabet
  let stages ← (Stages.ofAutomaton a.nfa).mapError .fault
  return {
    automaton := stages.minimal
    alphabet := alphabet
    tokens := a.tokens
    errorState := stages.minimal.errorState.getD 0
    modeNames := a.modeNames
    startMode := a.startMode }

/-- the token type that a state recognises -/
def tokenTypeOf? (d : Definition) (q : Nat) : Option TokenType :=
  (d.automaton.token? q).bind fun t => d.tokens[t]?

/-- the number of columns of the table of moves: one for each symbol and one for all other characters -/
def symbolCount (d : Definition) : Nat :=
  d.automaton.alphabetSize + 1

/-- where the automaton goes from a state on a symbol; without a move that is the error state -/
def target (d : Definition) (q symbol : Nat) : Nat :=
  (d.automaton.target? q symbol).getD d.errorState

/-- the state in which a token of the given mode begins -/
def modeStart (d : Definition) (mode : Nat) : Nat :=
  d.target d.automaton.start mode

/-- the row of a state in the table of moves -/
def tableRow (d : Definition) (q : Nat) : List Nat :=
  d.errorState :: (List.range d.automaton.alphabetSize).map (d.target q)

/-- the tables of the lexer -/
def tables (d : Definition) : Tables :=
  let states := List.range d.automaton.stateCount
  { transitions := (states.flatMap d.tableRow).toArray
    symbolCount := d.symbolCount
    accepting := (states.map d.automaton.isAccepting).toArray
    tokenTypes := (states.map d.automaton.token?).toArray
    tokens := (d.tokens.map fun t => { name := t.name, mode := t.mode }).toArray
    intervals := d.alphabet.pairs
    errorState := d.errorState
    startState := d.automaton.start
    startMode := d.startMode
    modeNames := d.modeNames.toArray }

end Definition

end Munch
