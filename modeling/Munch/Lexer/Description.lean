/-
Descriptions of lexers: rules, grouped into modes.

A lexer is in one mode at a time, where the rules of that mode apply, and each rule names the mode to continue in. A mode
may be declared in several parts. The expressions of the rules are a parameter: in a description as it is written they
are patterns or regular expressions (`Written`), and `Description.read` reads the patterns.
-/
import Munch.Pattern.Basic

namespace Munch

/-- a rule: text that the expression matches is a token of the given name, and scanning goes on in the mode `next` -/
structure Rule (α : Type) where
  name : String
  expr : α
  next : String
  deriving DecidableEq, Repr

/-- rules that apply in one mode, the ones that win first -/
structure Mode (α : Type) where
  name : String
  rules : List (Rule α)
  deriving DecidableEq, Repr

/-- a lexer; without a start mode it begins in the mode that is declared first -/
structure Description (α : Type) where
  modes : List (Mode α)
  startMode : Option String := none
  deriving DecidableEq, Repr

/-- the expression of a rule as it is written -/
inductive Written where
  | pattern (text : String)
  | regex (r : Regex)
  deriving DecidableEq, Repr

/-- a pattern that is refused, with the rule that it is from -/
structure RuleError where
  token : String
  pattern : String
  cause : PatternError
  deriving DecidableEq, Repr

/-- the text of a refusal -/
def RuleError.message (e : RuleError) : String :=
  "Error in pattern of token '" ++ e.token ++ "' '" ++ e.pattern ++ "': " ++ e.cause.message

/-- the rule with its pattern read -/
def Rule.read (r : Rule Written) : Except RuleError (Rule Regex) :=
  match r.expr with
  | .regex e => .ok { name := r.name, expr := e, next := r.next }
  | .pattern text =>
    match Pattern.regex? text with
    | .ok e => .ok { name := r.name, expr := e, next := r.next }
    | .error cause => .error { token := r.name, pattern := text, cause := cause }

/-- the mode with all patterns read -/
def Mode.read (m : Mode Written) : Except RuleError (Mode Regex) := do
  return { name := m.name, rules := ← m.rules.mapM Rule.read }

namespace Description

/-- the description with all patterns read; the first one that is refused is reported -/
def read (d : Description Written) : Except RuleError (Description Regex) := do
  return { modes := ← d.modes.mapM Mode.read, startMode := d.startMode }

variable {α : Type}

/-- all rules in the order in which they are declared -/
def rules (d : Description α) : List (Rule α) :=
  d.modes.flatMap Mode.rules

/-- the names of the modes, one for each part -/
def modeNames (d : Description α) : List String :=
  d.modes.map Mode.name

/-- the intervals of all rules -/
def intervals (d : Description Regex) : List Interval :=
  d.rules.flatMap fun r => r.expr.intervals

end Description

end Munch
