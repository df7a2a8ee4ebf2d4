/-
Patterns: the regular expressions in which the rules of a lexer are written.

`Pattern.regex?` reads a pattern and gives the regular expression over code points that it means. A pattern is refused
because of how it is written, with a report that shows the place, or because it asks for what a lexer cannot do.
-/
import Munch.Pattern.Parser
import Munch.Pattern.Meaning
import Munch.Pattern.Report
import Munch.Expr.Lower

namespace Munch

/-- why a pattern is refused -/
inductive PatternError where
  | malformed (pattern : String) (problem : Pattern.Problem)
  | refused (r : Refusal)
  deriving DecidableEq, Repr

/-- the text of an error -/
def PatternError.message : PatternError → String
  | malformed pattern problem => Pattern.Report.text pattern problem
  | refused r => r.message

namespace Pattern

/-- what a pattern means -/
def expr? (pattern : String) : Except Problem Expr := do
  (← Tree.parse pattern.toList).meaning

/-- the regular expression that a pattern stands for -/
def regex? (pattern : String) : Except PatternError Regex :=
  match expr? pattern with
  | .error problem => .error (.malformed pattern problem)
  | .ok e => e.toRegex.mapError .refused

end Pattern

end Munch
