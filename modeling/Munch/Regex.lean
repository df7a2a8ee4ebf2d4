/-
Regular expressions over intervals of code points, the form in which the rules of a lexer are compiled.

Besides the six constructors there are the usual short forms. A sequence or a choice of several expressions is nested to
the left; the empty sequence matches only the empty word, and the empty choice matches nothing.
-/
import Munch.Interval

namespace Munch

/-- a regular expression whose atoms are sets of code points -/
inductive Regex where
  /-- one code point of one of the intervals; no code point at all if there is no interval -/
  | set (intervals : List Interval)
  | cat (first second : Regex)
  | alt (left right : Regex)
  /-- any number of repetitions -/
  | star (body : Regex)
  /-- at least one repetition -/
  | plus (body : Regex)
  /-- the body or the empty word -/
  | opt (body : Regex)
  deriving DecidableEq, Repr

namespace Regex

/-- one given character -/
def char (c : Char) : Regex :=
  set [Interval.single c]

/-- one character from `c` to `d` -/
def range (c d : Char) : Except Fault Regex :=
  (Interval.ofChars c d).map fun i => set [i]

/-- the empty word only -/
def empty : Regex :=
  opt (set [])

/-- the expressions one after the other -/
def catAll : List Regex → Regex
  | [] => empty
  | r :: rs => rs.foldl cat r

/-- one of the expressions -/
def altAll : List Regex → Regex
  | [] => set []
  | r :: rs => rs.foldl alt r

/-- the characters of a text one after the other -/
def literal (text : List Char) : Regex :=
  catAll (text.map char)

/-- the intervals of all sets, from left to right -/
def intervals : Regex → List Interval
  | set is => is
  | cat a b => a.intervals ++ b.intervals
  | alt a b => a.intervals ++ b.intervals
  | star a => a.intervals
  | plus a => a.intervals
  | opt a => a.intervals

end Regex

end Munch
