/-
The report of a problem: the pattern with marks under the places that the problem is about.

A pattern of one line is indented by four columns and marked below. A pattern with line breaks stands between two rules,
each line behind its number, with the marks below the lines that they belong to; a place that reaches over several lines
is not marked but named by its two ends below the second rule.
-/
import Munch.Pattern.Problem

namespace Munch.Pattern.Report

/-- the lines that begin with the characters of `line`, which are in reverse order, and go on with the text; a line
break at the very end opens no further line, and a carriage return before a line break belongs to the break -/
def linesFrom (line : List Char) : List Char → List (List Char)
  | [] => if line.isEmpty then [] else [line.reverse]
  | c :: rest =>
    if c = '\n' then
      (match line with
        | '\r' :: before => before.reverse
        | _ => line.reverse) :: linesFrom [] rest
    else linesFrom (c :: line) rest

/-- the lines of a pattern -/
def lines (pattern : List Char) : List (List Char) :=
  linesFrom [] pattern

/-- how many columns the line numbers take, none at all for a pattern of one line; the place behind a line break at the
end of the pattern counts as a line -/
def numberWidth (pattern : List Char) : Nat :=
  let count := (lines pattern).length + (if pattern.getLast? = some '\n' then 1 else 0)
  if count ≤ 1 then 0 else (Numeral.decimal count).length

/-- the marks from column `column` (counted from zero) on, for spans in ascending order; each span has at least one -/
def marksFrom (column : Nat) : List Span → List Char
  | [] => []
  | s :: rest =>
    let gap := s.start.column - 1 - column
    let width := max 1 (s.stop.column - s.start.column)
    List.replicate gap ' ' ++ List.replicate width '^' ++ marksFrom (column + gap + width) rest

/-- the line of marks below line `number`, if one of the spans is on that line -/
def markLine (margin : Nat) (spans : List Span) (number : Nat) : List (List Char) :=
  match spans.filter fun s => s.isOneLine && s.start.line == number with
  | [] => []
  | s :: rest => [List.replicate margin ' ' ++ marksFrom 0 (s :: rest)]

/-- what stands in front of line `number` -/
def label (width number : Nat) : List Char :=
  if width = 0 then List.replicate 4 ' '
  else
    let digits := (Numeral.decimal number).toList
    List.replicate (width - digits.length) ' ' ++ digits ++ [':', ' ']

/-- the lines of the pattern from line `number` on, each followed by its line of marks -/
def marked (width : Nat) (spans : List Span) (number : Nat) : List (List Char) → List (List Char)
  | [] => []
  | line :: rest =>
    (label width number ++ line) ::
      (markLine (if width = 0 then 4 else width + 2) spans number ++ marked width spans (number + 1) rest)

/-- the two ends of a span that reaches over several lines -/
def reach (s : Span) : List Char :=
  ("on line " ++ Numeral.decimal s.start.line ++ " (column " ++ Numeral.decimal s.start.column ++ ") through line " ++
    Numeral.decimal s.stop.line ++ " (column " ++ Numeral.decimal (s.stop.column - 1) ++ ")").toList

/-- the lines of the report on a problem of the pattern -/
def linesOf (pattern : List Char) (problem : Problem) : List (List Char) :=
  let spans := (problem.span :: problem.earlier.toList).mergeSort Span.before
  let body := marked (numberWidth pattern) spans 1 (lines pattern)
  let verdict := ("error: " ++ problem.cause.message).toList
  let header := "regex parse error:".toList
  if pattern.contains '\n' then
    let rule := List.replicate 79 '~'
    header :: rule :: body ++ rule :: (spans.filter (!·.isOneLine)).map reach ++ [verdict]
  else header :: body ++ [verdict]

/-- the report on a problem of the pattern -/
def text (pattern : String) (problem : Problem) : String :=
  String.ofList (List.intercalate ['\n'] (linesOf pattern.toList problem))

end Munch.Pattern.Report
