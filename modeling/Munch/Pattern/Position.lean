/-
Places in the text of a pattern.

A position counts characters from the beginning of the pattern, and it names the line and the column, both counted from
one, under which an error report shows it. A span is what lies between two positions.
-/

namespace Munch.Pattern

/-- a place between two characters of a pattern -/
structure Position where
  offset : Nat
  line : Nat
  column : Nat
  deriving DecidableEq, Repr

namespace Position

/-- the beginning of the pattern -/
def first : Position :=
  ⟨0, 1, 1⟩

/-- the place behind the character `c` -/
def after (p : Position) (c : Char) : Position :=
  if c = '\n' then ⟨p.offset + 1, p.line + 1, 1⟩ else ⟨p.offset + 1, p.line, p.column + 1⟩

end Position

/-- the characters from `start` up to but not including `stop` -/
structure Span where
  start : Position
  stop : Position
  deriving DecidableEq, Repr

namespace Span

/-- the empty span at a position -/
def point (p : Position) : Span :=
  ⟨p, p⟩

/-- whether both ends are on the same line -/
def isOneLine (s : Span) : Bool :=
  s.start.line == s.stop.line

/-- the order of spans by their beginnings and then by their ends -/
def before (s t : Span) : Bool :=
  decide (s.start.offset < t.start.offset) ||
    (s.start.offset == t.start.offset && decide (s.stop.offset ≤ t.stop.offset))

end Span

end Munch.Pattern
