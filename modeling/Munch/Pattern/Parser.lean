/-
Reading a whole pattern.

Branches and items are collected in a `Level`; each group that is open has a level of its own, kept with the level around
it in an `OpenGroup`. A list of flags holds up to the end of the group that it stands in, so the state of white space is
kept with the group too.
-/
import Munch.Pattern.Bracket
import Munch.Pattern.Group
import Munch.Pattern.Repetition
import Munch.Pattern.Nesting

namespace Munch.Pattern

/-- the part of an alternation that has been read -/
structure Level where
  /-- where the alternation begins -/
  first : Position
  /-- the branches that are complete, the last one first -/
  branches : List Tree := []
  /-- where the current branch begins -/
  start : Position
  /-- the items of the current branch, the last one first -/
  items : List Tree := []
  deriving Repr

namespace Level

/-- the level that begins at the given place -/
def beginAt (p : Position) : Level :=
  { first := p, start := p }

/-- the level with one more item in its current branch -/
def push (l : Level) (t : Tree) : Level :=
  { l with items := t :: l.items }

/-- the current branch, which ends at the given place -/
def branch (l : Level) (stop : Position) : Tree :=
  match l.items with
  | [] => .empty ⟨l.start, stop⟩
  | [t] => t
  | ts => .sequence ⟨l.start, stop⟩ ts.reverse

/-- the level behind the sign between two branches, which stands from `stop` to `next` -/
def split (l : Level) (stop next : Position) : Level :=
  { l with branches := l.branch stop :: l.branches, start := next, items := [] }

/-- all that has been read, where the last branch ends at the given place -/
def close (l : Level) (stop : Position) : Tree :=
  match l.branches with
  | [] => l.branch stop
  | bs => .alternation ⟨l.first, stop⟩ (l.branch stop :: bs).reverse

end Level

/-- a group that has been opened and not yet closed, with what was read before it -/
structure OpenGroup where
  before : Level
  parenthesis : Span
  kind : GroupKind
  /-- whether white space was skipped before the group -/
  skipping : Bool
  deriving Repr

namespace Tree

/-- whether white space is skipped behind a list of flags -/
def skippingAfter (items : List FlagItem) (now : Bool) : Bool :=
  (flagState .ignoreWhitespace false items).getD now

/-- the flags in the opening of a group -/
def openingFlags : GroupKind → List FlagItem
  | .plain items => items
  | _ => []

/-- read what begins with an opening parenthesis -/
def parseOpening (outer : List OpenGroup) (level : Level) : Parse (List OpenGroup × Level) := do
  match ← Group.opening with
  | .flags span items =>
    modify fun c => { c with skipping := skippingAfter items c.skipping }
    return (outer, level.push (.flags span items))
  | .group span kind =>
    let skipping := (← get).skipping
    modify fun c => { c with skipping := skippingAfter (openingFlags kind) c.skipping }
    return ({ before := level, parenthesis := span, kind := kind, skipping := skipping } :: outer,
      .beginAt (← Parse.position))

/-- read a closing parenthesis -/
def parseClosing (outer : List OpenGroup) (level : Level) : Parse (List OpenGroup × Level) := do
  match outer with
  | [] => Parse.fail .groupUnopened (← Parse.charSpan)
  | g :: rest =>
    let body := level.close (← Parse.position)
    modify fun c => { c with skipping := g.skipping }
    let _ ← Parse.bump
    return (rest, g.before.push (.group (← Parse.since g.parenthesis.start) g.kind body))

/-- read the operator that begins with `c` and apply it to the last item -/
def parseRepetition (level : Level) (c : Char) : Parse Level := do
  match level.items with
  | [] => Parse.fail .repetitionMissing (← Parse.here)
  | t :: before =>
    if !t.isRepeatable then Parse.fail .repetitionMissing (← Parse.here)
    let r ← Repetition.parse c
    let whole := Tree.repetition (← Parse.since t.span.start) r.least r.most r.greedy t
    return { level with items := whole :: before }

/-- read one item that is a single character or an escape -/
def parseAtom (c : Char) : Parse Tree := do
  if c = '\\' then return (← Escape.parse).toTree
  let span ← Parse.charSpan
  let _ ← Parse.bump
  match c with
  | '.' => return .dot span
  | '^' => return .assertion span .startLine
  | '$' => return .assertion span .endLine
  | _ => return .literal { span := span, char := c }

/-- read what begins with the character `c` -/
def parseStep (outer : List OpenGroup) (level : Level) (c : Char) : Parse (List OpenGroup × Level) := do
  if c = '(' then parseOpening outer level
  else if c = ')' then parseClosing outer level
  else if c = '|' then
    let stop ← Parse.position
    let _ ← Parse.bump
    return (outer, level.split stop (← Parse.position))
  else if c = '[' then return (outer, level.push (.charClass (← Bracket.parse)))
  else if Repetition.begins c then return (outer, ← parseRepetition level c)
  else return (outer, level.push (← parseAtom c))

/-- read on up to the end of the pattern, with `outer` the groups that are open, innermost first; `count` bounds the
text -/
def parseFrom (outer : List OpenGroup) (level : Level) : Nat → Parse Tree
  | 0 => return level.close (← Parse.position)
  | count + 1 => do
    Parse.skipSpace
    match ← Parse.peek with
    | none =>
      match outer with
      | [] => return level.close (← Parse.position)
      | g :: _ => Parse.fail .groupUnclosed g.parenthesis
    | some c =>
      let (outer, level) ← parseStep outer level c
      parseFrom outer level count

/-- the deepest nesting that is accepted -/
def nestLimit : Nat :=
  250

/-- read a pattern -/
def parse (pattern : List Char) : Except Problem Tree := do
  let t ← (parseFrom [] (.beginAt .first) (pattern.length + 1)).run' { rest := pattern }
  match t.tooDeep? nestLimit with
  | some span => throw { cause := .nestedTooDeep nestLimit, span := span }
  | none => return t

end Tree

end Munch.Pattern
