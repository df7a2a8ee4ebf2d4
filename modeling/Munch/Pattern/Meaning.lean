/-
The meaning of a pattern.

Flags are settings that hold from the place where they are written to the end of the group around it. Sets of characters
are sets of Unicode characters, or sets of bytes where the flag for Unicode is off; a set of bytes must not hold a byte
that is no ASCII character, because then the pattern could match what is not UTF-8.
-/
import Munch.Expr.Build
import Munch.Pattern.Tree
import Munch.Pattern.Problem
import Munch.Unicode.CaseFolding
import Munch.Unicode.Property

namespace Munch.Pattern

/-- the settings under which a part of a pattern is read -/
structure Settings where
  caseInsensitive : Bool := false
  multiLine : Bool := false
  dotMatchesNewLine : Bool := false
  swapGreed : Bool := false
  unicode : Bool := true
  crlf : Bool := false
  deriving DecidableEq, Repr

namespace Settings

/-- the settings with one flag turned on or off -/
def put (s : Settings) (f : Flag) (on : Bool) : Settings :=
  match f with
  | .caseInsensitive => { s with caseInsensitive := on }
  | .multiLine => { s with multiLine := on }
  | .dotMatchesNewLine => { s with dotMatchesNewLine := on }
  | .swapGreed => { s with swapGreed := on }
  | .unicode => { s with unicode := on }
  | .crlf => { s with crlf := on }
  | .ignoreWhitespace => s

/-- the settings behind a list of flags; those behind the sign of negation are turned off -/
def apply (s : Settings) (on : Bool) : List FlagItem → Settings
  | [] => s
  | .negation :: rest => s.apply false rest
  | .flag f :: rest => (s.put f on).apply on rest

/-- the settings at the beginning of a group -/
def enter (s : Settings) : GroupKind → Settings
  | .plain items => s.apply true items
  | _ => s

/-- what the numbers of a set stand for -/
def scale (s : Settings) : Scale :=
  if s.unicode then .characters else .bytes

end Settings

/-- report a problem at the given place -/
def refuse {α : Type} (cause : Cause) (span : Span) : Except Problem α :=
  .error { cause := cause, span := span }

namespace AsciiSet

/-- the ranges of a named set -/
def pairs : AsciiSet → List (Nat × Nat)
  | alnum => [(0x30, 0x39), (0x41, 0x5A), (0x61, 0x7A)]
  | alpha => [(0x41, 0x5A), (0x61, 0x7A)]
  | ascii => [(0x00, 0x7F)]
  | blank => [(0x09, 0x09), (0x20, 0x20)]
  | cntrl => [(0x00, 0x1F), (0x7F, 0x7F)]
  | digit => [(0x30, 0x39)]
  | graph => [(0x21, 0x7E)]
  | lower => [(0x61, 0x7A)]
  | print => [(0x20, 0x7E)]
  | punct => [(0x21, 0x2F), (0x3A, 0x40), (0x5B, 0x60), (0x7B, 0x7E)]
  | space => [(0x09, 0x0D), (0x20, 0x20)]
  | upper => [(0x41, 0x5A)]
  | word => [(0x30, 0x39), (0x41, 0x5A), (0x5F, 0x5F), (0x61, 0x7A)]
  | xdigit => [(0x30, 0x39), (0x41, 0x46), (0x61, 0x66)]

end AsciiSet

/-- the set of a letter, for bytes -/
def Shorthand.byteSet : Shorthand → RangeSet
  | digit => .ofPairs AsciiSet.digit.pairs
  | space => .ofPairs AsciiSet.space.pairs
  | word => .ofPairs AsciiSet.word.pairs

/-- the set of a letter, for characters -/
def Shorthand.characterSet : Shorthand → RangeSet
  | digit => Unicode.decimalNumber
  | space => Unicode.whiteSpace
  | word => .unionAll [Unicode.alphabetic, Unicode.mark, Unicode.decimalNumber, Unicode.connectorPunctuation,
    Unicode.joinControl]

namespace PropertyQuery

/-- a name of a property as it is compared: without `is` in front, and of the rest the ASCII characters in lower case
without blanks, hyphens and underscores; `isc` is a name in itself -/
def normal (name : List Char) : String :=
  let hasIs := (name.take 2).map Char.toLower == ['i', 's']
  let body := if hasIs then name.drop 2 else name
  let text := (body.filter fun c => decide (c.toNat < 0x80) && c != ' ' && c != '-' && c != '_').map Char.toLower
  String.ofList (if hasIs && text == ['c'] then ['i', 's', 'c'] else text)

/-- the set that is asked for -/
def set? : PropertyQuery → Except Unicode.Missing RangeSet
  | letter c => Unicode.Property.named (normal [c])
  | named name => Unicode.Property.named (normal name)
  | valued name value => Unicode.Property.valued (normal name) (normal value)

end PropertyQuery

/-- a set of the scale, with all cases of its letters if cases do not count, and then negated if it is to be -/
def foldNegate (s : Settings) (negated : Bool) (set : RangeSet) : RangeSet :=
  let set := if s.caseInsensitive then set.foldCase s.scale else set
  if negated then set.complement s.scale else set

/-- a set, refused if it holds a byte that is no ASCII character -/
def checkUtf8 (s : Settings) (span : Span) (set : RangeSet) : Except Problem RangeSet :=
  if !s.unicode && !set.isAscii then refuse .invalidUtf8 span else .ok set

namespace ClassTree

/-- the number of a character in a class -/
def element (s : Settings) (l : Literal) : Except Problem Nat :=
  if s.unicode then .ok l.char.toNat
  else if l.char.toNat < 0x80 then .ok l.char.toNat
  else if l.fromByte then refuse .invalidUtf8 l.span
  else refuse .unicodeNotAllowed l.span

/-- the set of an escape with a letter -/
def shorthandSet (s : Settings) (span : Span) (set : Shorthand) (negated : Bool) : Except Problem RangeSet :=
  let plain := if s.unicode then set.characterSet else set.byteSet
  checkUtf8 s span (if negated then plain.complement s.scale else plain)

/-- the set of a Unicode property -/
def propertySet (s : Settings) (span : Span) (query : PropertyQuery) (negated : Bool) : Except Problem RangeSet :=
  if s.unicode then
    match query.set? with
    | .ok set => .ok (foldNegate s negated set)
    | .error .property => refuse .propertyUnknown span
    | .error .value => refuse .propertyValueUnknown span
  else refuse .unicodeNotAllowed span

/-- two sets joined by an operator -/
def operate (s : Settings) (op : ClassOp) (left right : RangeSet) : RangeSet :=
  let left := foldNegate s false left
  let right := foldNegate s false right
  match op with
  | .intersection => left.meet right
  | .difference => left.minus s.scale right
  | .symmetricDifference => left.exclusive s.scale right

/-- the elements of a bracket around the given ones -/
def bracketSet (s : Settings) (span : Span) (negated : Bool) (body : RangeSet) : Except Problem RangeSet :=
  checkUtf8 s span (foldNegate s negated body)

mutual

/-- the elements of a part of a class -/
def elements (s : Settings) : ClassTree → Except Problem RangeSet
  | empty _ => .ok .empty
  | literal l => (element s l).map RangeSet.single
  | range _ first last => do
    let low ← element s first
    let high ← element s last
    return .ofPairs [(low, high)]
  | ascii span set negated => checkUtf8 s span (foldNegate s negated (.ofPairs set.pairs))
  | shorthand span set negated => shorthandSet s span set negated
  | property span query negated => propertySet s span query negated
  | bracket span negated body => do
    return (← bracketSet s span negated (← elements s body)).joined
  | union _ items => elementsOfAll s items
  | binary _ op left right => do
    let l ← elements s left
    let r ← elements s right
    return (operate s op l r).joined

/-- the elements of any part of a list -/
def elementsOfAll (s : Settings) : List ClassTree → Except Problem RangeSet
  | [] => .ok .empty
  | t :: rest => do
    let set ← elements s t
    let others ← elementsOfAll s rest
    return set.union others

end

/-- the elements of a whole class -/
def classSet (s : Settings) : ClassTree → Except Problem RangeSet
  | bracket span negated body => do bracketSet s span negated (← elements s body)
  | t => elements s t

end ClassTree

namespace Tree

/-- one element of a set of the scale -/
def ofSet (s : Settings) (set : RangeSet) : Expr :=
  if s.unicode then .ofCharacters set else .ofBytes set

/-- whether a character has cases that do not count -/
def hasCases (s : Settings) (c : Char) : Bool :=
  s.caseInsensitive && !(RangeSet.otherCases (.between c.toNat c.toNat) s.scale).isEmpty

/-- the meaning of a character that stands for itself -/
def literalMeaning (s : Settings) (l : Literal) : Except Problem Expr :=
  if !s.unicode && l.fromByte && decide (0x80 ≤ l.char.toNat) then refuse .invalidUtf8 l.span
  else if hasCases s l.char then .ok (ofSet s ((RangeSet.single l.char.toNat).foldCase s.scale))
  else .ok (.ofText (String.utf8EncodeChar l.char))

/-- the meaning of the dot -/
def dotMeaning (s : Settings) (span : Span) : Except Problem Expr :=
  if !s.unicode then refuse .invalidUtf8 span
  else if s.dotMatchesNewLine then .ok (.ofCharacters (RangeSet.empty.complement .characters))
  else if s.crlf then .ok (.ofCharacters ((RangeSet.ofPairs [(0x0A, 0x0A), (0x0D, 0x0D)]).complement .characters))
  else .ok (.ofCharacters ((RangeSet.single 0x0A).complement .characters))

/-- the condition that an assertion stands for -/
def lookOf (s : Settings) : Assertion → Look
  | .startLine => if s.multiLine then (if s.crlf then .lineStartReturn else .lineStart) else .textStart
  | .endLine => if s.multiLine then (if s.crlf then .lineEndReturn else .lineEnd) else .textEnd
  | .startText => .textStart
  | .endText => .textEnd
  | .wordBoundary => if s.unicode then .wordUnicode else .wordAscii
  | .notWordBoundary => if s.unicode then .notWordUnicode else .notWordAscii
  | .wordStart => if s.unicode then .wordStartUnicode else .wordStartAscii
  | .wordEnd => if s.unicode then .wordEndUnicode else .wordEndAscii
  | .wordStartHalf => if s.unicode then .wordStartHalfUnicode else .wordStartHalfAscii
  | .wordEndHalf => if s.unicode then .wordEndHalfUnicode else .wordEndHalfAscii

/-- a group around what it holds -/
def grouped (kind : GroupKind) (body : Expr) : Expr :=
  match kind with
  | .numbered i => .capture i none body
  | .named i name => .capture i (some name) body
  | .plain _ => body

mutual

/-- the meaning of a part of a pattern, and the settings behind it -/
def meaningFrom (s : Settings) : Tree → Except Problem (Expr × Settings)
  | empty _ => .ok (.empty, s)
  | flags _ items => .ok (.empty, s.apply true items)
  | literal l => (literalMeaning s l).map (·, s)
  | dot span => (dotMeaning s span).map (·, s)
  | assertion _ a => .ok (.look (lookOf s a), s)
  | shorthand span set negated => (ClassTree.shorthandSet s span set negated).map fun set => (ofSet s set, s)
  | property span query negated => (ClassTree.propertySet s span query negated).map fun set => (ofSet s set, s)
  | charClass body => (ClassTree.classSet s body).map fun set => (ofSet s set, s)
  | repetition _ least most greedy body => do
    let (e, s) ← meaningFrom s body
    return (.ofRepetition least most (greedy != s.swapGreed) e, s)
  | group _ kind body => do
    let (e, _) ← meaningFrom (s.enter kind) body
    return (grouped kind e, s)
  | alternation _ branches => do
    let (es, s) ← meaningsFrom s branches
    return (.ofChoice es, s)
  | sequence _ items => do
    let (es, s) ← meaningsFrom s items
    return (.ofSequence es, s)

/-- the meanings of the parts of a list, and the settings behind the last of them -/
def meaningsFrom (s : Settings) : List Tree → Except Problem (List Expr × Settings)
  | [] => .ok ([], s)
  | t :: rest => do
    let (e, s) ← meaningFrom s t
    let (es, s) ← meaningsFrom s rest
    return (e :: es, s)

end

/-- the meaning of a pattern -/
def meaning (t : Tree) : Except Problem Expr :=
  (meaningFrom {} t).map (·.1)

end Tree

end Munch.Pattern
