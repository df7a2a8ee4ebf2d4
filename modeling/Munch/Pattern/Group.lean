/-
The openings of groups: numbered, named and plain groups, and lists of flags.
-/
import Munch.Pattern.Cursor
import Munch.Pattern.Tree
import Munch.Unicode.Later
import Munch.Unicode.Letters

namespace Munch.Pattern.Group

/-- what an opening parenthesis begins -/
inductive Opening where
  /-- a list of flags that is complete in itself -/
  | flags (span : Span) (items : List FlagItem)
  /-- a group whose content follows; the span is that of the parenthesis -/
  | group (span : Span) (kind : GroupKind)
  deriving Repr

/-- the letters of names -/
def nameLetters : Unicode.RangeTable :=
  (Unicode.alphabetic.union Unicode.laterLetters).table

/-- the numbers of names -/
def nameNumbers : Unicode.RangeTable :=
  (Unicode.number.union Unicode.laterNumbers).table

/-- whether a character may stand in the name of a group -/
def isNameChar (first : Bool) (c : Char) : Bool :=
  c == '_' || nameLetters.has c ||
    (!first && (['.', '[', ']'].contains c || nameNumbers.has c))

/-- read the characters of a name up to the closing bracket, which stays unread; `count` bounds the text -/
def nameChars (first : Bool) : Nat → Parse (List Char)
  | 0 => return []
  | count + 1 => do
    match ← Parse.peek with
    | none => return []
    | some '>' => return []
    | some c =>
      if !isNameChar first c then Parse.fail .groupNameInvalid (← Parse.charSpan)
      else
        let _ ← Parse.bump
        return c :: (← nameChars false count)

/-- read the name of a group with its closing bracket; a name may be used once -/
def name : Parse (List Char) := do
  let start ← Parse.position
  let text ← nameChars true ((← get).rest.length + 1)
  let stop ← Parse.position
  if (← Parse.peek).isNone then Parse.fail .groupNameUnclosed (← Parse.here)
  let _ ← Parse.bump
  if text.isEmpty then Parse.fail .groupNameEmpty (.point start)
  let span : Span := ⟨start, stop⟩
  match (← get).names.find? (·.1 == text) with
  | some (_, earlier) => throw { cause := .groupNameDuplicate, span := span, earlier := some earlier }
  | none =>
    modify fun c => { c with names := (text, span) :: c.names }
    return text

/-- the flag of a letter -/
def flag? : Char → Option Flag
  | 'i' => some .caseInsensitive
  | 'm' => some .multiLine
  | 's' => some .dotMatchesNewLine
  | 'U' => some .swapGreed
  | 'u' => some .unicode
  | 'R' => some .crlf
  | 'x' => some .ignoreWhitespace
  | _ => none

/-- read one character of a list of flags -/
def flagItem (c : Char) : Parse FlagItem := do
  if c = '-' then return .negation
  else
    match flag? c with
    | some f => return .flag f
    | none => Parse.fail .flagUnknown (← Parse.charSpan)

/-- the problem of a part of a list of flags that is there already -/
def repeated : FlagItem → Cause
  | .negation => .flagNegationRepeated
  | .flag _ => .flagDuplicate

/-- read a list of flags up to the colon or parenthesis that ends it, which stays unread; `items` are those before, with
their places, and `count` bounds the text -/
def flagsFrom (items : List (FlagItem × Span)) : Nat → Parse (List FlagItem)
  | 0 => return items.map (·.1)
  | count + 1 => do
    match ← Parse.peek with
    | none => Parse.fail .flagMissing (← Parse.here)
    | some c =>
      if c = ':' ∨ c = ')' then
        match items.getLast? with
        | some (.negation, span) => Parse.fail .flagNegationDangling span
        | _ => return items.map (·.1)
      else
        let item ← flagItem c
        let span ← Parse.charSpan
        match items.find? (·.1 == item) with
        | some (_, earlier) => throw { cause := repeated item, span := span, earlier := some earlier }
        | none =>
          let _ ← Parse.bump
          flagsFrom (items ++ [(item, span)]) count

/-- count one more capturing group -/
def nextIndex : Parse Nat := do
  modify fun c => { c with groups := c.groups + 1 }
  return (← get).groups

/-- read a list of flags and what ends it, where `parenthesis` is the place of the opening parenthesis and `mark` that
of the question mark -/
def flagsOrPlain (parenthesis mark : Span) : Parse Opening := do
  if (← Parse.peek).isNone then Parse.fail .groupUnclosed parenthesis
  let items ← flagsFrom [] ((← get).rest.length + 1)
  let last ← Parse.peek
  let _ ← Parse.bump
  if last = some ':' then return .group parenthesis (.plain items)
  else if items.isEmpty then Parse.fail .repetitionMissing mark
  else return .flags (← Parse.since parenthesis.start) items

/-- read the opening of a group, from its parenthesis on -/
def opening : Parse Opening := do
  let parenthesis ← Parse.charSpan
  let _ ← Parse.bumpSpace
  if ← Parse.bumpOne [['?', '='], ['?', '!'], ['?', '<', '='], ['?', '<', '!']] then
    Parse.fail .lookAround (← Parse.since parenthesis.start)
  let mark ← Parse.here
  if ← Parse.bumpOne [['?', 'P', '<'], ['?', '<']] then
    let index ← nextIndex
    return .group parenthesis (.named index (← name))
  else if ← Parse.bumpOne [['?']] then flagsOrPlain parenthesis mark
  else return .group parenthesis (.numbered (← nextIndex))

end Munch.Pattern.Group
