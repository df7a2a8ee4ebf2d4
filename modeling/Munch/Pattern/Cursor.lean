/-
Reading a pattern from left to right.

A `Cursor` is the text that is still unread and its place, with what the text before it has settled: whether white space
and comments are skipped, and which groups there are. `Parse` is the monad of the readers: a cursor goes in and comes out,
or a problem is reported.
-/
import Munch.Pattern.Problem
import Munch.Unicode.Space

namespace Munch.Pattern

/-- the unread text of a pattern and its place -/
structure Cursor where
  rest : List Char
  position : Position := .first
  /-- whether white space and comments are skipped -/
  skipping : Bool := false
  /-- the number of capturing groups so far -/
  groups : Nat := 0
  /-- the names of capturing groups so far, with their places -/
  names : List (List Char × Span) := []
  deriving Repr

/-- a computation that reads from a cursor and may report a problem -/
abbrev Parse (α : Type) : Type :=
  StateT Cursor (Except Problem) α

namespace Cursor

/-- the cursor behind its next character -/
def advance (c : Cursor) : Cursor :=
  match c.rest with
  | [] => c
  | x :: rest => { c with rest := rest, position := c.position.after x }

/-- the text behind white space and comments, and its place; `comment` says that a comment has begun, which ends with
its line -/
def skipFrom (comment : Bool) (position : Position) : List Char → List Char × Position
  | [] => ([], position)
  | x :: rest =>
    if comment then skipFrom (x != '\n') (position.after x) rest
    else if Unicode.space.has x then skipFrom false (position.after x) rest
    else if x = '#' then skipFrom true (position.after x) rest
    else (x :: rest, position)

/-- the cursor behind white space and comments, if they are skipped -/
def skipSpace (c : Cursor) : Cursor :=
  if c.skipping then
    let (rest, position) := skipFrom false c.position c.rest
    { c with rest := rest, position := position }
  else c

/-- the first character that is neither white space nor the first number sign; `seen` says that one has passed -/
def firstInk (seen : Bool) : List Char → Option Char
  | [] => none
  | x :: rest =>
    if Unicode.space.has x then firstInk seen rest
    else if !seen && x = '#' then firstInk true rest
    else some x

/-- the character after the next one, seen through white space if that is skipped; where nothing but white space follows,
it is the white space that counts -/
def secondInk (c : Cursor) : Option Char :=
  match c.rest with
  | [] => none
  | _ :: rest => if c.skipping then (firstInk false rest).or rest.head? else rest.head?

end Cursor

namespace Parse

/-- report a problem at the given place -/
def fail {α : Type} (cause : Cause) (span : Span) : Parse α :=
  throw { cause := cause, span := span }

/-- the place of the next character -/
def position : Parse Position :=
  return (← get).position

/-- the next character, if there is one -/
def peek : Parse (Option Char) :=
  return (← get).rest.head?

/-- the place that the next character takes -/
def charSpan : Parse Span :=
  return ⟨(← get).position, (← get).advance.position⟩

/-- the empty span in front of the next character -/
def here : Parse Span :=
  return .point (← get).position

/-- the span from `start` to the next character -/
def since (start : Position) : Parse Span :=
  return ⟨start, (← get).position⟩

/-- pass white space and comments, if they are skipped -/
def skipSpace : Parse Unit :=
  modify Cursor.skipSpace

/-- pass the next character, and give the one behind it -/
def bump : Parse (Option Char) := do
  modify Cursor.advance
  peek

/-- pass the next character and the white space behind it, and give the one behind that -/
def bumpSpace : Parse (Option Char) := do
  modify fun c => c.advance.skipSpace
  peek

/-- pass the first of the given texts that comes next, if there is one -/
def bumpOne (texts : List (List Char)) : Parse Bool := do
  let c ← get
  match texts.find? (·.isPrefixOf c.rest) with
  | some text =>
    set (text.foldl (fun c _ => c.advance) c)
    return true
  | none => return false

end Parse

end Munch.Pattern
