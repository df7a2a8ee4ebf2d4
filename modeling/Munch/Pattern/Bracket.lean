/-
Bracketed classes.

A class holds characters, ranges, escapes, named sets of ASCII characters and further classes. What stands side by side is
united first; the operators between such unions all bind alike and to the left. The classes that are open at the same
time are a list of `OpenClass`, innermost first.
-/
import Munch.Pattern.Escape

namespace Munch.Pattern

/-- parts of a class that stand side by side, and the place that they take -/
structure ClassUnion where
  span : Span
  items : List ClassTree := []
  deriving Repr

namespace ClassUnion

/-- the union with one more part at its end -/
def push (u : ClassUnion) (item : ClassTree) : ClassUnion :=
  { span := ⟨if u.items.isEmpty then item.span.start else u.span.start, item.span.stop⟩, items := u.items ++ [item] }

/-- the union as one part -/
def toTree (u : ClassUnion) : ClassTree :=
  match u.items with
  | [] => .empty u.span
  | [item] => item
  | items => .union u.span items

end ClassUnion

/-- a class that has been opened and not yet closed -/
structure OpenClass where
  /-- the opening bracket with the signs that belong to it -/
  opening : Span
  negated : Bool
  /-- the left operand and the operator that the current union belongs to -/
  pending : Option (ClassTree × ClassOp) := none
  union : ClassUnion
  deriving Repr

namespace OpenClass

/-- the class with one more part in its current union -/
def push (c : OpenClass) (item : ClassTree) : OpenClass :=
  { c with union := c.union.push item }

/-- all that has been read of the class so far -/
def body (c : OpenClass) : ClassTree :=
  let right := c.union.toTree
  match c.pending with
  | none => right
  | some (left, op) => .binary ⟨left.span.start, right.span.stop⟩ op left right

/-- the class behind an operator that ends at the given place -/
def operate (c : OpenClass) (op : ClassOp) (place : Position) : OpenClass :=
  { c with pending := some (c.body, op), union := { span := .point place } }

/-- the finished class, whose closing bracket ends at the given place -/
def close (c : OpenClass) (stop : Position) : ClassTree :=
  .bracket ⟨c.opening.start, stop⟩ c.negated c.body

end OpenClass

namespace Bracket

/-- the sets of ASCII characters by their names -/
def asciiSet? (name : List Char) : Option AsciiSet :=
  match String.ofList name with
  | "alnum" => some .alnum
  | "alpha" => some .alpha
  | "ascii" => some .ascii
  | "blank" => some .blank
  | "cntrl" => some .cntrl
  | "digit" => some .digit
  | "graph" => some .graph
  | "lower" => some .lower
  | "print" => some .print
  | "punct" => some .punct
  | "space" => some .space
  | "upper" => some .upper
  | "word" => some .word
  | "xdigit" => some .xdigit
  | _ => none

/-- read a named set such as `[:alpha:]`; if the text is not of this form, nothing is read -/
def namedSet? : Parse (Option ClassTree) := do
  let start ← get
  match start.rest with
  | '[' :: ':' :: text =>
    let (negated, text) := match text with | '^' :: text => (true, text) | _ => (false, text)
    let name := text.takeWhile (· != ':')
    match text.dropWhile (· != ':'), asciiSet? name with
    | ':' :: ']' :: _, some kind =>
      let length := name.length + (if negated then 5 else 4)
      modify fun c => (c.rest.take length).foldl (fun c _ => c.advance) c
      return some (.ascii (← Parse.since start.position) kind negated)
    | _, _ => return none
  | _ => return none

/-- read the hyphens at the beginning of a class, which stand for themselves; `count` bounds the text -/
def hyphens (start : Position) (union : ClassUnion) : Nat → Parse ClassUnion
  | 0 => return union
  | count + 1 => do
    match ← Parse.peek with
    | some '-' =>
      let span ← Parse.charSpan
      match ← Parse.bumpSpace with
      | none => Parse.fail .classUnclosed (.point start)
      | some _ => hyphens start (union.push (.literal { span := span, char := '-' })) count
    | _ => return union

/-- read the opening of a class: the bracket, a sign of negation, and the hyphens or the closing bracket that stand for
themselves at the beginning -/
def opening : Parse OpenClass := do
  let start ← Parse.position
  let first ← Parse.bumpSpace
  if first.isNone then Parse.fail .classUnclosed (← Parse.since start)
  let negated := first == some '^'
  if negated then
    if (← Parse.bumpSpace).isNone then Parse.fail .classUnclosed (← Parse.since start)
  let union ← hyphens start { span := ← Parse.here } ((← get).rest.length + 1)
  let mut union := union
  if union.items.isEmpty && (← Parse.peek) == some ']' then
    union := union.push (.literal { span := ← Parse.charSpan, char := ']' })
    if (← Parse.bumpSpace).isNone then Parse.fail .classUnclosed (← Parse.since start)
  return { opening := ← Parse.since start, negated := negated, union := union }

/-- read a character or an escape of a class -/
def atom : Parse Atom := do
  match ← Parse.peek with
  | some '\\' => Escape.parse
  | some c =>
    let span ← Parse.charSpan
    let _ ← Parse.bump
    return .literal { span := span, char := c }
  | none => Parse.fail .classUnclosed (← Parse.here)

/-- read a range, or a single part of the class whose opening is given -/
def range (opening : Span) : Parse ClassTree := do
  let first ← atom
  Parse.skipSpace
  let c ← get
  match c.rest with
  | [] => Parse.fail .classUnclosed opening
  | x :: _ =>
    if x ≠ '-' ∨ c.secondInk = some ']' ∨ c.secondInk = some '-' then first.toClassItem
    else
      if (← Parse.bumpSpace).isNone then Parse.fail .classUnclosed opening
      let last ← atom
      let span : Span := ⟨first.span.start, last.span.stop⟩
      let low ← first.toBoundary
      let high ← last.toBoundary
      if high.char < low.char then Parse.fail .classRangeReversed span
      return .range span low high

/-- the operator that the next two characters write, if they are one -/
def operator? : List Char → Option ClassOp
  | '&' :: '&' :: _ => some .intersection
  | '-' :: '-' :: _ => some .difference
  | '~' :: '~' :: _ => some .symmetricDifference
  | _ => none

/-- read on in the innermost open class `c`, where `outer` are the classes around it, up to the end of the outermost
one; `count` bounds the text -/
def parseFrom (outer : List OpenClass) (c : OpenClass) : Nat → Parse ClassTree
  | 0 => Parse.fail .classUnclosed c.opening
  | count + 1 => do
    Parse.skipSpace
    let text := (← get).rest
    match operator? text with
    | some op =>
      let _ ← Parse.bump
      let _ ← Parse.bump
      parseFrom outer (c.operate op (← Parse.position)) count
    | none =>
      match text with
      | [] => Parse.fail .classUnclosed c.opening
      | '[' :: _ =>
        match ← namedSet? with
        | some item => parseFrom outer (c.push item) count
        | none => parseFrom (c :: outer) (← opening) count
      | ']' :: _ =>
        let _ ← Parse.bump
        let closed := c.close (← Parse.position)
        match outer with
        | [] => return closed
        | o :: rest => parseFrom rest (o.push closed) count
      | _ => parseFrom outer (c.push (← range c.opening)) count

/-- read a class, from its opening bracket on -/
def parse : Parse ClassTree := do
  let outermost ← opening
  parseFrom [] outermost ((← get).rest.length + 1)

end Bracket

end Munch.Pattern
