/-
Repetition operators: the signs `?`, `*` and `+`, and counts in braces, each followed by a question mark if it is to match
as little as possible.
-/
import Munch.Pattern.Cursor

namespace Munch.Pattern.Repetition

/-- how often something is repeated, and whether as often as possible -/
structure Range where
  least : Nat
  most : Option Nat
  greedy : Bool
  deriving DecidableEq, Repr

/-- the largest count that can be written -/
def largestCount : Nat :=
  4294967295

/-- pass white space in front of a number; `count` bounds the text -/
def skipBlanks : Nat → Parse Unit
  | 0 => return
  | count + 1 => do
    match ← Parse.peek with
    | some c =>
      if Unicode.space.has c then
        let _ ← Parse.bump
        skipBlanks count
    | none => return

/-- read the digits of a number behind `value`; the answer is the value and whether there was a digit -/
def digits (value : Nat) (any : Bool) : Nat → Parse (Nat × Bool)
  | 0 => return (value, any)
  | count + 1 => do
    match ← Parse.peek with
    | some c =>
      if c.isDigit then
        let _ ← Parse.bumpSpace
        digits (10 * value + (c.toNat - '0'.toNat)) true count
      else return (value, any)
    | none => return (value, any)

/-- read a decimal number with white space around it; a missing or too large number is an answer here and not yet a
reason to stop, because an unclosed brace comes first -/
def decimal : Parse (Except Problem Nat) := do
  let bound := (← get).rest.length + 1
  skipBlanks bound
  let start ← Parse.position
  let (value, any) ← digits 0 false bound
  let span ← Parse.since start
  skipBlanks bound
  if !any then return .error { cause := .countEmpty, span := span }
  else if largestCount < value then return .error { cause := .decimalInvalid, span := span }
  else return .ok value

/-- read the counts behind an opening brace at `start`, up to the closing brace, which stays unread -/
def counts (start : Position) : Parse (Nat × Option Nat) := do
  let least ← decimal
  match ← Parse.peek with
  | none => Parse.fail .countUnclosed (← Parse.since start)
  | some ',' =>
    match ← Parse.bumpSpace with
    | none => Parse.fail .countUnclosed (← Parse.since start)
    | some '}' => return (← least, none)
    | some _ =>
      let least ← least
      let most ← decimal
      return (least, some (← most))
  | some _ =>
    let least ← least
    return (least, some least)

/-- pass an operator and the question mark behind it, if there is one; the answer is whether there was none -/
def passGreedy (pass : Parse (Option Char)) : Parse Bool := do
  if (← pass) = some '?' then
    let _ ← Parse.bump
    return false
  return true

/-- read a sign, which repeats between `least` and `most` times -/
def sign (least : Nat) (most : Option Nat) : Parse Range := do
  return { least := least, most := most, greedy := ← passGreedy Parse.bump }

/-- read counts in braces, from the opening brace on -/
def braces : Parse Range := do
  let start ← Parse.position
  if (← Parse.bumpSpace).isNone then Parse.fail .countUnclosed (← Parse.since start)
  let (least, most) ← counts start
  if (← Parse.peek) ≠ some '}' then Parse.fail .countUnclosed (← Parse.since start)
  let greedy ← passGreedy Parse.bumpSpace
  if most.any fun m => decide (m < least) then Parse.fail .countReversed (← Parse.since start)
  return { least := least, most := most, greedy := greedy }

/-- read the operator that begins with the given character -/
def parse : Char → Parse Range
  | '?' => sign 0 (some 1)
  | '*' => sign 0 none
  | '+' => sign 1 none
  | _ => braces

/-- the characters that begin an operator -/
def begins (c : Char) : Bool :=
  c == '?' || c == '*' || c == '+' || c == '{'

end Munch.Pattern.Repetition
