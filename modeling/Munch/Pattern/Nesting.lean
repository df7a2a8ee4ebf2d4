/-
How deep the parts of a pattern are nested in each other.

Sequences, alternations, groups, repetitions and bracketed classes each add a level, and inside a class so do unions and
operators. `Tree.tooDeep?` finds the first part, read from the outside and from the left, that would be one level too deep.
-/
import Munch.Pattern.Tree

namespace Munch.Pattern

namespace ClassTree

mutual

/-- the first part that lies deeper than `room` levels -/
def tooDeep? (room : Nat) : ClassTree → Option Span
  | bracket s _ body => if room = 0 then some s else tooDeep? (room - 1) body
  | union s items => if room = 0 then some s else anyTooDeep? (room - 1) items
  | binary s _ left right =>
    if room = 0 then some s else (tooDeep? (room - 1) left).or (tooDeep? (room - 1) right)
  | _ => none

/-- the first part of a list that lies deeper than `room` levels -/
def anyTooDeep? (room : Nat) : List ClassTree → Option Span
  | [] => none
  | t :: rest => (tooDeep? room t).or (anyTooDeep? room rest)

end

end ClassTree

namespace Tree

mutual

/-- the first part that lies deeper than `room` levels -/
def tooDeep? (room : Nat) : Tree → Option Span
  | charClass c => c.tooDeep? room
  | repetition s _ _ _ body => if room = 0 then some s else tooDeep? (room - 1) body
  | group s _ body => if room = 0 then some s else tooDeep? (room - 1) body
  | alternation s branches => if room = 0 then some s else anyTooDeep? (room - 1) branches
  | sequence s items => if room = 0 then some s else anyTooDeep? (room - 1) items
  | _ => none

/-- the first part of a list that lies deeper than `room` levels -/
def anyTooDeep? (room : Nat) : List Tree → Option Span
  | [] => none
  | t :: rest => (tooDeep? room t).or (anyTooDeep? room rest)

end

end Tree

end Munch.Pattern
