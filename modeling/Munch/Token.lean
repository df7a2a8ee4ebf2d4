/-
Tokens and the text that they cover.

Places in a text are counted in bytes of its UTF-8 form, and a piece can be taken out only between characters.
-/

namespace Munch

/-- the bytes from `start` up to but not including `stop` -/
structure ByteSpan where
  start : Nat
  stop : Nat
  deriving DecidableEq, Repr

namespace ByteSpan

/-- the number of bytes -/
def length (s : ByteSpan) : Nat :=
  s.stop - s.start

/-- whether there are no bytes -/
def isEmpty (s : ByteSpan) : Bool :=
  decide (s.stop ≤ s.start)

/-- the characters behind the first `n` bytes, if a character ends there -/
def dropBytes? (n : Nat) : List Char → Option (List Char)
  | [] => if n = 0 then some [] else none
  | c :: rest =>
    if n = 0 then some (c :: rest)
    else if c.utf8Size ≤ n then dropBytes? (n - c.utf8Size) rest
    else none

/-- the characters in the first `n` bytes, if a character ends there -/
def takeBytes? (n : Nat) : List Char → Option (List Char)
  | [] => if n = 0 then some [] else none
  | c :: rest =>
    if n = 0 then some []
    else if c.utf8Size ≤ n then (takeBytes? (n - c.utf8Size) rest).map (c :: ·)
    else none

/-- the characters of the span, if it begins and ends between characters -/
def slice? (s : ByteSpan) (text : List Char) : Option (List Char) :=
  if s.start ≤ s.stop then (dropBytes? s.start text).bind (takeBytes? s.length) else none

end ByteSpan

/-- a token: its type, the mode in which it was found, and the place that it takes -/
structure Token where
  type : Nat
  mode : Nat
  span : ByteSpan
  deriving DecidableEq, Repr

/-- the text of a token -/
def Token.text? (t : Token) (text : List Char) : Option (List Char) :=
  t.span.slice? text

end Munch
