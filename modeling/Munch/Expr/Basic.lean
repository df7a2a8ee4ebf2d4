/-
What a pattern means, before it is known whether a lexer can use it.

An `Expr` may hold bytes that are no characters and conditions on the place in the text, which no rule of a lexer can
have. The functions that build one keep it in a simple form: sequences and choices are not nested directly in themselves,
neighbouring texts are one text, and a choice between single characters or sets is one set.
-/
import Munch.RangeSet

namespace Munch

/-- conditions on a place in the text -/
inductive Look where
  | textStart | textEnd | lineStart | lineEnd | lineStartReturn | lineEndReturn
  | wordAscii | notWordAscii | wordUnicode | notWordUnicode
  | wordStartAscii | wordEndAscii | wordStartUnicode | wordEndUnicode
  | wordStartHalfAscii | wordEndHalfAscii | wordStartHalfUnicode | wordEndHalfUnicode
  deriving DecidableEq, Repr

/-- what a pattern means -/
inductive Expr where
  /-- the empty word -/
  | empty
  /-- a text, given by the bytes of its UTF-8 form -/
  | text (bytes : List UInt8)
  /-- one character of a set -/
  | characters (set : RangeSet)
  /-- one byte of a set -/
  | bytes (set : RangeSet)
  /-- the empty word where a condition holds -/
  | look (condition : Look)
  | repetition (least : Nat) (most : Option Nat) (greedy : Bool) (body : Expr)
  | capture (index : Nat) (name : Option (List Char)) (body : Expr)
  | sequence (items : List Expr)
  | choice (branches : List Expr)
  deriving Repr

namespace Expr

mutual

/-- whether two expressions are written alike -/
def same : Expr → Expr → Bool
  | empty, empty => true
  | text a, text b => a == b
  | characters s, characters t => s == t
  | bytes s, bytes t => s == t
  | look l, look m => l == m
  | repetition l m g a, repetition l' m' g' b => l == l' && m == m' && g == g' && same a b
  | capture i n a, capture j m b => i == j && n == m && same a b
  | sequence as, sequence bs => sameAll as bs
  | choice as, choice bs => sameAll as bs
  | _, _ => false

/-- whether two lists of expressions are written alike -/
def sameAll : List Expr → List Expr → Bool
  | [], [] => true
  | a :: as, b :: bs => same a b && sameAll as bs
  | _, _ => false

end

mutual

/-- the length in bytes of the longest match, if there is one -/
def longest? : Expr → Option Nat
  | empty => some 0
  | text bs => some bs.length
  | characters s => s.ranges.getLast?.map fun r => (Char.ofNat r.high).utf8Size
  | bytes s => if s.ranges.isEmpty then none else some 1
  | look _ => some 0
  | repetition _ most _ body => most.bind fun m => (longest? body).map (· * m)
  | capture _ _ body => longest? body
  | sequence items => sumLongest? items
  | choice branches => maxLongest? branches

/-- the sum of the longest lengths, if all are there -/
def sumLongest? : List Expr → Option Nat
  | [] => some 0
  | e :: rest => (longest? e).bind fun n => (sumLongest? rest).map (n + ·)

/-- the greatest of the longest lengths, if all are there -/
def maxLongest? : List Expr → Option Nat
  | [] => some 0
  | e :: rest => (longest? e).bind fun n => (maxLongest? rest).map (max n)

end

mutual

/-- the number of nodes -/
def nodeCount : Expr → Nat
  | repetition _ _ _ body => nodeCount body + 1
  | capture _ _ body => nodeCount body + 1
  | sequence items => nodeCounts items + 1
  | choice branches => nodeCounts branches + 1
  | _ => 1

/-- the number of nodes of all expressions of a list -/
def nodeCounts : List Expr → Nat
  | [] => 0
  | e :: rest => nodeCount e + nodeCounts rest

end

end Expr

end Munch
