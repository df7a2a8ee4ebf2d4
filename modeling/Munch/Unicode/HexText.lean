/-
Numbers and ranges of numbers written as text.

A text is a list of words with blanks and line ends between them. A word holds numbers in hexadecimal with hyphens between
them, and a range is a word of one number or of its two ends.
-/
import Munch.RangeSet
import Munch.Text.Numeral

namespace Munch

namespace Unicode.HexText

/-- put a digit behind the last number of a word, which stands first in the list -/
def push (d : Nat) : List Nat → List Nat
  | [] => [d]
  | n :: before => (16 * n + d) :: before

/-- a word that is complete; there is none between two blanks -/
def close : List Nat → List (List Nat)
  | [] => []
  | word => [word.reverse]

/-- the words of a text behind the part of a word that has been read, whose last number stands first -/
def wordsFrom (word : List Nat) : List Char → List (List Nat)
  | [] => close word
  | c :: rest =>
    match Numeral.hexValue? c with
    | some d => wordsFrom (push d word) rest
    | none => if c == '-' then wordsFrom (0 :: word) rest else close word ++ wordsFrom [] rest

/-- the words of a text, each as its numbers -/
def words (text : String) : List (List Nat) :=
  wordsFrom [] text.toList

/-- the range that a word stands for -/
def range? : List Nat → Option Range
  | [n] => some ⟨n, n, Nat.le_refl n⟩
  | [low, high] => some (.between low high)
  | _ => none

end Unicode.HexText

/-- the set of the ranges of a text, which are in ascending order -/
def RangeSet.ofText (text : String) : RangeSet :=
  ⟨(Unicode.HexText.words text).filterMap Unicode.HexText.range?⟩

end Munch
