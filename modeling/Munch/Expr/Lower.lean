/-
Expressions as rules of a lexer.

A rule is a regular expression over code points. It has no place for conditions on the text around it nor for bytes that
are no characters, so an expression with one of these is refused; captures and greediness make no difference to a lexer.
Counts in the wrong order are a fault of the expression. What is wrong first, from the inside and from the left, is
reported.
-/
import Munch.Expr.Basic
import Munch.Regex

namespace Munch

namespace Look

/-- the name of a condition -/
def name : Look → String
  | textStart => "Start"
  | textEnd => "End"
  | lineStart => "StartLF"
  | lineEnd => "EndLF"
  | lineStartReturn => "StartCRLF"
  | lineEndReturn => "EndCRLF"
  | wordAscii => "WordAscii"
  | notWordAscii => "WordAsciiNegate"
  | wordUnicode => "WordUnicode"
  | notWordUnicode => "WordUnicodeNegate"
  | wordStartAscii => "WordStartAscii"
  | wordEndAscii => "WordEndAscii"
  | wordStartUnicode => "WordStartUnicode"
  | wordEndUnicode => "WordEndUnicode"
  | wordStartHalfAscii => "WordStartHalfAscii"
  | wordEndHalfAscii => "WordEndHalfAscii"
  | wordStartHalfUnicode => "WordStartHalfUnicode"
  | wordEndHalfUnicode => "WordEndHalfUnicode"

/-- the condition with the given name -/
def ofName? : String → Option Look
  | "Start" => some textStart
  | "End" => some textEnd
  | "StartLF" => some lineStart
  | "EndLF" => some lineEnd
  | "StartCRLF" => some lineStartReturn
  | "EndCRLF" => some lineEndReturn
  | "WordAscii" => some wordAscii
  | "WordAsciiNegate" => some notWordAscii
  | "WordUnicode" => some wordUnicode
  | "WordUnicodeNegate" => some notWordUnicode
  | "WordStartAscii" => some wordStartAscii
  | "WordEndAscii" => some wordEndAscii
  | "WordStartUnicode" => some wordStartUnicode
  | "WordEndUnicode" => some wordEndUnicode
  | "WordStartHalfAscii" => some wordStartHalfAscii
  | "WordEndHalfAscii" => some wordEndHalfAscii
  | "WordStartHalfUnicode" => some wordStartHalfUnicode
  | "WordEndHalfUnicode" => some wordEndHalfUnicode
  | _ => none

end Look

/-- what no rule of a lexer can express -/
inductive Unsupported where
  | assertion (condition : Look)
  | text (bytes : List UInt8)
  | byteClass (set : RangeSet)
  deriving DecidableEq, Repr

namespace Unsupported

/-- a byte as an ASCII character: a blank in quotes, the usual escapes, and two hexadecimal digits for what is not
printable -/
def byteText (b : Nat) : String :=
  if b = 0x20 then "' '"
  else if b = 0x09 then "\\t"
  else if b = 0x0D then "\\r"
  else if b = 0x0A then "\\n"
  else if b = 0x27 then "\\'"
  else if b = 0x22 then "\\\""
  else if b = 0x5C then "\\\\"
  else if 0x20 < b ∧ b < 0x7F then String.singleton (Char.ofNat b)
  else
    let digits := (Numeral.hexDigits b).map Char.toUpper
    String.ofList ('\\' :: 'x' :: (List.replicate (2 - digits.length) '0' ++ digits))

/-- a range of bytes in a message -/
def rangeText (r : Range) : String :=
  "ClassBytesRange \x7b start: " ++ byteText r.low ++ ", end: " ++ byteText r.high ++ " \x7d"

/-- what is not supported, in words -/
def feature : Unsupported → String
  | assertion l => "Assertion " ++ l.name
  | text bs => "Non UTF-8 literal [" ++ ", ".intercalate (bs.map fun b => Numeral.decimal b.toNat) ++ "]"
  | byteClass s =>
    "Non ASCII byte class ClassBytes \x7b set: IntervalSet \x7b ranges: [" ++
      ", ".intercalate (s.ranges.map rangeText) ++ "], folded: false \x7d \x7d"

/-- the text of a refusal -/
def message (u : Unsupported) : String :=
  "Unsupported regex feature: " ++ u.feature

end Unsupported

/-- why an expression is no rule of a lexer -/
inductive Refusal where
  | unsupported (feature : Unsupported)
  | fault (f : Fault)
  deriving DecidableEq, Repr

/-- the text of a refusal -/
def Refusal.message : Refusal → String
  | unsupported feature => feature.message
  | fault f => f.message?.getD ""

namespace Expr

/-- the interval of a range of a set -/
def intervalOf (r : Range) : Interval :=
  ⟨r.low, r.high, r.low_le_high⟩

/-- one code point of a set -/
def setRegex (s : RangeSet) : Regex :=
  .set (s.ranges.map intervalOf)

/-- the characters whose UTF-8 form the bytes are -/
def characters? (bytes : List UInt8) : Option (List Char) :=
  (ByteArray.mk bytes.toArray).utf8Decode?.map Array.toList

/-- between `least` and `most` repetitions, written out -/
def unfold (least : Nat) (most : Option Nat) (body : Regex) : Except Fault Regex :=
  match most, least with
  | none, 0 => .ok (.catAll [.star body])
  | none, n + 1 => .ok (.catAll (List.replicate n body ++ [.plus body]))
  | some m, n =>
    if n ≤ m then .ok (.catAll (List.replicate n body ++ List.replicate (m - n) (.opt body)))
    else .error (.invalidCounts n m)

mutual

/-- the rule that matches what the expression matches -/
def toRegex : Expr → Except Refusal Regex
  | empty => .ok .empty
  | text bs =>
    match characters? bs with
    | some cs => .ok (.literal cs)
    | none => .error (.unsupported (.text bs))
  | characters s => .ok (setRegex s)
  | bytes s => if s.isAscii then .ok (setRegex s) else .error (.unsupported (.byteClass s))
  | look l => .error (.unsupported (.assertion l))
  | repetition least most _ body => do (unfold least most (← toRegex body)).mapError .fault
  | capture _ _ body => toRegex body
  | sequence items => (toRegexes items).map .catAll
  | choice branches => (toRegexes branches).map .altAll

/-- the rules for the expressions of a list -/
def toRegexes : List Expr → Except Refusal (List Regex)
  | [] => .ok []
  | e :: rest => do
    let r ← toRegex e
    let rs ← toRegexes rest
    return r :: rs

end

end Expr

end Munch
