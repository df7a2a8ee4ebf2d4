/-
What can be wrong with a pattern.

A problem is a cause together with the place in the pattern that it is about; two causes also name an earlier place, the
flag or group name that the later one repeats.
-/
import Munch.Pattern.Position
import Munch.Text.Numeral

namespace Munch.Pattern

/-- the reasons for which a pattern is refused -/
inductive Cause where
  | classUnclosed
  | classRangeReversed
  | classRangeNotLiteral
  | classEscapeInvalid
  | groupUnclosed
  | groupUnopened
  | groupNameUnclosed
  | groupNameEmpty
  | groupNameInvalid
  | groupNameDuplicate
  | flagUnknown
  | flagDuplicate
  | flagNegationRepeated
  | flagNegationDangling
  | flagMissing
  | lookAround
  | repetitionMissing
  | countUnclosed
  | countEmpty
  | countReversed
  | decimalInvalid
  | escapeIncomplete
  | escapeUnknown
  | backreference
  | hexDigitInvalid
  | hexEmpty
  | hexNotScalar
  | propertyMalformed
  | propertyUnknown
  | propertyValueUnknown
  | boundaryUnknown
  | boundaryUnclosed
  | boundaryOrCountUnclosed
  | nestedTooDeep (limit : Nat)
  | invalidUtf8
  | unicodeNotAllowed
  deriving DecidableEq, Repr

/-- the text of a cause -/
def Cause.message : Cause → String
  | classUnclosed => "unclosed character class"
  | classRangeReversed => "invalid character class range, the start must be <= the end"
  | classRangeNotLiteral => "invalid range boundary, must be a literal"
  | classEscapeInvalid => "invalid escape sequence found in character class"
  | groupUnclosed => "unclosed group"
  | groupUnopened => "unopened group"
  | groupNameUnclosed => "unclosed capture group name"
  | groupNameEmpty => "empty capture group name"
  | groupNameInvalid => "invalid capture group character"
  | groupNameDuplicate => "duplicate capture group name"
  | flagUnknown => "unrecognized flag"
  | flagDuplicate => "duplicate flag"
  | flagNegationRepeated => "flag negation operator repeated"
  | flagNegationDangling => "dangling flag negation operator"
  | flagMissing => "expected flag but got end of regex"
  | lookAround => "look-around, including look-ahead and look-behind, is not supported"
  | repetitionMissing => "repetition operator missing expression"
  | countUnclosed => "unclosed counted repetition"
  | countEmpty => "repetition quantifier expects a valid decimal"
  | countReversed => "invalid repetition count range, the start must be <= the end"
  | decimalInvalid => "decimal literal invalid"
  | escapeIncomplete => "incomplete escape sequence, reached end of pattern prematurely"
  | escapeUnknown => "unrecognized escape sequence"
  | backreference => "backreferences are not supported"
  | hexDigitInvalid => "invalid hexadecimal digit"
  | hexEmpty => "hexadecimal literal empty"
  | hexNotScalar => "hexadecimal literal is not a Unicode scalar value"
  | propertyMalformed => "invalid Unicode character class"
  | propertyUnknown => "Unicode property not found"
  | propertyValueUnknown => "Unicode property value not found"
  | boundaryUnknown =>
    "unrecognized special word boundary assertion, valid choices are: start, end, start-half or end-half"
  | boundaryUnclosed => "special word boundary assertion is either unclosed or contains an invalid character"
  | boundaryOrCountUnclosed =>
    "found either the beginning of a special word boundary or a bounded repetition on a \\b with an opening brace, " ++
      "but no closing brace"
  | nestedTooDeep limit =>
    "exceed the maximum number of nested parentheses/brackets (" ++ Numeral.decimal limit ++ ")"
  | invalidUtf8 => "pattern can match invalid UTF-8"
  | unicodeNotAllowed => "Unicode not allowed here"

/-- a cause, the place that it is about, and the earlier place that it repeats if there is one -/
structure Problem where
  cause : Cause
  span : Span
  earlier : Option Span := none
  deriving DecidableEq, Repr

end Munch.Pattern
