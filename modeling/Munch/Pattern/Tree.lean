/-
Patterns as they are written: the tree that reading a pattern gives, with the place of every part.

The parts of a bracketed class form a tree of their own, `ClassTree`.
-/
import Munch.Pattern.Position

namespace Munch.Pattern

/-- one character that stands for itself -/
structure Literal where
  span : Span
  char : Char
  /-- written as two hexadecimal digits behind `\x`, which may also be meant as a byte -/
  fromByte : Bool := false
  deriving DecidableEq, Repr

/-- the sets that have a letter of their own -/
inductive Shorthand where
  | digit
  | space
  | word
  deriving DecidableEq, Repr

/-- the sets of ASCII characters that have a name inside brackets -/
inductive AsciiSet where
  | alnum | alpha | ascii | blank | cntrl | digit | graph | lower | print | punct | space | upper | word | xdigit
  deriving DecidableEq, Repr

/-- how a Unicode property is asked for: by one letter, by a name, or by a name and a value -/
inductive PropertyQuery where
  | letter (c : Char)
  | named (name : List Char)
  | valued (name value : List Char)
  deriving DecidableEq, Repr

/-- the ways in which two classes are joined -/
inductive ClassOp where
  | intersection
  | difference
  | symmetricDifference
  deriving DecidableEq, Repr

/-- conditions on a place in the text -/
inductive Assertion where
  | startLine | endLine | startText | endText
  | wordBoundary | notWordBoundary | wordStart | wordEnd | wordStartHalf | wordEndHalf
  deriving DecidableEq, Repr

/-- the parts of a bracketed class -/
inductive ClassTree where
  | empty (span : Span)
  | literal (l : Literal)
  | range (span : Span) (first last : Literal)
  | ascii (span : Span) (set : AsciiSet) (negated : Bool)
  | shorthand (span : Span) (set : Shorthand) (negated : Bool)
  | property (span : Span) (query : PropertyQuery) (negated : Bool)
  | bracket (span : Span) (negated : Bool) (body : ClassTree)
  | union (span : Span) (items : List ClassTree)
  | binary (span : Span) (op : ClassOp) (left right : ClassTree)
  deriving Repr

/-- where a part of a class stands -/
def ClassTree.span : ClassTree → Span
  | empty s => s
  | literal l => l.span
  | range s _ _ => s
  | ascii s _ _ => s
  | shorthand s _ _ => s
  | property s _ _ => s
  | bracket s _ _ => s
  | union s _ => s
  | binary s _ _ _ => s

/-- the letters that change how the following text is read -/
inductive Flag where
  | caseInsensitive
  | multiLine
  | dotMatchesNewLine
  | swapGreed
  | unicode
  | crlf
  | ignoreWhitespace
  deriving DecidableEq, Repr

/-- one character of a list of flags: a flag, or the sign that turns the following flags off -/
inductive FlagItem where
  | negation
  | flag (f : Flag)
  deriving DecidableEq, Repr

/-- what a list of flags says about one flag: the first mention counts, and it turns the flag off behind the sign -/
def flagState (f : Flag) (off : Bool) : List FlagItem → Option Bool
  | [] => none
  | .negation :: rest => flagState f true rest
  | .flag g :: rest => if g = f then some (!off) else flagState f off rest

/-- the kinds of groups -/
inductive GroupKind where
  | numbered (index : Nat)
  | named (index : Nat) (name : List Char)
  | plain (flags : List FlagItem)
  deriving DecidableEq, Repr

/-- a pattern as it is written -/
inductive Tree where
  | empty (span : Span)
  | flags (span : Span) (items : List FlagItem)
  | literal (l : Literal)
  | dot (span : Span)
  | assertion (span : Span) (condition : Assertion)
  | shorthand (span : Span) (set : Shorthand) (negated : Bool)
  | property (span : Span) (query : PropertyQuery) (negated : Bool)
  | charClass (body : ClassTree)
  | repetition (span : Span) (least : Nat) (most : Option Nat) (greedy : Bool) (body : Tree)
  | group (span : Span) (kind : GroupKind) (body : Tree)
  | alternation (span : Span) (branches : List Tree)
  | sequence (span : Span) (items : List Tree)
  deriving Repr

/-- where a part of a pattern stands -/
def Tree.span : Tree → Span
  | empty s => s
  | flags s _ => s
  | literal l => l.span
  | dot s => s
  | assertion s _ => s
  | shorthand s _ _ => s
  | property s _ _ => s
  | charClass c => c.span
  | repetition s _ _ _ _ => s
  | group s _ _ => s
  | alternation s _ => s
  | sequence s _ => s

/-- whether a repetition may follow; it may not follow an empty place or a list of flags -/
def Tree.isRepeatable : Tree → Bool
  | empty _ => false
  | flags _ _ => false
  | _ => true

end Munch.Pattern
