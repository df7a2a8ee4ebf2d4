/-
Escapes: what a backslash makes of the characters behind it.
-/
import Munch.Pattern.Cursor
import Munch.Pattern.Tree
import Munch.Text.Numeral

namespace Munch.Pattern

/-- what one escape stands for -/
inductive Atom where
  | literal (l : Literal)
  | assertion (span : Span) (condition : Assertion)
  | shorthand (span : Span) (set : Shorthand) (negated : Bool)
  | property (span : Span) (query : PropertyQuery) (negated : Bool)
  deriving Repr

namespace Atom

/-- where an escape stands -/
def span : Atom → Span
  | literal l => l.span
  | assertion s _ => s
  | shorthand s _ _ => s
  | property s _ _ => s

/-- the escape as a part of a pattern -/
def toTree : Atom → Tree
  | literal l => .literal l
  | assertion s a => .assertion s a
  | shorthand s k n => .shorthand s k n
  | property s q n => .property s q n

/-- the escape as a part of a class, where assertions have no meaning -/
def toClassItem : Atom → Parse ClassTree
  | literal l => return .literal l
  | assertion s _ => Parse.fail .classEscapeInvalid s
  | shorthand s k n => return .shorthand s k n
  | property s q n => return .property s q n

/-- the escape as an end of a range, which has to be a character -/
def toBoundary : Atom → Parse Literal
  | literal l => return l
  | a => Parse.fail .classRangeNotLiteral a.span

end Atom

namespace Escape

/-- the characters with a meaning of their own somewhere in a pattern -/
def isMeta (c : Char) : Bool :=
  ['\\', '.', '+', '*', '?', '(', ')', '|', '[', ']', '{', '}', '^', '$', '#', '&', '-', '~'].contains c

/-- the characters that may be escaped without need: all of ASCII but letters, digits and angle brackets -/
def isPlain (c : Char) : Bool :=
  decide (c.toNat < 0x80) && !c.isAlphanum && c != '<' && c != '>'

/-- the control characters that have a letter -/
def control? : Char → Option Char
  | 'a' => some '\x07'
  | 'f' => some '\x0c'
  | 't' => some '\t'
  | 'n' => some '\n'
  | 'r' => some '\r'
  | 'v' => some '\x0b'
  | _ => none

/-- the assertions that have a letter or an angle bracket, word boundaries apart -/
def assertion? : Char → Option Assertion
  | 'A' => some .startText
  | 'z' => some .endText
  | 'B' => some .notWordBoundary
  | '<' => some .wordStart
  | '>' => some .wordEnd
  | _ => none

/-- the shorthand of a letter, and whether it is negated -/
def shorthand? : Char → Option (Shorthand × Bool)
  | 'd' => some (.digit, false)
  | 's' => some (.space, false)
  | 'w' => some (.word, false)
  | 'D' => some (.digit, true)
  | 'S' => some (.space, true)
  | 'W' => some (.word, true)
  | _ => none

/-- the character with the given number, if there is one -/
def scalar? (n : Nat) : Option Char :=
  if h : n.isValidChar then some (Char.ofNatAux n h) else none

/-- read up to `count` further hexadecimal digits behind `value`, from the next character on -/
def hexDigits (value : Nat) : Nat → Parse Nat
  | 0 => return value
  | count + 1 => do
    match ← Parse.peek with
    | none => Parse.fail .escapeIncomplete (← Parse.here)
    | some c =>
      match Numeral.hexValue? c with
      | none => Parse.fail .hexDigitInvalid (← Parse.charSpan)
      | some d =>
        let _ ← Parse.bumpSpace
        hexDigits (16 * value + d) count

/-- read hexadecimal digits up to the closing brace, which stays unread; `count` bounds the text, and the answer is the
value and whether there was a digit -/
def hexUntilBrace (opening : Position) (value : Nat) (any : Bool) : Nat → Parse (Nat × Bool)
  | 0 => return (value, any)
  | count + 1 => do
    match ← Parse.peek with
    | none => Parse.fail .escapeIncomplete (← Parse.since opening)
    | some '}' => return (value, any)
    | some c =>
      match Numeral.hexValue? c with
      | none => Parse.fail .hexDigitInvalid (← Parse.charSpan)
      | some d =>
        let _ ← Parse.bumpSpace
        hexUntilBrace opening (16 * value + d) true count

/-- read the number of a character between braces, from the opening brace on -/
def hexBraced (start : Position) : Parse Literal := do
  let opening ← Parse.position
  let digits := (← Parse.charSpan).stop
  let _ ← Parse.bumpSpace
  let (value, any) ← hexUntilBrace opening 0 false ((← get).rest.length + 1)
  let stop ← Parse.position
  let _ ← Parse.bumpSpace
  if !any then Parse.fail .hexEmpty (← Parse.since opening)
  else
    match scalar? value with
    | none => Parse.fail .hexNotScalar ⟨digits, stop⟩
    | some c => return { span := ← Parse.since start, char := c }

/-- read the number of a character of exactly `count` digits -/
def hexFixed (start : Position) (count : Nat) : Parse Literal := do
  let digits ← Parse.position
  let value ← hexDigits 0 count
  let stop ← Parse.position
  match scalar? value with
  | none => Parse.fail .hexNotScalar ⟨digits, stop⟩
  | some c => return { span := ⟨start, stop⟩, char := c, fromByte := count == 2 }

/-- read the number of a character behind the letter that says how many digits it has -/
def hex (start : Position) (letter : Char) : Parse Literal := do
  match ← Parse.bumpSpace with
  | none => Parse.fail .escapeIncomplete (← Parse.here)
  | some '{' => hexBraced start
  | some _ => hexFixed start (match letter with | 'x' => 2 | 'u' => 4 | _ => 8)

/-- split a text at the first place where `mark` stands -/
def splitAt? (mark : List Char) : List Char → Option (List Char × List Char)
  | [] => none
  | c :: rest =>
    if mark.isPrefixOf (c :: rest) then some ([], (c :: rest).drop mark.length)
    else (splitAt? mark rest).map fun (a, b) => (c :: a, b)

/-- the question that the text between braces asks, and whether it asks for all characters with another answer -/
def queryOf (text : List Char) : PropertyQuery × Bool :=
  match splitAt? ['!', '='] text with
  | some (name, value) => (.valued name value, true)
  | none =>
    match splitAt? [':'] text with
    | some (name, value) => (.valued name value, false)
    | none =>
      match splitAt? ['='] text with
      | some (name, value) => (.valued name value, false)
      | none => (.named text, false)

/-- read the text up to the closing brace, which stays unread; `count` bounds the text -/
def textUntilBrace : Nat → Parse (List Char)
  | 0 => return []
  | count + 1 => do
    match ← Parse.peek with
    | none => Parse.fail .escapeIncomplete (← Parse.here)
    | some '}' => return []
    | some c =>
      let _ ← Parse.bumpSpace
      return c :: (← textUntilBrace count)

/-- read the question for a Unicode property behind its letter, and whether it asks for all characters with another
answer -/
def propertyQuery : Parse (PropertyQuery × Bool) := do
  match ← Parse.bumpSpace with
  | none => Parse.fail .escapeIncomplete (← Parse.here)
  | some '{' =>
    let _ ← Parse.bumpSpace
    let text ← textUntilBrace ((← get).rest.length + 1)
    let _ ← Parse.bump
    return queryOf text
  | some '\\' => Parse.fail .propertyMalformed (← Parse.charSpan)
  | some c =>
    let _ ← Parse.bumpSpace
    return (.letter c, false)

/-- the characters of the names of word boundaries -/
def isBoundaryChar (c : Char) : Bool :=
  c.isAlpha || c == '-'

/-- read the name of a word boundary; `count` bounds the text -/
def boundaryName : Nat → Parse (List Char)
  | 0 => return []
  | count + 1 => do
    match ← Parse.peek with
    | some c =>
      if isBoundaryChar c then
        let _ ← Parse.bumpSpace
        return c :: (← boundaryName count)
      else return []
    | none => return []

/-- the word boundaries that have a name -/
def boundary? (name : List Char) : Option Assertion :=
  match String.ofList name with
  | "start" => some .wordStart
  | "end" => some .wordEnd
  | "start-half" => some .wordStartHalf
  | "end-half" => some .wordEndHalf
  | _ => none

/-- read what stands between braces behind a word boundary that began at `start`; a brace that opens a repetition count
is left unread -/
def namedBoundary? (start : Position) : Parse (Option Assertion) := do
  let before ← get
  match ← Parse.bumpSpace with
  | none => Parse.fail .boundaryOrCountUnclosed (← Parse.since start)
  | some c =>
    if !isBoundaryChar c then
      set before
      return none
    let inside ← Parse.position
    let name ← boundaryName ((← get).rest.length + 1)
    match ← Parse.peek with
    | some '}' =>
      let stop ← Parse.position
      let _ ← Parse.bump
      match boundary? name with
      | some a => return some a
      | none => Parse.fail .boundaryUnknown ⟨inside, stop⟩
    | _ => Parse.fail .boundaryUnclosed (← Parse.since before.position)

/-- read one escape, from its backslash on -/
def parse : Parse Atom := do
  let start ← Parse.position
  match ← Parse.bump with
  | none => Parse.fail .escapeIncomplete (← Parse.since start)
  | some c =>
    if c.isDigit then Parse.fail .backreference ⟨start, (← Parse.charSpan).stop⟩
    else if c = 'x' ∨ c = 'u' ∨ c = 'U' then return .literal (← hex start c)
    else if c = 'p' ∨ c = 'P' then
      let (query, other) ← propertyQuery
      return .property (← Parse.since start) query (other != (c == 'P'))
    else
      let _ ← Parse.bump
      let span ← Parse.since start
      match shorthand? c with
      | some (set, negated) => return .shorthand span set negated
      | none =>
        if isMeta c || isPlain c then return .literal { span := span, char := c }
        else
          match control? c with
          | some d => return .literal { span := span, char := d }
          | none =>
            match assertion? c with
            | some a => return .assertion span a
            | none =>
              if c = 'b' then
                match ← Parse.peek with
                | some '{' =>
                  match ← namedBoundary? start with
                  | some a => return .assertion (← Parse.since start) a
                  | none => return .assertion span .wordBoundary
                | _ => return .assertion span .wordBoundary
              else Parse.fail .escapeUnknown span

end Escape

end Munch.Pattern
