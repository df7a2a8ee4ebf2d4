/-
Readers for the constants of a source text.

A reader takes a value from the front of a text and gives back the rest; it fails on a text that does not begin with such a
value. Between the words of a text there may be blanks and comments, which may be nested. Numbers are decimal, or
hexadecimal behind the mark `0x`; a quoted text has the escapes `\0`, `\t`, `\n`, `\r`, `\\`, `\'`, `\"`, and
`\u{...}` with one to six hexadecimal digits. The elements of a list are counted: a list of `n` elements has exactly `n`.

`read?` reads the tables from a source text.
-/
import Munch.Source

namespace Munch.Source

/-- what takes a value from the front of a text, and leaves the rest -/
abbrev Reader (α : Type) :=
  StateT (List Char) Option α

/-- the text behind blanks and comments, inside of `depth` comments -/
def skip : Nat → List Char → List Char
  | _, [] => []
  | 0, '/' :: '*' :: rest => skip 1 rest
  | 0, c :: rest => if c.isWhitespace then skip 0 rest else c :: rest
  | depth + 1, '*' :: '/' :: rest => skip depth rest
  | depth + 1, '/' :: '*' :: rest => skip (depth + 2) rest
  | depth + 1, _ :: rest => skip (depth + 1) rest

/-- exactly the given characters -/
def exactly (w : String) : Reader Unit := fun text =>
  if w.toList.isPrefixOf text then some ((), text.drop w.toList.length) else none

/-- a word behind blanks -/
def word (w : String) : Reader Unit := fun text =>
  exactly w (skip 0 text)

/-- words one after the other -/
def words : List String → Reader Unit
  | [] => pure ()
  | w :: ws => do
    word w
    words ws

/-- whether a character is a digit to the given base -/
def isDigitOf (base : Nat) (c : Char) : Bool :=
  (Numeral.hexValue? c).any fun d => decide (d < base)

/-- the number with more digits behind those of `n` -/
def withDigits (base n : Nat) (digits : List Char) : Nat :=
  digits.foldl (fun n c => base * n + (Numeral.hexValue? c).getD 0) n

/-- a number to the given base -/
def digits (base : Nat) : Reader Nat := fun text =>
  let ds := text.takeWhile (isDigitOf base)
  if ds.isEmpty then none else some (withDigits base 0 ds, text.dropWhile (isDigitOf base))

/-- a number, hexadecimal behind a mark -/
def natural : Reader Nat := fun text =>
  let text := skip 0 text
  if ['0', 'x'].isPrefixOf text then digits 16 (text.drop 2) else digits 10 text

/-- a truth value -/
def boolean : Reader Bool :=
  (do word "true"; return true) <|> (do word "false"; return false)

/-- a number that may be missing -/
def optional : Reader (Option Nat) :=
  (do word "None"; return none) <|> (do words ["Some", "("]; let n ← natural; word ")"; return some n)

/-- where in a quoted text a character stands -/
inductive Place where
  | plain
  /-- behind a backslash -/
  | escape
  /-- behind the letter of a character given by its number -/
  | brace
  /-- behind so many digits of the number of a character -/
  | number (count value : Nat)

/-- the character that a letter behind a backslash stands for -/
def escaped? : Char → Option Char
  | '0' => some '\x00'
  | 't' => some '\t'
  | 'n' => some '\n'
  | 'r' => some '\r'
  | '\\' => some '\\'
  | '\'' => some '\''
  | '"' => some '"'
  | _ => none

/-- a character in front of those that were read -/
def push (c : Char) (read : List Char × List Char) : List Char × List Char :=
  (c :: read.1, read.2)

/-- the characters of a quoted text up to the closing quote, and the rest -/
def body : Place → List Char → Option (List Char × List Char)
  | _, [] => none
  | .plain, c :: rest =>
    if c = '"' then some ([], rest)
    else if c = '\\' then body .escape rest
    else if c = '\r' then none
    else (body .plain rest).map (push c)
  | .escape, c :: rest =>
    if c = 'u' then body .brace rest
    else (escaped? c).bind fun d => (body .plain rest).map (push d)
  | .brace, c :: rest => if c = '{' then body (.number 0 0) rest else none
  | .number count value, c :: rest =>
    if c = '}' then
      if 0 < count ∧ count ≤ 6 ∧ value.isValidChar then (body .plain rest).map (push (Char.ofNat value)) else none
    else (Numeral.hexValue? c).bind fun d => body (.number (count + 1) (16 * value + d)) rest

/-- a quoted text -/
def quoted : Reader String := do
  word "\""
  fun text => (body .plain text).map fun (cs, rest) => (String.ofList cs, rest)

/-- a comma, if there is one -/
def comma? : Reader Bool :=
  (do word ","; return true) <|> return false

/-- the given number of elements with commas between them, and the closing bracket; there may be a comma behind the last -/
def elements {α : Type} (item : Reader α) : Nat → Reader (List α)
  | 0 => do
    word "]"
    return []
  | n + 1 => do
    let a ← item
    match ← comma?, n with
    | true, _ => do
      let as ← elements item n
      return a :: as
    | false, 0 => do
      word "]"
      return [a]
    | false, _ + 1 => failure

/-- a constant that is a number -/
def numberConstant (name : String) : Reader Nat := do
  words ["const", name, ":", "usize", "="]
  let n ← natural
  word ";"
  return n

/-- a constant that is a list: the number of elements that its type says, and as many elements -/
def listConstant {α : Type} (name type : String) (item : Reader α) : Reader (Nat × Array α) := do
  words ["const", name, ":", "&", "[", type, ";"]
  let n ← natural
  words ["]", "=", "&", "["]
  let as ← elements item n
  word ";"
  return (n, as.toArray)

/-- a token type -/
def tokenInfo : Reader TokenInfo := do
  word "("
  let name ← quoted
  word ","
  let mode ← natural
  word ")"
  return { name := name, mode := mode }

/-- the ends of an interval -/
def interval : Reader (Nat × Nat) := do
  word "("
  let low ← natural
  word ","
  let high ← natural
  word ")"
  return (low, high)

/-- the constants of a source text: the tables, and the numbers of elements that the types of their lists say -/
def constants : Reader (Tables × List Nat) := do
  let symbolCount ← numberConstant "SYMBOL_COUNT"
  let errorState ← numberConstant "ERROR_STATE"
  let startState ← numberConstant "START_STATE"
  let startMode ← numberConstant "START_MODE"
  let (moveCount, transitions) ← listConstant "TRANSITIONS" "usize" natural
  let (markCount, accepting) ← listConstant "ACCEPTING" "bool" boolean
  let (typeCount, tokenTypes) ← listConstant "TOKEN_TYPES" "Option<usize>" optional
  let (tokenCount, tokens) ← listConstant "TOKENS" "(&str, usize)" tokenInfo
  let (pairCount, intervals) ← listConstant "INTERVALS" "(u32, u32)" interval
  let (nameCount, modeNames) ← listConstant "MODE_NAMES" "&str" quoted
  return ({ transitions, symbolCount, accepting, tokenTypes, tokens, intervals, errorState, startState, startMode,
            modeNames }, [moveCount, markCount, typeCount, tokenCount, pairCount, nameCount])

/-- the line that names the types of the tables -/
def header (o : Options) : String :=
  "use " ++ o.typesPath ++ "::\x7bScannerData, TokenInfo\x7d;"

/-- the constants in a source text that was written with the given names. What stands behind the constants is not read. The
names must be known: they may be any text, even one that looks like constants -/
def contents? (o : Options) (text : String) : Option (Tables × List Nat) := do
  let ((), rest) ← exactly (header o) text.toList
  let (found, _) ← constants rest
  return found

/-- the tables in a source text -/
def read? (o : Options) (text : String) : Option Tables :=
  (contents? o text).map Prod.fst

/-- the numbers of elements that the types of the lists in a source text say -/
def declared? (o : Options) (text : String) : Option (List Nat) :=
  (contents? o text).map Prod.snd

/-- the numbers of elements of the lists of tables, in the order in which they are written -/
def lengths (t : Tables) : List Nat :=
  [t.transitions.size, t.accepting.size, t.tokenTypes.size, t.tokens.size, t.intervals.size, t.modeNames.size]

end Munch.Source
