/-
Scanning: the text is cut into tokens from left to right, each as long as possible.

A scanner is its tables and the mode that it is in. A `Cursor` is a place in a text that is being scanned. At each place
the scanner follows the moves of the tables from the state of its mode as long as they do not lead to the error state, and
takes the last place at which a token type was recognised; then it continues in the mode of that type. Where no token
begins, the scan stops with the character that stands there.

A scan can be traced, which is what `tracing` says. The trace itself is left out, but not that it needs the names of modes:
over tables without them a scan that is traced faults where one that is not goes on.
-/
import Munch.Tables
import Munch.Token
import Munch.Text.Quoted

namespace Munch

/-- why a scanner cannot do what it is asked for -/
inductive ScanError where
  | unexpectedCharacter (position : Nat) (character : Char)
  | unknownMode (mode : Nat)
  deriving DecidableEq, Repr

/-- the text of an error -/
def ScanError.message : ScanError → String
  | unexpectedCharacter position c =>
    "Unexpected character " ++ Quoted.char c ++ " at position " ++ Numeral.decimal position
  | unknownMode mode => "Unknown scanner mode " ++ Numeral.decimal mode

/-- a place in a text that is being scanned: what follows, the number of bytes before, and whether the scan has stopped
at a character that begins no token -/
structure Cursor where
  rest : List Char
  position : Nat := 0
  failed : Bool := false
  deriving DecidableEq, Repr

/-- the beginning of a text -/
def Cursor.ofText (text : List Char) : Cursor :=
  { rest := text }

/-- a token type recognised at a place, with the text behind that place -/
structure Match where
  token : Nat
  stop : Nat
  rest : List Char
  deriving DecidableEq, Repr

/-- what one step of a scan finds -/
inductive Item where
  | token (t : Token)
  | error (e : ScanError)
  deriving DecidableEq, Repr

namespace Tables

/-- the longest match from a state on, where `best` is the longest one so far -/
def longestFrom (t : Tables) (state position : Nat) (best : Option Match) : List Char → Except Fault (Option Match)
  | [] => .ok best
  | c :: rest => do
    let state ← t.nextState state (t.symbolOf c)
    if state = t.errorState then return best
    let stop := position + c.utf8Size
    match ← orOutOfRange (t.tokenTypes[state]?) with
    | some token => t.longestFrom state stop (some { token := token, stop := stop, rest := rest }) rest
    | none => t.longestFrom state stop best rest

/-- the longest token of a mode at a place; a token has at least one character -/
def longestMatch (t : Tables) (mode position : Nat) (text : List Char) : Except Fault (Option Match) := do
  let state ← t.modeStart mode
  t.longestFrom state position none text

/-- the mode behind a token type that was found in the given mode; a trace of the scan names both modes of a change -/
def modeAfter (t : Tables) (mode token : Nat) (tracing : Bool) : Except Fault Nat := do
  let info ← orOutOfRange (t.tokens[token]?)
  if tracing ∧ info.mode ≠ mode ∧ ¬(mode < t.modeNames.size ∧ info.mode < t.modeNames.size) then .error .outOfRange
  else return info.mode

/-- one step of a scan: what is found, if there is anything left to find, the mode behind it, and the place behind it -/
def step (t : Tables) (mode : Nat) (c : Cursor) (tracing : Bool) : Except Fault (Option (Item × Nat × Cursor)) :=
  if c.failed then .ok none
  else
    match c.rest with
    | [] => .ok none
    | first :: rest => do
      match ← t.longestMatch mode c.position (first :: rest) with
      | none =>
        return some (.error (.unexpectedCharacter c.position first), mode, { c with failed := true })
      | some m =>
        let next ← t.modeAfter mode m.token tracing
        let found : Token := { type := m.token, mode := mode, span := ⟨c.position, m.stop⟩ }
        return some (.token found, next, { rest := m.rest, position := m.stop })

end Tables

/-- tables and the mode that is current -/
structure Scanner where
  tables : Tables
  mode : Nat
  deriving DecidableEq, Repr

namespace Scanner

/-- a scanner in the start mode of its tables -/
def ofTables (t : Tables) : Scanner :=
  { tables := t, mode := t.startMode }

/-- the name of the current mode -/
def modeName? (s : Scanner) : Option String :=
  s.tables.modeNames[s.mode]?

/-- the scanner in another mode, which has to be one with a name -/
def setMode (s : Scanner) (mode : Nat) : Except ScanError Scanner :=
  if mode < s.tables.modeNames.size then .ok { s with mode := mode } else .error (.unknownMode mode)

/-- the next item of a text, or nothing at its end and behind an error; the scanner is in the mode behind the item -/
def next (s : Scanner) (c : Cursor) (tracing : Bool := true) : Except Fault (Option Item) × Scanner × Cursor :=
  match s.tables.step s.mode c tracing with
  | .ok none => (.ok none, s, c)
  | .ok (some (item, mode, c')) => (.ok (some item), { s with mode := mode }, c')
  | .error f => (.error f, s, c)

/-- the answers of `count` steps -/
def take (s : Scanner) (c : Cursor) (count : Nat) (tracing : Bool := true) :
    Except Fault (List (Option Item)) × Scanner × Cursor :=
  match count with
  | 0 => (.ok [], s, c)
  | count + 1 =>
    match s.next c tracing with
    | (.error f, s, c) => (.error f, s, c)
    | (.ok item, s, c) =>
      let (items, s, c) := s.take c count tracing
      (items.map (item :: ·), s, c)

/-- the items up to the end or an error, `count` of them at most -/
def itemsWithin (s : Scanner) (c : Cursor) (count : Nat) (tracing : Bool := true) :
    Except Fault (List Item) × Scanner × Cursor :=
  match count with
  | 0 => (.ok [], s, c)
  | count + 1 =>
    match s.next c tracing with
    | (.error f, s, c) => (.error f, s, c)
    | (.ok none, s, c) => (.ok [], s, c)
    | (.ok (some item), s, c) =>
      let (items, s, c) := s.itemsWithin c count tracing
      (items.map (item :: ·), s, c)

/-- all items from a place on; each token takes a character, and one more item may be an error -/
def items (s : Scanner) (c : Cursor) (tracing : Bool := true) : Except Fault (List Item) × Scanner × Cursor :=
  s.itemsWithin c (c.rest.length + 1) tracing

end Scanner

end Munch
