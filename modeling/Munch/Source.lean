/-
The tables of a lexer as source text.

The text declares one constant for each part of the tables and a function that puts them together. Numbers are decimal,
the ends of intervals hexadecimal, names are quoted, and the moves are written one state a line.
-/
import Munch.Lexer.Definition
import Munch.Text.Quoted

namespace Munch.Source

/-- the names that the text is written with -/
structure Options where
  /-- the name of the function that puts the tables together -/
  functionName : String := "create_scanner_data"
  /-- where the types of the tables are found -/
  typesPath : String := "lexgen"
  deriving DecidableEq, Repr

/-- texts with a comma between them -/
def commas (parts : List String) : String :=
  ", ".intercalate parts

/-- a constant that is a number -/
def number (name : String) (n : Nat) : String :=
  "const " ++ name ++ ": usize = " ++ Numeral.decimal n ++ ";\n"

/-- the beginning of a constant that is a list, up to the bracket -/
def opening (name type : String) (length : Nat) : String :=
  "const " ++ name ++ ": &[" ++ type ++ "; " ++ Numeral.decimal length ++ "] = &["

/-- a constant that is a list on one line -/
def inline (name type : String) (items : List String) : String :=
  opening name type items.length ++ commas items ++ "];\n"

/-- a constant that is a list of `length` elements, written in lines -/
def block (name type : String) (length : Nat) (lines : List String) : String :=
  opening name type length ++ "\n" ++ String.join (lines.map fun l => "    " ++ l ++ ",\n") ++ "];\n"

/-- a list in pieces of the given length, of which the last may be shorter -/
def rows {α : Type} (width : Nat) (items : List α) : List (List α) :=
  if _h : 0 < width ∧ items ≠ [] then items.take width :: rows width (items.drop width)
  else []
termination_by items.length
decreasing_by
  have : 0 < items.length := List.length_pos_iff.2 _h.2
  simp only [List.length_drop]
  omega

/-- a truth value -/
def bool (b : Bool) : String :=
  if b then "true" else "false"

/-- a number that may be missing -/
def option (n : Option Nat) : String :=
  n.elim "None" fun n => "Some(" ++ Numeral.decimal n ++ ")"

/-- the line of a token type -/
def tokenLine (ordinal : Nat) (t : TokenInfo) : String :=
  "/* " ++ Numeral.decimal ordinal ++ " */ (" ++ Quoted.string t.name ++ ", " ++ Numeral.decimal t.mode ++ ")"

/-- the line of an interval -/
def intervalLine (p : Nat × Nat) : String :=
  "(" ++ Numeral.hex p.1 ++ ", " ++ Numeral.hex p.2 ++ ")"

/-- the function that puts the tables together -/
def function (name : String) : String :=
  "pub(crate) fn " ++ name ++ "() -> ScannerData \x7b\n" ++
  "    ScannerData \x7b\n" ++
  "        transitions: TRANSITIONS.to_vec(),\n" ++
  "        symbol_count: SYMBOL_COUNT,\n" ++
  "        accepting: ACCEPTING.to_vec(),\n" ++
  "        token_types: TOKEN_TYPES.to_vec(),\n" ++
  "        tokens: TOKENS\n" ++
  "            .iter()\n" ++
  "            .map(|(name, mode)| TokenInfo \x7b\n" ++
  "                name: name.to_string(),\n" ++
  "                mode: *mode,\n" ++
  "            \x7d)\n" ++
  "            .collect(),\n" ++
  "        intervals: INTERVALS.to_vec(),\n" ++
  "        error_state: ERROR_STATE,\n" ++
  "        start_state: START_STATE,\n" ++
  "        start_mode: START_MODE,\n" ++
  "        mode_names: MODE_NAMES.iter().map(|n| n.to_string()).collect(),\n" ++
  "    \x7d\n" ++
  "\x7d\n"

/-- the source text of tables -/
def ofTables (o : Options) (t : Tables) : String :=
  "use " ++ o.typesPath ++ "::\x7bScannerData, TokenInfo\x7d;\n" ++ "\n" ++
  number "SYMBOL_COUNT" t.symbolCount ++
  number "ERROR_STATE" t.errorState ++
  number "START_STATE" t.startState ++
  number "START_MODE" t.startMode ++ "\n" ++
  block "TRANSITIONS" "usize" t.transitions.size
    ((rows t.symbolCount t.transitions.toList).map fun row => commas (row.map Numeral.decimal)) ++ "\n" ++
  inline "ACCEPTING" "bool" (t.accepting.toList.map bool) ++
  inline "TOKEN_TYPES" "Option<usize>" (t.tokenTypes.toList.map option) ++ "\n" ++
  block "TOKENS" "(&str, usize)" t.tokens.size (t.tokens.toList.mapIdx tokenLine) ++ "\n" ++
  block "INTERVALS" "(u32, u32)" t.intervals.size (t.intervals.toList.map intervalLine) ++ "\n" ++
  inline "MODE_NAMES" "&str" (t.modeNames.toList.map Quoted.string) ++ "\n" ++
  function o.functionName

/-- why a text could not be written -/
inductive WriteError where
  | limitExceeded
  deriving DecidableEq, Repr

/-- the text of an error -/
def WriteError.message : WriteError → String
  | limitExceeded => "write limit exceeded"

/-- the source text of a lexer, written where there is room for `limit` bytes, or for any number if there is no limit -/
def write (o : Options) (limit : Option Nat) (d : Definition) : Except WriteError String :=
  let text := ofTables o d.tables
  if limit.any fun n => decide (n < text.utf8ByteSize) then .error .limitExceeded else .ok text

end Munch.Source
