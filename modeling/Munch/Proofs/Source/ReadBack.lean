/-
A source text gives back the tables that it was written for.

Each constant is read as what it was written for, whatever stands behind it, with as many elements as its type says, and
the names of token types and modes may be any texts. The moves are written a row a line, so a row must have columns, which
it has in every lexer.

Results:
- `reads_numberConstant`, `reads_inline`, `reads_block`: the three forms of constants.
- `flatten_rows`: the rows of a list are the list.
- `reads_constants`, `read?_ofTables`: the constants of a source text are the tables.
- `declared?_of_read?`: lists are read only if they have as many elements as their types say.
- `write_reads_back`: what is written of a lexer reads back to its tables, so that other tables have another text.
-/
import Mathlib.Tactic
import Munch.Proofs.Lexer.Definition
import Munch.Proofs.Source.Reads

namespace Munch.Source

variable {α β : Type} {item : Reader α} {name type : String} {as : List α} {u : List Char}

/-! ## Constants -/

theorem reads_numberConstant (hn : solid name = true) (n : Nat) :
    Reads Anything (numberConstant name) (number name n).toList n := by
  have hopen := reads_words [("const", " "), (name, ""), (":", " "), ("usize", " "), ("=", " ")] (by
    simp only [List.all_cons, hn]
    rfl)
  have hclose : Reads Anything (do word ";"; return n) (";".toList ++ ['\n']) n := (reads_last rfl n).trail blank_newline
  have hnumber : Reads Anything (do let n ← natural; word ";"; return n)
      ((Numeral.decimal n).toList ++ (";".toList ++ ['\n'])) n :=
    (reads_decimal n).bind hclose fun _ _ => ⟨';', _, rfl, by decide⟩
  have hread : Reads Anything (numberConstant name) _ n := hopen.andThen hnumber
  exact hread.of_eq (by simp [number])

theorem reads_listConstant (hn : solid name = true) (ht : solid type = true) (h : Listed item as u) :
    Reads Anything (listConstant name type item)
      ((opening name type as.length).toList ++ (u ++ "];\n".toList)) (as.length, as.toArray) := by
  have hopen := reads_words
    [("const", " "), (name, ""), (":", " "), ("&", ""), ("[", ""), (type, ""), (";", " ")] (by
    simp only [List.all_cons, hn, ht]
    rfl)
  have hmiddle := reads_words [("]", " "), ("=", " "), ("&", ""), ("[", "")] rfl
  have hlist : Reads Anything
      (do let n ← natural; words ["]", "=", "&", "["]; let as ← elements item n; word ";"; return (n, as.toArray))
      ((Numeral.decimal as.length).toList ++ ("] = &[".toList ++ ((u ++ [']']) ++ (";".toList ++ ['\n']))))
      (as.length, as.toArray) := by
    refine (reads_decimal as.length).bind ?_ fun _ _ => ⟨']', _, rfl, by decide⟩
    refine hmiddle.andThen ?_
    refine h.elements.andThen ?_
    exact (reads_last rfl (as.length, as.toArray)).trail blank_newline
  have hread : Reads Anything (listConstant name type item) _ (as.length, as.toArray) := hopen.andThen hlist
  exact hread.of_eq (by simp [opening])

/-- a list is read only if it has as many elements as its type says -/
theorem size_of_listConstant {n : Nat} {as : Array α} {text rest : List Char}
    (h : listConstant name type item text = some ((n, as), rest)) : n = as.size := by
  obtain ⟨-, _, -, h⟩ := exists_of_bind_eq_some h
  obtain ⟨_, _, -, h⟩ := exists_of_bind_eq_some h
  obtain ⟨-, _, -, h⟩ := exists_of_bind_eq_some h
  obtain ⟨as', _, helements, h⟩ := exists_of_bind_eq_some h
  obtain ⟨-, _, -, h⟩ := exists_of_bind_eq_some h
  cases h
  rw [List.size_toArray, length_of_elements helements]

/-! ## Lists on one line -/

theorem toList_commas_cons (l m : String) (rest : List String) :
    (commas (l :: m :: rest)).toList = l.toList ++ ',' :: ([' '] ++ (commas (m :: rest)).toList) := by
  simp [commas, String.toList_intercalate]

/-- elements with commas between them, in front of what may stand behind the last -/
theorem listed_commas_append {write : α → String} {as bs : List α} (hne : as ≠ [])
    (h : ∀ a, Reads Ends item (write a).toList a)
    (hlast : ∀ a text, Reads Ends item text a → Listed item (a :: bs) (text ++ u)) :
    Listed item (as ++ bs) ((commas (as.map write)).toList ++ u) := by
  induction as with
  | nil => exact absurd rfl hne
  | cons a as ih =>
    cases as with
    | nil => exact hlast a _ (h a)
    | cons a' as =>
      have hrest := ih (List.cons_ne_nil a' as)
      have hnext := Listed.gap blank_space hrest
      refine (Listed.cons (h a) hnext).of_eq ?_
      rw [List.map_cons, List.map_cons, toList_commas_cons, ← List.map_cons]
      simp

/-- elements with commas between them -/
theorem listed_commas {write : α → String} (h : ∀ a, Reads Ends item (write a).toList a) (as : List α) :
    Listed item as (commas (as.map write)).toList := by
  by_cases hne : as = []
  · subst hne
    exact .nil
  · have hlast : ∀ a text, Reads Ends item text a → Listed item [a] (text ++ []) := by
      intro a text ha
      rw [List.append_nil]
      exact .last ha
    have hlist := listed_commas_append hne h hlast
    rwa [List.append_nil, List.append_nil] at hlist

theorem reads_inline {write : α → String} (hn : solid name = true) (ht : solid type = true)
    (h : ∀ a, Reads Ends item (write a).toList a) (as : Array α) :
    Reads Anything (listConstant name type item) (inline name type (as.toList.map write)).toList (as.size, as) := by
  have hlist := reads_listConstant hn ht (listed_commas h as.toList)
  exact hlist.of_eq (by simp [inline])

/-! ## Lists in lines -/

/-- a line with a comma behind it adds its elements to a list -/
def Line (item : Reader α) (as : List α) (line : String) : Prop :=
  ∀ bs u, Listed item bs u → Listed item (as ++ bs) (line.toList ++ ',' :: u)

/-- elements with commas between them in one line -/
theorem line_commas {write : α → String} {as : List α} (hne : as ≠ [])
    (h : ∀ a, Reads Ends item (write a).toList a) : Line item as (commas (as.map write)) := by
  intro bs u hs
  apply listed_commas_append hne h
  intro a text ha
  exact .cons ha hs

/-- one element in a line -/
theorem line_single {a : α} {line : String} (h : Reads Ends item line.toList a) : Line item [a] line :=
  fun _ _ hs => .cons h hs

theorem listed_lines {xs : List β} {row : β → List α} {line : β → String}
    (h : ∀ x ∈ xs, Line item (row x) (line x)) :
    Listed item (xs.flatMap row) (String.join ((xs.map line).map fun l => "    " ++ l ++ ",\n")).toList := by
  induction xs with
  | nil => exact .nil
  | cons x xs ih =>
    have hrest := ih fun y hy => h y (List.mem_cons_of_mem x hy)
    have hnext := Listed.gap blank_newline hrest
    have hline := h x List.mem_cons_self _ _ hnext
    have hx := Listed.gap (blank_of_isWhitespace (g := "    ".toList) rfl) hline
    refine hx.of_eq ?_
    simp

theorem reads_block (row : β → List α) {xs : List β} {line : β → String} {as : Array α} (hn : solid name = true)
    (ht : solid type = true) (has : xs.flatMap row = as.toList) (h : ∀ x ∈ xs, Line item (row x) (line x)) :
    Reads Anything (listConstant name type item) (block name type as.size (xs.map line)).toList (as.size, as) := by
  have hlist := Listed.gap blank_newline (listed_lines h)
  rw [has] at hlist
  exact (reads_listConstant hn ht hlist).of_eq (by simp [block])

/-! ## Rows -/

theorem rows_cons {width : Nat} {as : List α} (hw : 0 < width) (hne : as ≠ []) :
    rows width as = as.take width :: rows width (as.drop width) := by
  rw [rows, dif_pos ⟨hw, hne⟩]

theorem rows_nil (width : Nat) : rows width ([] : List α) = [] := by
  rw [rows, dif_neg (fun h => h.2 rfl)]

/-- the rows of a list are the list, and none of them is empty -/
theorem flatten_rows {width : Nat} (hw : 0 < width) (as : List α) :
    (rows width as).flatten = as ∧ ∀ row ∈ rows width as, row ≠ [] := by
  induction hn : as.length using Nat.strong_induction_on generalizing as with
  | _ n ih =>
    by_cases hne : as = []
    · subst hne
      simp [rows_nil]
    · have hpos : 0 < as.length := List.length_pos_iff.2 hne
      obtain ⟨hf, hr⟩ := ih (as.drop width).length (by rw [List.length_drop]; omega) _ rfl
      rw [rows_cons hw hne]
      constructor
      · rw [List.flatten_cons, hf, List.take_append_drop]
      · intro row hrow
        rcases List.mem_cons.1 hrow with rfl | hrow
        · simp [hne]
          omega
        · exact hr row hrow

/-! ## Token types and intervals -/

theorem blank_ordinal (n : Nat) : Blank ("/* ".toList ++ ((Numeral.decimal n).toList ++ " */ ".toList)) := by
  obtain ⟨hds, -⟩ := toDigits_read 10 n (by decide) (by decide)
  have hcomment : Blank ('/' :: '*' :: ((' ' :: (Nat.toDigits 10 n ++ [' '])) ++ ['*', '/'])) := by
    apply blank_comment
    intro c hc
    rw [List.mem_cons, List.mem_append, List.mem_singleton] at hc
    rcases hc with rfl | hc | rfl
    · decide
    · obtain ⟨-, hb, hs, -⟩ := isDigitOf_ne (hds c hc)
      exact ⟨hs, hb⟩
    · decide
  have hblank := hcomment.append blank_space
  simpa [Numeral.decimal] using hblank

/-- a token type is read as what its line was written for, whatever its name -/
theorem reads_tokenInfo (ordinal : Nat) (t : TokenInfo) : Reads Anything tokenInfo (tokenLine ordinal t).toList t := by
  have hread : Reads Anything tokenInfo ("(".toList ++ ((Quoted.string t.name).toList ++
      ((",".toList ++ [' ']) ++ ((Numeral.decimal t.mode).toList ++ ")".toList)))) t := by
    refine (reads_word rfl).andThen ?_
    refine (reads_quoted t.name).andThen ?_
    refine ((reads_word rfl).trail blank_space).andThen ?_
    exact (reads_decimal t.mode).bind (reads_last rfl t) fun _ _ => ⟨')', _, rfl, by decide⟩
  exact (Reads.lead (blank_ordinal ordinal) hread).of_eq (by simp [tokenLine])

/-- an interval is read as what its line was written for -/
theorem reads_interval (p : Nat × Nat) : Reads Anything interval (intervalLine p).toList p := by
  have hread : Reads Anything interval ("(".toList ++ ((Numeral.hex p.1).toList ++
      ((",".toList ++ [' ']) ++ ((Numeral.hex p.2).toList ++ ")".toList)))) p := by
    refine (reads_word rfl).andThen ?_
    refine (reads_hex p.1).bind ?_ fun _ _ => ⟨',', _, rfl, by decide⟩
    refine ((reads_word rfl).trail blank_space).andThen ?_
    exact (reads_hex p.2).bind (reads_last rfl p) fun _ _ => ⟨')', _, rfl, by decide⟩
  exact hread.of_eq (by simp [intervalLine])

/-! ## All constants -/

theorem reads_transitions {width : Nat} (hw : 0 < width) (moves : Array Nat) :
    Reads Anything (listConstant "TRANSITIONS" "usize" natural)
      (block "TRANSITIONS" "usize" moves.size
        ((rows width moves.toList).map fun row => commas (row.map Numeral.decimal))).toList (moves.size, moves) := by
  obtain ⟨hf, hne⟩ := flatten_rows hw moves.toList
  apply reads_block id rfl rfl
  · rw [List.flatMap_id, hf]
  · intro row hrow
    exact line_commas (hne row hrow) reads_decimal

theorem reads_tokens (tokens : Array TokenInfo) :
    Reads Anything (listConstant "TOKENS" "(&str, usize)" tokenInfo)
      (block "TOKENS" "(&str, usize)" tokens.size (tokens.toList.mapIdx tokenLine)).toList (tokens.size, tokens) := by
  rw [List.mapIdx_eq_zipIdx_map]
  apply reads_block (fun p => [p.1]) rfl rfl
  · rw [← List.map_eq_flatMap, List.zipIdx_map_fst]
  · rintro ⟨t, ordinal⟩ -
    exact line_single (reads_tokenInfo ordinal t).anywhere

theorem reads_intervals (intervals : Array (Nat × Nat)) :
    Reads Anything (listConstant "INTERVALS" "(u32, u32)" interval)
      (block "INTERVALS" "(u32, u32)" intervals.size (intervals.toList.map intervalLine)).toList
      (intervals.size, intervals) := by
  apply reads_block (fun p => [p]) rfl rfl
  · exact List.flatMap_singleton' _
  · intro p _
    exact line_single (reads_interval p).anywhere

/-- the constants in a source text -/
def constantsText (t : Tables) : List Char :=
  (number "SYMBOL_COUNT" t.symbolCount).toList ++ ((number "ERROR_STATE" t.errorState).toList ++
    ((number "START_STATE" t.startState).toList ++ (((number "START_MODE" t.startMode).toList ++ ['\n']) ++
    (((block "TRANSITIONS" "usize" t.transitions.size
      ((rows t.symbolCount t.transitions.toList).map fun row => commas (row.map Numeral.decimal))).toList ++ ['\n']) ++
    ((inline "ACCEPTING" "bool" (t.accepting.toList.map bool)).toList ++
    (((inline "TOKEN_TYPES" "Option<usize>" (t.tokenTypes.toList.map option)).toList ++ ['\n']) ++
    (((block "TOKENS" "(&str, usize)" t.tokens.size (t.tokens.toList.mapIdx tokenLine)).toList ++ ['\n']) ++
    (((block "INTERVALS" "(u32, u32)" t.intervals.size (t.intervals.toList.map intervalLine)).toList ++ ['\n']) ++
    ((inline "MODE_NAMES" "&str" (t.modeNames.toList.map Quoted.string)).toList ++ ['\n'])))))))))

theorem toList_ofTables (o : Options) (t : Tables) :
    (ofTables o t).toList =
      (header o).toList ++ (['\n', '\n'] ++ (constantsText t ++ (function o.functionName).toList)) := by
  have hline : "\n".toList = ['\n'] := rfl
  have hopen : "::\x7bScannerData, TokenInfo\x7d;\n".toList = "::\x7bScannerData, TokenInfo\x7d;".toList ++ ['\n'] := rfl
  unfold ofTables header constantsText
  simp only [String.toList_append, List.append_assoc, List.cons_append, List.nil_append, hline, hopen]

/-- the constants of tables with columns are read as the tables -/
theorem reads_constants {t : Tables} (h : 0 < t.symbolCount) :
    Reads Anything constants (constantsText t) (t, lengths t) := by
  have hbool : ∀ b, Reads Ends boolean (bool b).toList b := fun b => (reads_bool b).anywhere
  have hoption : ∀ n, Reads Ends optional (option n).toList n := fun n => (reads_option n).anywhere
  have hquoted : ∀ s, Reads Ends quoted (Quoted.string s).toList s := fun s => (reads_quoted s).anywhere
  unfold constants constantsText
  refine (reads_numberConstant rfl t.symbolCount).andThen ?_
  refine (reads_numberConstant rfl t.errorState).andThen ?_
  refine (reads_numberConstant rfl t.startState).andThen ?_
  refine ((reads_numberConstant rfl t.startMode).trail blank_newline).andThen ?_
  refine ((reads_transitions h t.transitions).trail blank_newline).andThen ?_
  refine (reads_inline rfl rfl hbool t.accepting).andThen ?_
  refine ((reads_inline rfl rfl hoption t.tokenTypes).trail blank_newline).andThen ?_
  refine ((reads_tokens t.tokens).trail blank_newline).andThen ?_
  refine ((reads_intervals t.intervals).trail blank_newline).andThen ?_
  exact ((reads_inline rfl rfl hquoted t.modeNames).trail blank_newline).bind_pure

/-- the tables are read from the source text that was written for them -/
theorem read?_ofTables (o : Options) {t : Tables} (h : 0 < t.symbolCount) : read? o (ofTables o t) = some t := by
  have hgap : Blank ['\n', '\n'] := blank_newline.append blank_newline
  obtain ⟨left, -, hread⟩ := reads_constants h ['\n', '\n'] (function o.functionName).toList hgap trivial
  have hcontents : contents? o (ofTables o t) = some (t, lengths t) := by
    rw [contents?, toList_ofTables, exactly_append]
    change (constants _).bind _ = _
    rw [hread]
    rfl
  rw [read?, hcontents, Option.map_some]

/-- constants are read only if each list has as many elements as its type says -/
theorem lengths_of_constants {t : Tables} {ns : List Nat} {text rest : List Char}
    (h : constants text = some ((t, ns), rest)) : ns = lengths t := by
  obtain ⟨_, _, -, h⟩ := exists_of_bind_eq_some h
  obtain ⟨_, _, -, h⟩ := exists_of_bind_eq_some h
  obtain ⟨_, _, -, h⟩ := exists_of_bind_eq_some h
  obtain ⟨_, _, -, h⟩ := exists_of_bind_eq_some h
  obtain ⟨⟨_, _⟩, _, htransitions, h⟩ := exists_of_bind_eq_some h
  obtain ⟨⟨_, _⟩, _, haccepting, h⟩ := exists_of_bind_eq_some h
  obtain ⟨⟨_, _⟩, _, htokenTypes, h⟩ := exists_of_bind_eq_some h
  obtain ⟨⟨_, _⟩, _, htokens, h⟩ := exists_of_bind_eq_some h
  obtain ⟨⟨_, _⟩, _, hintervals, h⟩ := exists_of_bind_eq_some h
  obtain ⟨⟨_, _⟩, _, hmodeNames, h⟩ := exists_of_bind_eq_some h
  cases h
  simp only [lengths, size_of_listConstant htransitions, size_of_listConstant haccepting,
    size_of_listConstant htokenTypes, size_of_listConstant htokens, size_of_listConstant hintervals,
    size_of_listConstant hmodeNames]

/-- of any text, tables are read only if each of their lists has as many elements as its type says -/
theorem declared?_of_read? {o : Options} {text : String} {t : Tables} (h : read? o text = some t) :
    declared? o text = some (lengths t) := by
  obtain ⟨⟨t, ns⟩, hcontents, rfl⟩ := Option.map_eq_some_iff.1 h
  rw [declared?, hcontents, Option.map_some]
  obtain ⟨⟨_, rest⟩, -, hconstants⟩ := Option.bind_eq_some_iff.1 hcontents
  obtain ⟨⟨found, left⟩, hfound, he⟩ := Option.bind_eq_some_iff.1 hconstants
  obtain rfl := Option.some.inj he
  rw [lengths_of_constants hfound]

/-! ## What is written of a lexer -/

theorem write_eq_ok {o : Options} {limit : Option Nat} {d : Definition} {text : String}
    (h : write o limit d = .ok text) : text = ofTables o d.tables := by
  unfold write at h
  simp only at h
  split_ifs at h
  exact (Except.ok.inj h).symm

theorem symbolCount_tables_pos (d : Definition) : 0 < d.tables.symbolCount :=
  Nat.succ_pos d.automaton.alphabetSize

/-- **What is written reads back.** Where there is room the source text of a lexer is written. Whatever the names in it, its
constants are read as the tables of the lexer, each list with as many elements as its type says. So lexers with other
tables have other texts. -/
theorem write_reads_back (o : Options) (d : Definition) :
    (∃ text, write o none d = .ok text) ∧
      (∀ limit text, write o limit d = .ok text →
        read? o text = some d.tables ∧ declared? o text = some (lengths d.tables)) ∧
      ∀ d' limit limit' text, write o limit d = .ok text → write o limit' d' = .ok text → d'.tables = d.tables := by
  have hread : ∀ d' limit text, write o limit d' = .ok text → read? o text = some d'.tables := by
    intro d' limit text hw
    rw [write_eq_ok hw]
    exact read?_ofTables o (symbolCount_tables_pos d')
  refine ⟨⟨_, rfl⟩, fun limit text hw => ⟨hread d limit text hw, declared?_of_read? (hread d limit text hw)⟩, ?_⟩
  intro d' limit limit' text hw hw'
  have h := hread d limit text hw
  rw [hread d' limit' text hw'] at h
  exact Option.some.inj h

/-- names that look like the end of a constant, with characters that are not written as themselves -/
def oddNames : Description Regex where
  modes := [{ name := "\"]; */", rules := [{ name := "\\\r\n\x07", expr := .char 'a', next := "\"]; */" }] }]

theorem write_reads_back_oddNames : ∃ l text, Definition.build oddNames = .ok l ∧
    write {} none l = .ok text ∧ read? {} text = some l.tables ∧ declared? {} text = some (lengths l.tables) := by
  obtain ⟨l, hb, -⟩ := Definition.exists_build (d := oddNames) (by decide)
  obtain ⟨⟨text, hw⟩, hread, -⟩ := write_reads_back {} l
  exact ⟨l, text, hb, hw, hread none text hw⟩

end Munch.Source
