/-
The tables of a lexer.

A move is looked up in the row of a state, at the column of a character. `Tables.run` follows the characters of a word. A
character that no rule mentions is in the first column and leads to the error state, which is never left.

Results:
- `nextState_zero`, `nextState_succ`: the rows hold the moves of the automaton.
- `run_tables`: the tables lead to the state behind the symbols of a word, or to the error state.
- `tables_recognise`: that state tells which rule of the mode is the first one that matches the word.
- `tables_canonical`: the tables depend on what the rules match, and not on how they are written.
-/
import Mathlib.Tactic
import Munch.Proofs.Lexer.Definition

namespace Munch

/-! ## Rows -/

theorem getElem?_flatMap_of_length {α : Type} {f : Nat → List α} {k : Nat} (hf : ∀ q, (f q).length = k) {n q s : Nat}
    (hq : q < n) (hs : s < k) : ((List.range n).flatMap f)[q * k + s]? = (f q)[s]? := by
  induction n with
  | zero => omega
  | succ n ih =>
    have hlen : ((List.range n).flatMap f).length = n * k := by simp [List.length_flatMap, hf]
    rw [List.range_succ, List.flatMap_append, List.flatMap_singleton]
    by_cases hqn : q < n
    · rw [List.getElem?_append_left, ih hqn]
      rw [hlen]
      calc q * k + s < q * k + k := by omega
        _ = (q + 1) * k := by ring
        _ ≤ n * k := Nat.mul_le_mul_right k hqn
    · obtain rfl : q = n := by omega
      rw [List.getElem?_append_right (by rw [hlen]; omega), hlen]
      congr 1
      omega

namespace Tables

/-- the state behind a word of code points -/
def run (t : Tables) (state : Nat) (w : List Nat) : Except Fault Nat :=
  w.foldlM (fun q c => t.nextState q (symbolIn t.intervals c)) state

end Tables

namespace Definition

/-- the state behind a word of code points: that behind its symbols, or the error state if one of them has none -/
def follow (l : Definition) (q : Nat) (w : List Nat) : Nat :=
  (l.alphabet.word? w).elim 0 (l.automaton.after q)

variable {d : Description Regex} {l : Definition} {q s : Nat}

theorem size_transitions (l : Definition) :
    l.tables.transitions.size = l.automaton.stateCount * (l.automaton.alphabetSize + 1) := by
  simp [tables, tableRow, List.length_flatMap]

theorem nextState_eq (l : Definition) (hq : q < l.automaton.stateCount) (hs : s ≤ l.automaton.alphabetSize) :
    l.tables.nextState q s = orOutOfRange ((l.tableRow q)[s]?) := by
  have hlen (q : Nat) : (l.tableRow q).length = l.automaton.alphabetSize + 1 := by simp [tableRow]
  have hlt : q * l.tables.symbolCount + s < l.tables.transitions.size := by
    rw [l.size_transitions, Nat.mul_comm q]
    exact Nat.mul_add_lt_mul_of_lt_of_lt hq (Nat.lt_succ_of_le hs)
  have := getElem?_flatMap_of_length hlen hq (Nat.lt_succ_of_le hs)
  rw [Tables.nextState_of_lt hlt, tables, symbolCount, List.getElem?_toArray, this]

namespace Built

variable (h : Built d l)
include h

/-- the first column is for characters that no rule mentions -/
theorem nextState_zero (hq : q < l.automaton.stateCount) : l.tables.nextState q 0 = .ok 0 := by
  rw [l.nextState_eq hq (Nat.zero_le _), tableRow, h.errorState_eq]
  rfl

/-- the columns behind it hold the moves of the automaton -/
theorem nextState_succ (hq : q < l.automaton.stateCount) (hs : s < l.automaton.alphabetSize) :
    l.tables.nextState q (s + 1) = .ok (l.automaton.step q s) := by
  rw [l.nextState_eq hq hs, tableRow, List.getElem?_cons_succ, List.getElem?_map, List.getElem?_range hs, Option.map_some,
    target, h.canonical.complete.target?_eq hq hs]
  rfl

theorem symbol_lt {c : Nat} (hc : l.alphabet.symbolOf? c = some s) : s < l.automaton.alphabetSize := by
  have ho : l.alphabet.Ordered := h.alphabet_eq ▸ Alphabet.ordered_ofIntervals _
  exact h.alphabetSize_eq ▸ (Alphabet.symbolOf?_lt ho hc).trans_le (Nat.le_max_left _ _)

theorem nextState_symbolIn (hq : q < l.automaton.stateCount) (c : Nat) :
    l.tables.nextState q (symbolIn l.tables.intervals c) =
      .ok ((l.alphabet.symbolOf? c).elim 0 (l.automaton.step q)) := by
  rw [show l.tables.intervals = l.alphabet.pairs from rfl, Alphabet.symbolIn_pairs]
  cases hc : l.alphabet.symbolOf? c with
  | none => exact h.nextState_zero hq
  | some s => exact h.nextState_succ hq (h.symbol_lt hc)

theorem zero_lt : 0 < l.automaton.stateCount :=
  h.canonical.stateCount_pos

theorem isWord_of_word? {w v : List Nat} (hv : l.alphabet.word? w = some v) : l.automaton.IsWord v := by
  intro s hs
  have hmem : some s ∈ w.map l.alphabet.symbolOf? := Alphabet.word?_eq_some_iff.1 hv ▸ List.mem_map_of_mem hs
  obtain ⟨c, -, hc⟩ := List.mem_map.1 hmem
  exact h.symbol_lt hc

/-- the error state is not left -/
theorem follow_zero (w : List Nat) : l.follow 0 w = 0 := by
  unfold follow
  cases hv : l.alphabet.word? w with
  | none => rfl
  | some v => exact h.canonical.after_zero (h.isWord_of_word? hv)

theorem follow_cons (q c : Nat) (w : List Nat) :
    l.follow q (c :: w) = l.follow ((l.alphabet.symbolOf? c).elim 0 (l.automaton.step q)) w := by
  rw [follow, Alphabet.word?_cons]
  cases hc : l.alphabet.symbolOf? c with
  | none => exact (h.follow_zero w).symm
  | some s =>
    unfold follow
    cases l.alphabet.word? w <;> rfl

theorem next_lt (hq : q < l.automaton.stateCount) (c : Nat) :
    (l.alphabet.symbolOf? c).elim 0 (l.automaton.step q) < l.automaton.stateCount := by
  cases hc : l.alphabet.symbolOf? c with
  | none => exact h.zero_lt
  | some s => exact h.canonical.complete.step_lt hq (h.symbol_lt hc)

theorem follow_lt (hq : q < l.automaton.stateCount) (w : List Nat) : l.follow q w < l.automaton.stateCount := by
  induction w generalizing q with
  | nil => exact hq
  | cons c w ih =>
    rw [h.follow_cons]
    exact ih (h.next_lt hq c)

/-- the tables follow the characters of a word -/
theorem run_tables (hq : q < l.automaton.stateCount) (w : List Nat) : l.tables.run q w = .ok (l.follow q w) := by
  induction w generalizing q with
  | nil => rfl
  | cons c w ih =>
    rw [Tables.run, List.foldlM_cons, h.nextState_symbolIn hq, h.follow_cons]
    exact ih (h.next_lt hq c)

/-! ## Modes -/

variable {mode : Nat} {name : String} (hname : l.modeNames[mode]? = some name)
include hname

theorem mode_lt : mode < l.automaton.alphabetSize := by
  have hlt := (List.getElem?_eq_some_iff.1 hname).1
  rw [h.modeNames_eq] at hlt
  exact h.alphabetSize_eq ▸ hlt.trans_le (Assembly.length_uses_le h.modes_fit _)

theorem modeStart_eq : l.tables.modeStart mode = .ok (l.automaton.step l.automaton.start mode) := by
  rw [Tables.modeStart_eq_nextState]
  exact h.nextState_succ h.canonical.complete.start_lt (h.mode_lt hname)

theorem modeStart_lt : l.automaton.step l.automaton.start mode < l.automaton.stateCount :=
  h.canonical.complete.step_lt h.canonical.complete.start_lt (h.mode_lt hname)

/-- the state behind a word recognises the first rule that matches the word -/
theorem token_follow_iff (w : List Nat) (o : Nat) :
    l.automaton.token? (l.follow (l.automaton.step l.automaton.start mode) w) = some o ↔ d.FirstMatch name w o := by
  cases hv : l.alphabet.word? w with
  | some v =>
    have hw : l.automaton.IsWord (mode :: v) := List.forall_mem_cons.2 ⟨h.mode_lt hname, h.isWord_of_word? hv⟩
    rw [follow, hv, Option.elim_some, ← l.automaton.after_cons, h.token_iff hw]
    exact Description.isLeast_finds_cons_iff (h.modeNames_eq ▸ hname) (h.alphabet_eq ▸ hv)
  | none =>
    rw [follow, hv, Option.elim_none, h.canonical.token?_zero]
    refine iff_of_false nofun ?_
    rintro ⟨⟨r, hr, hm⟩, -⟩
    exact Description.not_matches_of_word?_eq_none (List.mem_of_getElem? hr) (h.alphabet_eq ▸ hv) hm

theorem token_follow_eq_none_iff (w : List Nat) :
    l.automaton.token? (l.follow (l.automaton.step l.automaton.start mode) w) = none ↔ ∀ o, ¬d.RuleMatches name w o := by
  rw [Option.eq_none_iff_forall_ne_some]
  simp only [ne_eq, h.token_follow_iff hname]
  rw [← not_exists, ← not_exists]
  exact not_congr exists_isLeast_iff

/-- it accepts if any rule matches the word -/
theorem accepting_follow_iff (w : List Nat) :
    l.automaton.isAccepting (l.follow (l.automaton.step l.automaton.start mode) w) = true ↔
      ∃ o, d.RuleMatches name w o := by
  have hfirst : (∃ o, d.FirstMatch name w o) ↔ ∃ o, d.RuleMatches name w o := exists_isLeast_iff
  rw [← hfirst, ← exists_congr (h.token_follow_iff hname w)]
  cases hv : l.alphabet.word? w with
  | some v =>
    have hw : l.automaton.IsWord (mode :: v) := List.forall_mem_cons.2 ⟨h.mode_lt hname, h.isWord_of_word? hv⟩
    rw [follow, hv, Option.elim_some, ← l.automaton.after_cons, h.accepting_iff hw]
    simp only [h.token_iff hw]
    exact exists_isLeast_iff.symm
  | none =>
    rw [follow, hv, Option.elim_none, h.canonical.isAccepting_zero, h.canonical.token?_zero]
    exact iff_of_false nofun nofun

end Built

theorem getElem?_modeNames {mode : Nat} : l.tables.modeNames[mode]? = l.modeNames[mode]? := by
  rw [tables, List.getElem?_toArray]

theorem getElem?_tokenTypes (hq : q < l.automaton.stateCount) : l.tables.tokenTypes[q]? = some (l.automaton.token? q) := by
  simp [tables, hq]

theorem getElem?_accepting (hq : q < l.automaton.stateCount) :
    l.tables.accepting[q]? = some (l.automaton.isAccepting q) := by
  simp [tables, hq]

/-- **The tables stand for the rules, and the first rule wins.** From the start of a mode a word of code points leads to a
state. Its token type is the first rule of the mode that matches the word; without such a rule it has none, and it does not
accept. -/
theorem tables_recognise (hb : build d = .ok l) {mode : Nat} (hm : mode < l.tables.modeNames.size) (w : List Nat) :
    ∃ start q, l.tables.modeStart mode = .ok start ∧ l.tables.run start w = .ok q ∧
      (∀ o, l.tables.tokenTypes[q]? = some (some o) ↔ d.FirstMatch l.tables.modeNames[mode] w o) ∧
      (l.tables.tokenTypes[q]? = some none ↔ ∀ o, ¬d.RuleMatches l.tables.modeNames[mode] w o) ∧
      (l.tables.accepting[q]? = some true ↔ ∃ o, d.RuleMatches l.tables.modeNames[mode] w o) ∧
      ∃ accepting, l.tables.accepting[q]? = some accepting := by
  have h := built_of_build hb
  have hname : l.modeNames[mode]? = some l.tables.modeNames[mode] :=
    getElem?_modeNames.symm.trans (Array.getElem?_eq_getElem hm)
  generalize l.tables.modeNames[mode] = name at hname ⊢
  have hstart := h.modeStart_lt hname
  have hq := h.follow_lt hstart w
  refine ⟨_, _, h.modeStart_eq hname, h.run_tables hstart w, ?_⟩
  rw [getElem?_tokenTypes hq, getElem?_accepting hq]
  refine ⟨fun o => ?_, ?_, ?_, _, rfl⟩
  · rw [Option.some.injEq, h.token_follow_iff hname]
  · rw [Option.some.injEq, h.token_follow_eq_none_iff hname]
  · rw [Option.some.injEq, h.accepting_follow_iff hname]

/-- a letter of its own, and all letters -/
def letters : Description Regex :=
  { modes := [
      { name := "text"
        rules := [
          { name := "article", expr := .char 'a', next := "text" },
          { name := "letter", expr := .set [{ start := 97, stop := 122 }], next := "text" }] }] }

/-- of two rules that match, the first one wins -/
theorem tables_recognise_letters : ∃ l start q, build letters = .ok l ∧ l.tables.modeStart 0 = .ok start ∧
    l.tables.run start [97] = .ok q ∧ l.tables.tokenTypes[q]? = some (some 0) := by
  obtain ⟨l, hb, h⟩ := exists_build (d := letters) (by decide)
  have hnames : l.tables.modeNames = #["text"] := by
    rw [show l.tables.modeNames = l.modeNames.toArray from rfl, h.modeNames_eq]
    rfl
  have hsize : 0 < l.tables.modeNames.size := by simp [hnames]
  have hname : l.tables.modeNames[0] = "text" := by simp [hnames]
  obtain ⟨start, q, hstart, hrun, htoken, -⟩ := tables_recognise hb hsize [97]
  refine ⟨l, start, q, hb, hstart, hrun, (htoken 0).2 ?_⟩
  rw [hname]
  exact ⟨⟨_, rfl, .set ⟨_, List.mem_singleton_self _, by decide⟩⟩, fun _ _ => Nat.zero_le _⟩

/-- **Canonical tables.** Two descriptions with the same names in the same order, over the same alphabet, have the same
tables if in every mode the first rule that matches a word is the same in both. -/
theorem tables_canonical {d' : Description Regex} {l' : Definition} (hb : build d = .ok l) (hb' : build d' = .ok l')
    (houtline : d.outline = d'.outline)
    (hsplit : Alphabet.ofIntervals d.intervals = Alphabet.ofIntervals d'.intervals)
    (hmatch : ∀ name ∈ d.modeNames, ∀ w o, d.FirstMatch name w o ↔ d'.FirstMatch name w o) : l.tables = l'.tables :=
  congrArg tables ((built_of_build hb).eq (built_of_build hb') houtline hsplit hmatch)

/-- one rule for words, written with an expression -/
def wordRule (r : Regex) : Description Regex :=
  { modes := [{ name := "text", rules := [{ name := "word", expr := r, next := "text" }] }] }

/-- any number of letters, written in two ways -/
theorem tables_canonical_wordRule : ∃ l l',
    build (wordRule (.star (.set [{ start := 97, stop := 122 }]))) = .ok l ∧
      build (wordRule (.opt (.plus (.set [{ start := 97, stop := 122 }])))) = .ok l' ∧ l.tables = l'.tables := by
  obtain ⟨l, hb, -⟩ := exists_build (d := wordRule (.star (.set [{ start := 97, stop := 122 }]))) (by decide)
  obtain ⟨l', hb', -⟩ := exists_build (d := wordRule (.opt (.plus (.set [{ start := 97, stop := 122 }])))) (by decide)
  refine ⟨l, l', hb, hb', tables_canonical hb hb' rfl rfl fun name _ w o => ?_⟩
  have hmatch (o : Nat) : (wordRule (.star (.set [{ start := 97, stop := 122 }]))).RuleMatches name w o ↔
      (wordRule (.opt (.plus (.set [{ start := 97, stop := 122 }])))).RuleMatches name w o := by
    cases o with
    | zero => simp [Description.RuleMatches, Description.table, wordRule, Regex.Matches, Regex.lang_star_iff,
        Regex.lang_opt_iff]
    | succ o => simp [Description.RuleMatches, Description.table, wordRule]
  simp only [Description.FirstMatch, hmatch]

end Definition

end Munch
