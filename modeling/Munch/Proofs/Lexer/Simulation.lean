/-
The tables of a lexer and its automaton.

The same text can be followed in two ways. In the tables a character is looked up in the pairs of ends, which are counted
from one, and the move is looked up in the row of the state. In the lexer a character is looked up in the alphabet, which is
counted from zero, and the move is asked of the automaton; `Definition.walk?` follows a text like that, and ends in the error
state at the first character that the alphabet does not have.

Results:
- `scan_eq`, `Built.walk?_eq`: both ways lead to the state behind the code points of the text.
- `Built.tokenAt_tables`: the tables and the lexer say the same about the token type of a state.
- `tables_simulate`: so they agree on every text, from the start of every mode on.
-/
import Mathlib.Tactic
import Munch.Proofs.Alphabet.Compression
import Munch.Proofs.Lexer.Totality

namespace Munch

/-! ## In the tables -/

namespace Tables

/-- the state behind a text -/
def scan (t : Tables) (state : Nat) (text : List Char) : Except Fault Nat :=
  text.foldlM (fun q c => t.nextState q (t.symbolOf c)) state

/-- the token type of a state, if it has one, with its name and the mode to continue in -/
def tokenAt (t : Tables) (q : Nat) : Except Fault (Option (Nat × TokenInfo)) := do
  match ← orOutOfRange t.tokenTypes[q]? with
  | none => return none
  | some o => return some (o, ← orOutOfRange t.tokens[o]?)

/-- a text is followed by its code points -/
theorem scan_eq (t : Tables) (state : Nat) (text : List Char) : t.scan state text = t.run state (text.map Char.toNat) := by
  rw [run, List.foldlM_map]
  rfl

end Tables

/-! ## In the lexer -/

/-- what the tables say about a token type -/
def TokenType.info (t : TokenType) : TokenInfo :=
  { name := t.name, mode := t.mode }

namespace Definition

/-- the state behind a text, if the automaton has the moves for it; from the first character that the alphabet does not have
on it is the error state -/
def walk? (l : Definition) (q : Nat) : List Char → Option Nat
  | [] => some q
  | c :: text =>
    match l.alphabet.symbolOf? c.toNat with
    | none => some l.errorState
    | some s => (l.automaton.target? q s).bind fun r => l.walk? r text

/-- the token type of a state, if it has one, by its number and as it is listed -/
def tokenAt? (l : Definition) (q : Nat) : Option (Nat × TokenType) :=
  (l.automaton.token? q).bind fun o => (l.tokenTypeOf? q).map fun t => (o, t)

variable {d : Description Regex} {l : Definition} {q : Nat}

theorem walk?_cons_none {c : Char} (hc : l.alphabet.symbolOf? c.toNat = none) (q : Nat) (text : List Char) :
    l.walk? q (c :: text) = some l.errorState := by
  rw [walk?, hc]

theorem walk?_cons_some {c : Char} {s : Nat} (hc : l.alphabet.symbolOf? c.toNat = some s) (q : Nat) (text : List Char) :
    l.walk? q (c :: text) = (l.automaton.target? q s).bind fun r => l.walk? r text := by
  rw [walk?, hc]

namespace Built

variable (h : Built d l)
include h

/-- the automaton has the moves for every text -/
theorem walk?_eq (hq : q < l.automaton.stateCount) (text : List Char) :
    l.walk? q text = some (l.follow q (text.map Char.toNat)) := by
  induction text generalizing q with
  | nil => rfl
  | cons c text ih =>
    rw [List.map_cons, h.follow_cons]
    cases hc : l.alphabet.symbolOf? c.toNat with
    | none => rw [walk?_cons_none hc, Option.elim_none, h.follow_zero, h.errorState_eq]
    | some s =>
      have hs := h.symbol_lt hc
      rw [walk?_cons_some hc, h.canonical.complete.target?_eq hq hs, Option.bind_some, Option.elim_some]
      exact ih (h.canonical.complete.step_lt hq hs)

/-- the start of a mode is where the automaton goes on the number of the mode -/
theorem modeStart_eq_step {mode : Nat} (hmode : mode < l.automaton.alphabetSize) :
    l.modeStart mode = l.automaton.step l.automaton.start mode := by
  rw [modeStart, target, h.canonical.complete.target?_eq h.canonical.complete.start_lt hmode, Option.getD_some]

/-- every token type of a state is listed -/
theorem exists_tokenTypeOf? {o : Nat} (ho : l.automaton.token? q = some o) :
    ∃ t, l.tokens[o]? = some t ∧ l.tokenTypeOf? q = some t := by
  have ht := List.getElem?_eq_getElem (h.token_lt ho)
  refine ⟨_, ht, ?_⟩
  rw [tokenTypeOf?, ho, Option.bind_some, ht]

theorem isSome_tokenTypeOf? : (l.tokenTypeOf? q).isSome = (l.automaton.token? q).isSome := by
  cases ho : l.automaton.token? q with
  | none =>
    rw [tokenTypeOf?, ho]
    rfl
  | some o =>
    obtain ⟨t, -, ht⟩ := h.exists_tokenTypeOf? ho
    rw [ht]
    rfl

/-- the tables list the token type of a state -/
theorem tokenAt_tables (hq : q < l.automaton.stateCount) :
    l.tables.tokenAt q = .ok ((l.tokenAt? q).map fun x => (x.1, x.2.info)) := by
  rw [Tables.tokenAt, getElem?_tokenTypes hq]
  cases ho : l.automaton.token? q with
  | none =>
    rw [tokenAt?, ho]
    rfl
  | some o =>
    obtain ⟨t, hlist, ht⟩ := h.exists_tokenTypeOf? ho
    have hinfo : l.tables.tokens[o]? = some t.info := by
      simp only [tables, List.getElem?_toArray, List.getElem?_map, hlist]
      rfl
    simp only [orOutOfRange, bind, Except.bind, hinfo, tokenAt?, ho, ht]
    rfl

end Built

/-- **The tables simulate the automaton.** In each mode of a lexer a text is followed in the tables and in the automaton,
which is in the error state from the first character on that the alphabet does not have. Both begin in the same state and end
in the same state, and for that state the tables give the token type, its name and the mode to continue in that the lexer
gives. -/
theorem tables_simulate (hb : build d = .ok l) {mode : Nat} (hm : mode < l.modeNames.length) (text : List Char) :
    l.tables.modeStart mode = .ok (l.modeStart mode) ∧
      ∃ q, l.tables.scan (l.modeStart mode) text = .ok q ∧ l.walk? (l.modeStart mode) text = some q ∧
        l.tables.tokenAt q = .ok ((l.tokenAt? q).map fun x => (x.1, x.2.info)) ∧
        (l.tokenTypeOf? q).isSome = (l.automaton.token? q).isSome := by
  have h := built_of_build hb
  have hname : l.modeNames[mode]? = some l.modeNames[mode] := List.getElem?_eq_getElem hm
  have hstart := h.modeStart_lt hname
  rw [h.modeStart_eq_step (h.mode_lt hname)]
  refine ⟨h.modeStart_eq hname, l.follow (l.automaton.step l.automaton.start mode) (text.map Char.toNat), ?_,
    h.walk?_eq hstart text, ?_, h.isSome_tokenTypeOf?⟩
  · rw [Tables.scan_eq]
    exact h.run_tables hstart _
  · exact h.tokenAt_tables (h.follow_lt hstart _)

/-- more modes than intervals: only the first mode has a rule -/
def rooms : Description Regex :=
  { modes := [
      { name := "hall", rules := [{ name := "door", expr := .char 'x', next := "attic" }] },
      { name := "cellar", rules := [] },
      { name := "attic", rules := [] }] }

/-- a door leads to the second mode, and behind a character of no rule the text stays in the error state -/
theorem tables_simulate_rooms : ∃ l q, build rooms = .ok l ∧ 0 < l.modeNames.length ∧
    l.alphabet.size < l.modeNames.length ∧ l.tables.modeStart 0 = .ok (l.modeStart 0) ∧
    l.tables.scan (l.modeStart 0) ['x'] = .ok q ∧ l.walk? (l.modeStart 0) ['x'] = some q ∧
    l.tables.tokenAt q = .ok (some (0, { name := "door", mode := 1 })) ∧
    l.tables.scan (l.modeStart 0) ['x', '?', 'x'] = .ok l.errorState := by
  obtain ⟨l, hb, h⟩ := exists_build (d := rooms) (by decide)
  have hnames : l.modeNames = ["hall", "attic", "cellar"] := by
    rw [h.modeNames_eq]
    rfl
  have hm : 0 < l.modeNames.length := by simp [hnames]
  have hsize : l.alphabet.size < l.modeNames.length := by
    have hle := Interval.length_split_le rooms.intervals
    rw [h.alphabet_eq, hnames]
    simp only [Alphabet.size, Alphabet.ofIntervals, List.size_toArray]
    exact hle.trans_lt (by decide)
  obtain ⟨hstart, q, hscan, hwalk, htoken, -⟩ := tables_simulate hb hm ['x']
  obtain ⟨-, r, hscan', hwalk', -⟩ := tables_simulate hb hm ['x', '?', 'x']
  have hcovers : ∃ i ∈ rooms.intervals, i.contains 'x'.toNat = true := by decide
  have hnot : ¬∃ i ∈ rooms.intervals, i.contains '?'.toNat = true := by decide
  obtain ⟨s, hs⟩ := Alphabet.exists_symbolOf?_iff.2 hcovers
  rw [← h.alphabet_eq] at hs
  -- behind the first `x` the alphabet does not have the next character
  have hr : r = l.errorState := by
    have hnone := h.alphabet_eq ▸ Alphabet.symbolOf?_eq_none_iff.2 hnot
    rw [walk?_cons_some hs, Option.bind_eq_some_iff] at hwalk'
    obtain ⟨p, -, hp⟩ := hwalk'
    rw [walk?_cons_none hnone] at hp
    exact (Option.some.inj hp).symm
  have hq : l.automaton.token? q = some 0 := by
    have hname : l.modeNames[0]? = some "hall" := by rw [hnames]; rfl
    have hfollow := (h.walk?_eq (h.modeStart_lt hname) ['x']).symm
    rw [← h.modeStart_eq_step (h.mode_lt hname), hwalk] at hfollow
    rw [← Option.some.inj hfollow, h.modeStart_eq_step (h.mode_lt hname), h.token_follow_iff hname]
    exact ⟨⟨_, rfl, .set ⟨_, List.mem_singleton_self _, by decide⟩⟩, fun _ _ => Nat.zero_le _⟩
  refine ⟨l, q, hb, hm, hsize, hstart, hscan, hwalk, ?_, hr ▸ hscan'⟩
  obtain ⟨t, hlist, ht⟩ := h.exists_tokenTypeOf? hq
  have hdoor : l.tokens[0]? = some { name := "door", mode := 1 } := by
    rw [h.tokens_eq]
    rfl
  rw [htoken, tokenAt?, hq, Option.bind_some, ht, ← hlist, hdoor]
  rfl

end Definition

end Munch
