/-
The tables of a lexer are sound.

Everything that a scanner relies on holds for the tables of a lexer, so every session with a scanner over them finds what it
looks up, and the scanner stays in a mode that it has.

Results:
- `Built.sound`: the tables are sound.
- `tables_sound`: so are all sessions.
-/
import Mathlib.Tactic
import Munch.Proofs.Lexer.Totality
import Munch.Proofs.Session

namespace Munch

namespace Definition

variable {d : Description Regex} {l : Definition} {q : Nat}

theorem size_accepting (l : Definition) : l.tables.accepting.size = l.automaton.stateCount := by
  simp [tables]

theorem stateCount_tables (l : Definition) : l.tables.stateCount = l.automaton.stateCount :=
  l.size_accepting

theorem size_tokenTypes (l : Definition) : l.tables.tokenTypes.size = l.automaton.stateCount := by
  simp [tables]

/-- a place in the list of token types is that of a state -/
theorem getElem?_tokenTypes_eq_some_iff {x : Option Nat} :
    l.tables.tokenTypes[q]? = some x ↔ q < l.automaton.stateCount ∧ l.automaton.token? q = x := by
  by_cases hq : q < l.automaton.stateCount
  · simp [getElem?_tokenTypes hq, hq]
  · have hnone : l.tables.tokenTypes[q]? = none := Array.getElem?_eq_none (l.size_tokenTypes ▸ Nat.not_lt.1 hq)
    simp [hnone, hq]

/-- a place in the list of accepting states is that of a state -/
theorem getElem?_accepting_eq_some_iff {x : Bool} :
    l.tables.accepting[q]? = some x ↔ q < l.automaton.stateCount ∧ l.automaton.isAccepting q = x := by
  by_cases hq : q < l.automaton.stateCount
  · simp [getElem?_accepting hq, hq]
  · have hnone : l.tables.accepting[q]? = none := Array.getElem?_eq_none (l.size_accepting ▸ Nat.not_lt.1 hq)
    simp [hnone, hq]

namespace Built

variable (h : Built d l)
include h

/-- the moves in the tables lead to states -/
theorem transitions_lt {r : Nat} (hr : r ∈ l.tables.transitions) : r < l.automaton.stateCount := by
  have hmem : r ∈ (List.range l.automaton.stateCount).flatMap l.tableRow := List.mem_toArray.1 hr
  obtain ⟨q, hq, hr⟩ := List.mem_flatMap.1 hmem
  have hq := List.mem_range.1 hq
  rcases List.mem_cons.1 hr with rfl | hr
  · rw [h.errorState_eq]
    exact h.zero_lt
  · obtain ⟨s, hs, rfl⟩ := List.mem_map.1 hr
    have hs := List.mem_range.1 hs
    rw [target, h.canonical.complete.target?_eq hq hs, Option.getD_some]
    exact h.canonical.complete.step_lt hq hs

/-- the error state is not left on any column -/
theorem error_row {s : Nat} (hs : s < l.tables.symbolCount) : l.tables.nextState 0 s = .ok 0 := by
  cases s with
  | zero => exact h.nextState_zero h.zero_lt
  | succ s =>
    have hs : s < l.automaton.alphabetSize := Nat.lt_of_succ_lt_succ hs
    rw [h.nextState_succ h.zero_lt hs, h.canonical.step_zero hs]

theorem accepting_tables_iff (q : Nat) :
    l.tables.accepting[q]? = some true ↔ ∃ o, l.tables.tokenTypes[q]? = some (some o) := by
  simp only [getElem?_accepting_eq_some_iff, getElem?_tokenTypes_eq_some_iff, exists_and_left]
  exact and_congr_right h.accepting_iff_token

theorem size_intervals_lt : l.tables.intervals.size < l.tables.symbolCount := by
  have hsize : l.tables.intervals.size = l.alphabet.size := by simp [tables, Alphabet.pairs, Alphabet.size]
  rw [hsize]
  exact Nat.lt_succ_of_le (h.alphabetSize_eq ▸ Nat.le_max_left _ _)

theorem size_modeNames_lt : l.tables.modeNames.size < l.tables.symbolCount := by
  have hsize : l.tables.modeNames.size = d.modeNames.eraseDups.length := by
    rw [← h.length_modeNames]
    rfl
  rw [hsize]
  exact Nat.lt_succ_of_le (h.alphabetSize_eq ▸ Nat.le_max_right _ _)

theorem intervals_ascend : l.tables.intervals.toList.Pairwise fun x y => x.2 < y.1 := by
  have ho : l.alphabet.Ordered := h.alphabet_eq ▸ Alphabet.ordered_ofIntervals _
  have hlist : l.tables.intervals.toList = l.alphabet.intervals.toList.map Interval.ends := by
    simp [tables, Alphabet.pairs]
  rw [hlist, List.pairwise_map]
  exact ho

/-- the tables of a lexer are sound -/
theorem sound : l.tables.Sound where
  transitions_size := by
    rw [size_transitions, stateCount_tables]
    rfl
  transitions_lt r hr := by
    rw [stateCount_tables]
    exact h.transitions_lt hr
  first_column q hq := by
    rw [stateCount_tables] at hq
    rw [h.nextState_zero hq]
    exact congrArg _ h.errorState_eq.symm
  error_row s hs := by
    rw [show l.tables.errorState = 0 from h.errorState_eq]
    exact h.error_row hs
  error_not_accepting := by
    rw [show l.tables.errorState = 0 from h.errorState_eq, getElem?_accepting_eq_some_iff]
    exact ⟨h.zero_lt, h.canonical.isAccepting_zero⟩
  tokenTypes_size := by rw [size_tokenTypes, stateCount_tables]
  accepting_iff := h.accepting_tables_iff
  token_lt q o ho := by
    have hlt := h.token_lt (getElem?_tokenTypes_eq_some_iff.1 ho).2
    simpa [tables] using hlt
  next_mode_lt info hinfo := by
    have hmem : info ∈ l.tokens.map fun t => (⟨t.name, t.mode⟩ : TokenInfo) := List.mem_toArray.1 hinfo
    obtain ⟨t, ht, rfl⟩ := List.mem_map.1 hmem
    exact h.next_mode_lt ht
  startMode_lt := h.startMode_lt
  startState_lt := by
    rw [stateCount_tables]
    exact h.canonical.complete.start_lt
  modeNames_nodup := by
    rw [show l.tables.modeNames.toList = l.modeNames from rfl, h.modeNames_eq]
    exact nodup_eraseDups _
  intervals_lt := h.size_intervals_lt
  modes_lt := h.size_modeNames_lt
  intervals_valid x hx := by
    obtain ⟨i, -, rfl⟩ := Array.mem_map.1 hx
    exact i.start_le_stop
  intervals_ascend := h.intervals_ascend

end Built

/-- **Built tables are sound, and sessions are safe.** A scanner over the tables of a lexer starts in a mode that it has. From
any such mode, whatever it is asked for and in whichever order, traced or not, it stays in a mode that it has and its replies
are safe; a change of mode is refused only if there is no such mode, and then the scanner is as it was. -/
theorem tables_sound (hb : build d = .ok l) : l.tables.Sound ∧ (Scanner.ofTables l.tables).Valid ∧
    ∀ (s : Scanner) (tracing : Bool), s.tables = l.tables → s.mode < l.tables.modeNames.size →
      (∀ requests, (s.serveAll tracing requests).2.tables = l.tables ∧
        (s.serveAll tracing requests).2.mode < l.tables.modeNames.size ∧
        ∀ reply ∈ (s.serveAll tracing requests).1, reply.Safe l.tables) ∧
      ∀ mode, (mode < l.tables.modeNames.size ∧ s.serve tracing (.setMode mode) = (.changed, { s with mode := mode })) ∨
        (l.tables.modeNames.size ≤ mode ∧ s.serve tracing (.setMode mode) = (.refused (.unknownMode mode), s)) := by
  have hsound := (built_of_build hb).sound
  refine ⟨hsound, Scanner.valid_ofTables hsound, ?_⟩
  intro s tracing hs hm
  rw [← hs] at hsound hm ⊢
  refine ⟨?_, s.serve_setMode_cases tracing⟩
  intro requests
  obtain ⟨hvalid, htables, hsafe⟩ := Scanner.Valid.serveAll ⟨hsound, hm⟩ tracing requests
  exact ⟨htables, htables ▸ hvalid.mode_lt, hsafe⟩

/-- a scan of a text with a character that begins no token, a mode that is not there, and the name of the mode -/
theorem tables_sound_letters : ∃ l, build letters = .ok l ∧ l.tables.Sound ∧
    ∀ reply ∈ ((Scanner.ofTables l.tables).serveAll true [.scan ['a', '?'] 3, .setMode 7, .modeName]).1,
      reply.Safe l.tables := by
  obtain ⟨l, hb, -⟩ := exists_build (d := letters) (by decide)
  obtain ⟨hsound, hvalid, hsessions⟩ := tables_sound hb
  obtain ⟨hsession, -⟩ := hsessions (.ofTables l.tables) true rfl hvalid.mode_lt
  obtain ⟨-, -, hsafe⟩ := hsession [.scan ['a', '?'] 3, .setMode 7, .modeName]
  exact ⟨l, hb, hsound, hsafe⟩

end Definition

end Munch
