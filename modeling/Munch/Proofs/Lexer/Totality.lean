/-
What a build answers.

A description is refused if it has no mode, if a rule continues in a mode that is not declared, or if its start mode is not
declared, in this order; every other description has a lexer. On the way to it each step gets what it asks for: the intervals
of the rules are runs of the alphabet, the automaton to be made deterministic has no error state yet, the automaton to be
completed is deterministic, the one to be minimised is complete, and every state, symbol, mode and token type that is looked
up or put in is there at that moment. `Contracts` collects these facts, those that only debug assertions ask for among them.

Results:
- `modeError?_cases`: what is wrong with the modes.
- `build_cases`, `build_ne_fault`: a lexer is refused for what is wrong with its modes and for nothing else.
- `steps_of_build`: the steps of a build that gives a lexer.
- `Built.token_lt`, `Built.next_mode_lt`, `Built.startMode_lt`: the numbers in a lexer.
- `contracts_of_steps`: each step gets what it asks for.
- `build_total`: all of this for every description.
-/
import Mathlib.Tactic
import Munch.Proofs.Automaton.InRange
import Munch.Proofs.Lexer.Insertion
import Munch.Proofs.Lexer.Minimality

namespace Munch

namespace Description

variable {α : Type} {d : Description α}

/-! ## What is wrong with the modes -/

/-- a rule continues in a mode that is not declared, and no rule before it does -/
def FirstUndefined (d : Description α) (r : Rule α) : Prop :=
  ∃ before after, d.rules = before ++ r :: after ∧ (∀ x ∈ before, x.next ∈ d.modeNames) ∧ r.next ∉ d.modeNames

/-- all rules continue in modes that are declared -/
def NextDeclared (d : Description α) : Prop :=
  ∀ r ∈ d.rules, r.next ∈ d.modeNames

theorem firstUndefined?_eq_some_iff {r : Rule α} : d.firstUndefined? = some r ↔ d.FirstUndefined r := by
  rw [firstUndefined?, List.find?_eq_some_iff_append]
  simp only [Bool.not_eq_true', Bool.not_not, List.contains_eq_mem, decide_eq_false_iff_not,
    decide_eq_true_eq]
  constructor
  · intro h
    obtain ⟨hr, before, after, he, hb⟩ := h
    exact ⟨before, after, he, hb, hr⟩
  · intro h
    obtain ⟨before, after, he, hb, hr⟩ := h
    exact ⟨hr, before, after, he, hb⟩

theorem firstUndefined?_eq_none_iff : d.firstUndefined? = none ↔ d.NextDeclared := by
  simp [firstUndefined?, NextDeclared]

theorem FirstUndefined.modes_ne_nil {r : Rule α} (h : d.FirstUndefined r) : d.modes ≠ [] := by
  intro hnil
  obtain ⟨before, after, he, -, -⟩ := h
  simp [rules, hnil] at he

theorem modeError?_of_nil (h : d.modes = []) : d.modeError? = some .noModes := by
  simp [modeError?, h]

theorem modeError?_of_firstUndefined {r : Rule α} (h : d.FirstUndefined r) :
    d.modeError? = some (.undefinedMode r.name r.next) := by
  have hne : d.modes.isEmpty = false := by simpa using h.modes_ne_nil
  simp [modeError?, hne, firstUndefined?_eq_some_iff.2 h]

theorem modeError?_of_nextDeclared (hne : d.modes ≠ []) (h : d.NextDeclared) :
    d.modeError? = (d.startMode.filter fun s => !d.modeNames.contains s).map .unknownStartMode := by
  have hne' : d.modes.isEmpty = false := by simpa using hne
  simp [modeError?, hne', firstUndefined?_eq_none_iff.2 h]

/-- the three cases in the order in which they are tried -/
theorem modeError?_cases (d : Description α) :
    (d.modes = [] ∧ d.modeError? = some .noModes) ∨
      (∃ r, d.FirstUndefined r ∧ d.modeError? = some (.undefinedMode r.name r.next)) ∨
      (d.modes ≠ [] ∧ d.NextDeclared ∧
        d.modeError? = (d.startMode.filter fun s => !d.modeNames.contains s).map .unknownStartMode) := by
  by_cases hnil : d.modes = []
  · exact Or.inl ⟨hnil, modeError?_of_nil hnil⟩
  · cases hf : d.firstUndefined? with
    | some r =>
      have hr := firstUndefined?_eq_some_iff.1 hf
      exact Or.inr (Or.inl ⟨r, hr, modeError?_of_firstUndefined hr⟩)
    | none =>
      have hn := firstUndefined?_eq_none_iff.1 hf
      exact Or.inr (Or.inr ⟨hnil, hn, modeError?_of_nextDeclared hnil hn⟩)

theorem modeError?_eq_noModes_iff : d.modeError? = some .noModes ↔ d.modes = [] := by
  constructor
  · intro h
    rcases d.modeError?_cases with ⟨hnil, -⟩ | ⟨r, -, hr⟩ | ⟨-, -, hs⟩
    · exact hnil
    · rw [h] at hr
      cases hr
    · rw [h] at hs
      obtain ⟨s, -, he⟩ := Option.map_eq_some_iff.1 hs.symm
      cases he
  · exact modeError?_of_nil

theorem modeError?_eq_undefinedMode_iff {token mode : String} : d.modeError? = some (.undefinedMode token mode) ↔
    ∃ r, d.FirstUndefined r ∧ r.name = token ∧ r.next = mode := by
  constructor
  · intro h
    rcases d.modeError?_cases with ⟨-, hn⟩ | ⟨r, hr, he⟩ | ⟨-, -, hs⟩
    · rw [h] at hn
      cases hn
    · rw [h] at he
      cases he
      exact ⟨r, hr, rfl, rfl⟩
    · rw [h] at hs
      obtain ⟨s, -, he⟩ := Option.map_eq_some_iff.1 hs.symm
      cases he
  · intro h
    obtain ⟨r, hr, rfl, rfl⟩ := h
    exact modeError?_of_firstUndefined hr

theorem modeError?_eq_unknownStartMode_iff {mode : String} : d.modeError? = some (.unknownStartMode mode) ↔
    d.modes ≠ [] ∧ d.NextDeclared ∧ d.startMode = some mode ∧ mode ∉ d.modeNames := by
  have hfilter : (d.startMode.filter fun s => !d.modeNames.contains s).map ModeError.unknownStartMode =
      some (.unknownStartMode mode) ↔ d.startMode = some mode ∧ mode ∉ d.modeNames := by
    simp [Option.filter_eq_some_iff]
  constructor
  · intro h
    rcases d.modeError?_cases with ⟨-, hn⟩ | ⟨r, -, hr⟩ | ⟨hne, hnext, hs⟩
    · rw [h] at hn
      cases hn
    · rw [h] at hr
      cases hr
    · exact ⟨hne, hnext, hfilter.1 (hs.symm.trans h)⟩
  · intro h
    obtain ⟨hne, hnext, hs⟩ := h
    rw [modeError?_of_nextDeclared hne hnext]
    exact hfilter.2 hs

end Description

open Automaton (Determinizes Completes)

namespace Definition

variable {d : Description Regex} {l : Definition} {a : Assembly} {st : Stages}

/-! ## Refusals -/

/-- a description has a lexer, or it is refused for what is wrong with its modes -/
theorem build_cases (d : Description Regex) : (d.modeError? = none ∧ ∃ l, build d = .ok l) ∨
    ∃ e, d.modeError? = some e ∧ build d = .error (.modes e) := by
  cases h : d.modeError? with
  | none =>
    obtain ⟨l, hb, -⟩ := exists_build h
    exact Or.inl ⟨rfl, l, hb⟩
  | some e =>
    refine Or.inr ⟨e, rfl, ?_⟩
    simp only [build, Assembly.ofDescription, h, bind, Except.bind]

theorem build_eq_error_iff {e : ModeError} : build d = .error (.modes e) ↔ d.modeError? = some e := by
  rcases build_cases d with ⟨h, l, hb⟩ | ⟨e', h, hb⟩
  · simp [h, hb]
  · simp [h, hb]

/-- no step of a build gets values that it does not accept -/
theorem build_ne_fault (d : Description Regex) (f : Fault) : build d ≠ .error (.fault f) := by
  rcases build_cases d with ⟨-, l, hb⟩ | ⟨e, -, hb⟩
  · simp [hb]
  · simp [hb]

theorem exists_build_iff : (∃ l, build d = .ok l) ↔ d.modeError? = none := by
  rcases build_cases d with ⟨h, hb⟩ | ⟨e, h, hb⟩
  · exact iff_of_true hb h
  · simp [h, hb]

/-! ## The steps -/

/-- the steps of the build of a lexer, each on the result of the one before -/
structure Steps (d : Description Regex) (l : Definition) (a : Assembly) (st : Stages) : Prop where
  alphabet_eq : l.alphabet = .ofIntervals d.intervals
  assembled : Assembly.ofDescription d l.alphabet = .ok a
  determinized : a.nfa.determinize = .ok st.dfa
  completed : st.dfa.complete = .ok st.completed
  minimized : st.completed.minimize = .ok l.automaton
  tokens_eq : l.tokens = a.tokens
  modeNames_eq : l.modeNames = a.modeNames
  startMode_eq : l.startMode = a.startMode

theorem exists_of_mapError_eq_ok {ε ε' α : Type} {x : Except ε α} {f : ε → ε'} {a : α} (h : x.mapError f = .ok a) :
    x = .ok a := by
  cases x with
  | error e => cases h
  | ok a' => exact congrArg _ (Except.ok.inj h)

theorem steps_of_build (hb : build d = .ok l) : ∃ a st, Steps d l a st := by
  obtain ⟨a, ha, hb⟩ := exists_of_bind_eq_ok hb
  obtain ⟨st, hst, hb⟩ := exists_of_bind_eq_ok hb
  obtain ⟨dfa, hd, hst⟩ := exists_of_bind_eq_ok (exists_of_mapError_eq_ok hst)
  obtain ⟨c, hc, hst⟩ := exists_of_bind_eq_ok hst
  obtain ⟨n, hn, hst⟩ := exists_of_bind_eq_ok hst
  cases hst
  cases hb
  exact ⟨a, { nfa := a.nfa, dfa := dfa, completed := c, minimal := n }, rfl, ha, hd, hc, hn, rfl, rfl, rfl⟩

/-! ## Numbers in a lexer -/

namespace Built

variable (h : Built d l)
include h

/-- the token type of a state is that of a rule -/
theorem token_lt {q o : Nat} (ho : l.automaton.token? q = some o) : o < l.tokens.length := by
  have hq : q < l.automaton.stateCount := Automaton.lt_of_token?_eq_some ho
  revert ho
  apply h.canonical.forall_lt_of_forall_word (P := fun q => l.automaton.token? q = some o → o < l.tokens.length)
  · rw [h.canonical.token?_zero]
    exact nofun
  · intro w hw ho
    have hfinds := ((h.token_iff hw).1 ho).1
    cases w with
    | nil => exact hfinds.elim
    | cons mode v =>
      obtain ⟨x, hx, -⟩ := hfinds
      rw [h.tokens_eq, List.length_map]
      exact (List.getElem?_eq_some_iff.1 hx).1
  · exact hq

theorem number_lt {name : String} (hname : name ∈ d.uses) : d.modeNumber name < l.modeNames.length := by
  rw [h.modeNames_eq]
  exact List.idxOf_lt_length_of_mem (List.mem_eraseDups.2 hname)

/-- the mode behind a token type is one of the modes -/
theorem next_mode_lt {t : TokenType} (ht : t ∈ l.tokens) : t.mode < l.modeNames.length := by
  rw [h.tokens_eq] at ht
  obtain ⟨x, hx, rfl⟩ := List.mem_map.1 ht
  exact h.number_lt (Description.mem_uses_of_mem_table hx).2

theorem startMode_lt : l.startMode < l.modeNames.length := by
  rw [h.startMode_eq]
  cases hs : d.startMode with
  | some name => exact h.number_lt (List.mem_append_right _ (by simp [hs]))
  | none =>
    obtain ⟨hne, -, -⟩ := Assembly.modeError?_eq_none_iff.1 h.modes_fit
    obtain ⟨m, hm⟩ := List.exists_mem_of_ne_nil _ hne
    have hused : m.name ∈ d.uses := List.mem_append_left _ (List.mem_flatMap.2 ⟨m, hm, List.mem_cons_self⟩)
    exact Nat.zero_lt_of_lt (h.number_lt hused)

/-- the modes of a lexer are those that are declared -/
theorem length_modeNames : l.modeNames.length = d.modeNames.eraseDups.length := by
  rw [h.modeNames_eq]
  apply Nat.le_antisymm
  · exact length_eraseDups_le (Assembly.uses_subset h.modes_fit)
  · apply length_eraseDups_le
    intro name hname
    obtain ⟨m, hm, rfl⟩ := List.mem_map.1 hname
    exact List.mem_append_left _ (List.mem_flatMap.2 ⟨m, hm, List.mem_cons_self⟩)

end Built

/-! ## What each step asks for -/

/-- each step of a build gets what it asks for -/
structure Contracts (d : Description Regex) (l : Definition) (a : Assembly) (st : Stages) : Prop
    extends Steps d l a st where
  /-- an interval of a rule is a run of the alphabet -/
  tiled : ∀ i ∈ d.intervals, ∃ symbols, l.alphabet.symbolsOf i = .ok symbols ∧ (∀ s ∈ symbols, s < l.alphabet.size) ∧
    ∀ c, i.contains c = true ↔ ∃ s ∈ symbols, l.alphabet.symbolOf? c = some s
  symbols_few : l.alphabet.size ≤ 2 * d.intervals.length - 1
  /-- there are symbols enough for the alphabet and for the modes -/
  symbols_le : l.alphabet.size ≤ a.nfa.alphabetSize
  modes_le : l.modeNames.length ≤ a.nfa.alphabetSize
  modes_count : l.modeNames.length = d.modeNames.eraseDups.length
  /-- each edge of the rules has its symbol and its target when it is put in, and each accepting state is there -/
  inserted : Assembly.ofDescriptionWithin d l.alphabet = .ok a
  nfa_wellFormed : a.nfa.WellFormed
  nfa_errorState : a.nfa.errorState = none
  /-- at each point of the exploration, all that it looks up is there, and so are the symbol and the target of each edge that
  it has put in -/
  exploring : ∀ rounds, ∀ s ≤ a.nfa.alphabetSize,
    Subsets.InRange a.nfa (Subsets.during a.nfa rounds s).1 (Subsets.during a.nfa rounds s).2
  dfa_wellFormed : st.dfa.WellFormed
  dfa_deterministic : st.dfa.isDeterministic = true
  /-- all states of the completed automaton are there before its first edge, and so are those of the minimal one -/
  completed_wellFormed : st.completed.WellFormed
  completed_complete : st.completed.isComplete = true
  completed_errorState : ∃ e, st.completed.errorState = some e ∧ e < st.completed.stateCount
  predecessors : Predecessors.InRange st.completed (.ofAutomaton st.completed)
  /-- between two rounds of the refinement, all that it looks up is there -/
  refining : ∀ rounds, Refinement.InRange st.completed
    (Refinement.run st.completed (.ofAutomaton st.completed) rounds (.initial st.completed st.completed.tokenGroups))
  /-- and so it is within a round -/
  splitting : ∀ rounds splitter rest, (Refinement.run st.completed (.ofAutomaton st.completed) rounds
      (.initial st.completed st.completed.tokenGroups)).pending = splitter :: rest → ∀ k,
    let r := { Refinement.run st.completed (.ofAutomaton st.completed) rounds
      (.initial st.completed st.completed.tokenGroups) with pending := rest }
    Refinement.InRange st.completed (Refinement.during st.completed (.ofAutomaton st.completed) splitter r k) ∧
      ∀ t ∈ Refinement.touched (.ofAutomaton st.completed) splitter r,
        t.1 < (Refinement.during st.completed (.ofAutomaton st.completed) splitter r k).partition.blocks.size
  /-- the groups are the accepting states, each of them once -/
  groups_length : (st.completed.tokenGroups.map List.length).sum = st.completed.acceptingStates.length
  /-- states that are merged have one token type -/
  merged_token : ∀ p < st.completed.stateCount, ∀ q < st.completed.stateCount,
    (Refinement.finest st.completed st.completed.tokenGroups).blockNumber p =
      (Refinement.finest st.completed st.completed.tokenGroups).blockNumber q →
    st.completed.token? p = st.completed.token? q
  minimal_wellFormed : l.automaton.WellFormed
  minimal_complete : l.automaton.isComplete = true
  error_eq : l.automaton.errorState = some l.errorState
  error_lt : l.errorState < l.automaton.stateCount
  token_lt : ∀ q o, l.automaton.token? q = some o → o < l.tokens.length
  next_mode_lt : ∀ t ∈ l.tokens, t.mode < l.modeNames.length
  startMode_lt : l.startMode < l.modeNames.length

theorem token?_eq_of_blockNumber_eq {c : Automaton} (hc : c.Complete) (ht : c.TokensAccept) {p q : Nat}
    (hp : p < c.stateCount) (hq : q < c.stateCount)
    (he : (Refinement.finest c c.tokenGroups).blockNumber p = (Refinement.finest c c.tokenGroups).blockNumber q) :
    c.token? p = c.token? q := by
  rw [Refinement.blockNumber_finest_iff hc c.flatten_tokenGroups hp hq,
    Automaton.equivalent_tokenGroups_iff hc ht hp hq] at he
  exact congrArg Prod.snd (he [] nofun)

theorem contracts_of_steps (h : Built d l) (hs : Steps d l a st) : Contracts d l a st := by
  obtain ⟨a', ha', hA⟩ := Assembly.exists_assembly h.modes_fit
  have ha : a.nfa = a'.nfa := by
    rw [← h.alphabet_eq, hs.assembled] at ha'
    cases ha'
    rfl
  have hsize : a.nfa.alphabetSize = max l.alphabet.size d.modeNames.eraseDups.length := by
    rw [ha, hA.alphabetSize_eq, h.alphabet_eq]
  have hw : a.nfa.WellFormed := by
    rw [ha]
    exact hA.ruled.wellFormed (hA.alphabetSize_eq ▸ Nat.le_max_left _ _)
  have ht : a.nfa.TokensAccept := by
    rw [ha]
    exact hA.ruled.tokensAccept
  have hdfa : Determinizes a.nfa st.dfa := by
    obtain ⟨dfa, he, hd⟩ := Automaton.determinizes_determinize hw
    rw [hs.determinized] at he
    cases he
    exact hd
  have hcompleted : Completes st.dfa st.completed := by
    obtain ⟨c, he, hc⟩ := Automaton.completes_complete hdfa.wellFormed hdfa.deterministic
    rw [hs.completed] at he
    cases he
    exact hc
  have hc := hcompleted.complete
  have htc : st.completed.TokensAccept := hcompleted.tokensAccept (hdfa.tokensAccept ht)
  have hg := st.completed.flatten_tokenGroups
  exact
    { hs with
      tiled := by
        rw [h.alphabet_eq]
        intro i hi
        exact Alphabet.exists_symbols_of_mem hi
      symbols_few := by
        rw [h.alphabet_eq]
        exact Interval.length_split_le _
      symbols_le := hsize ▸ Nat.le_max_left _ _
      modes_le := by
        rw [hsize, h.length_modeNames]
        exact Nat.le_max_right _ _
      modes_count := h.length_modeNames
      inserted := by
        rw [← hs.assembled, h.alphabet_eq]
        exact Assembly.ofDescriptionWithin_eq fun _ => Assembly.tiledBy_of_mem_rules
      nfa_wellFormed := hw
      nfa_errorState := by
        rw [ha]
        exact hA.errorState_eq
      exploring := fun rounds s hs => Subsets.inRange_during hw rounds hs
      dfa_wellFormed := hdfa.wellFormed
      dfa_deterministic := (Automaton.isDeterministic_iff hdfa.wellFormed.ascending).2 hdfa.deterministic
      completed_wellFormed := hc.wellFormed
      completed_complete := hc.isComplete
      completed_errorState := ⟨0, hcompleted.error_eq, hcompleted.errorState_lt 0 hcompleted.error_eq⟩
      predecessors := Predecessors.inRange_ofAutomaton hc.wellFormed
      refining := Refinement.inRange_run hc hg
      splitting := fun rounds splitter rest hr k => Refinement.inRange_during hc hg rounds hr k
      groups_length := by
        rw [← List.length_flatten]
        exact hg.length_eq
      merged_token := by
        intro p hp q hq he
        exact token?_eq_of_blockNumber_eq hc htc hp hq he
      minimal_wellFormed := h.canonical.complete.wellFormed
      minimal_complete := h.canonical.complete.isComplete
      error_eq := by rw [h.canonical.error_eq, h.errorState_eq]
      error_lt := h.errorState_eq ▸ h.zero_lt
      token_lt := fun q o ho => h.token_lt ho
      next_mode_lt := fun t ht => h.next_mode_lt ht
      startMode_lt := h.startMode_lt }

/-- **A build is total.** It fails for the three reasons that modes give, tried in this order, and for no other; every other
description has a lexer. Each step on the way to it gets what it asks for. -/
theorem build_total (d : Description Regex) :
    (build d = .error (.modes .noModes) ↔ d.modes = []) ∧
      (∀ token mode, build d = .error (.modes (.undefinedMode token mode)) ↔
        ∃ r, d.FirstUndefined r ∧ r.name = token ∧ r.next = mode) ∧
      (∀ mode, build d = .error (.modes (.unknownStartMode mode)) ↔
        d.modes ≠ [] ∧ d.NextDeclared ∧ d.startMode = some mode ∧ mode ∉ d.modeNames) ∧
      ((∃ l, build d = .ok l) ↔
        d.modes ≠ [] ∧ d.NextDeclared ∧ ∀ mode, d.startMode = some mode → mode ∈ d.modeNames) ∧
      (∀ f, build d ≠ .error (.fault f)) ∧
      ∀ l, build d = .ok l → ∃ a st, Contracts d l a st := by
  refine ⟨?_, ?_, ?_, ?_, build_ne_fault d, ?_⟩
  · rw [build_eq_error_iff, Description.modeError?_eq_noModes_iff]
  · intro token mode
    rw [build_eq_error_iff, Description.modeError?_eq_undefinedMode_iff]
  · intro mode
    rw [build_eq_error_iff, Description.modeError?_eq_unknownStartMode_iff]
  · rw [exists_build_iff, Assembly.modeError?_eq_none_iff]
    rfl
  · intro l hb
    obtain ⟨a, st, hs⟩ := steps_of_build hb
    exact ⟨a, st, contracts_of_steps (built_of_build hb) hs⟩

/-- two rules that continue in modes which are not declared; the first of them is reported, and not the start mode -/
def astray : Description Regex :=
  { modes := [
      { name := "text"
        rules := [
          { name := "letter", expr := .char 'a', next := "text" },
          { name := "quote", expr := .char '"', next := "string" },
          { name := "mark", expr := .char '!', next := "shout" }] }]
    startMode := some "code" }

theorem build_total_astray : build astray = .error (.modes (.undefinedMode "quote" "string")) ∧
    ∃ l a st, build letters = .ok l ∧ Contracts letters l a st := by
  constructor
  · obtain ⟨-, hundefined, -⟩ := build_total astray
    exact (hundefined "quote" "string").2 ⟨_, ⟨[_], [_], rfl, by decide, by decide⟩, rfl, rfl⟩
  · obtain ⟨-, -, -, hok, -, hcontracts⟩ := build_total letters
    have hnext : letters.NextDeclared := by
      unfold Description.NextDeclared
      decide
    obtain ⟨l, hb⟩ := hok.2 ⟨by decide, hnext, nofun⟩
    obtain ⟨a, st, h⟩ := hcontracts l hb
    exact ⟨l, a, st, hb, h⟩

end Definition

end Munch
