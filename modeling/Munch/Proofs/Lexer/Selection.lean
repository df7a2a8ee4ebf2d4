/-
How the automaton of a description selects modes and rules.

Every rule has an accepting state of its own, which carries the number of the rule; the states are those where the
expressions of the rules end, one after the other (`Automaton.Ends`). From the start the first symbol is the number of a
mode, and the symbols behind it are read by the rules of that mode alone, whatever parts of the mode they are declared in,
although the same numbers stand for modes and for intervals of the alphabet.

Results:
- `Ends.accept`, `Labelled.addRule`, `Labelled.addMode`: one more rule has one more accepting state.
- `labelled_of_ofDescription`: so it is for all rules of a description.
- `Assembled.reads_end_iff`: the words that lead from the start to the accepting state of a rule.
- `assembly_selects`: this, with the names and numbers of the modes and token types, for every description whose modes fit
  together.
-/
import Mathlib.Tactic
import Munch.Proofs.Lexer.Definition

namespace Munch

namespace Automaton

variable {m m' : Automaton} {ends : List Nat} {last : Nat} {F : Moves}

/-! ## One accepting state for each token type -/

/-- the accepting states of an automaton are those in the list, and each carries its position in it -/
structure Ends (m : Automaton) (ends : List Nat) : Prop where
  nodup : ends.Nodup
  token_iff : ∀ {q t}, m.token? q = some t ↔ ends[t]? = some q
  accepting_iff : ∀ {q}, m.isAccepting q = true ↔ q ∈ ends

namespace Ends

theorem lt (h : m.Ends ends) {q : Nat} (hq : q ∈ ends) : q < m.stateCount :=
  lt_of_isAccepting (h.accepting_iff.2 hq)

/-- more moves and states that do not accept change nothing -/
theorem of_extends (h : m.Ends ends) (he : Extends m m' F) : m'.Ends ends where
  nodup := h.nodup
  token_iff := by
    intro q t
    rw [he.token, h.token_iff]
  accepting_iff := by
    intro q
    rw [he.accepting, h.accepting_iff]

/-- one more accepting state, which carries the next number -/
theorem accept (h : m.Ends ends) (hlast : last < m.stateCount) (hnew : last ∉ ends) :
    (m.accept last (some ends.length)).Ends (ends ++ [last]) where
  nodup := by
    rw [List.nodup_append]
    refine ⟨h.nodup, List.nodup_singleton _, ?_⟩
    intro p hp q hq he
    rw [List.mem_singleton.1 hq] at he
    exact hnew (he ▸ hp)
  token_iff := by
    intro q t
    rw [token?_accept hlast, Assembly.Assembled.getElem?_snoc_eq_some_iff]
    by_cases hq : q = last
    · have hnot : ends[t]? ≠ some last := fun ht => hnew (List.mem_of_getElem? ht)
      simp [hq, hnot, eq_comm]
    · simp [hq, h.token_iff]
  accepting_iff := by
    intro q
    rw [isAccepting_accept hlast, Bool.or_eq_true, decide_eq_true_eq, h.accepting_iff, List.mem_append,
      List.mem_singleton, or_comm]

end Ends

theorem extends_of_connect {p q : Nat} {l : Label} (h : m.connect p l q = .ok m') :
    m'.stateCount = m.stateCount ∧ Extends m m' (arc p l q) := by
  obtain ⟨hp, rfl⟩ := of_connect_eq_ok h
  exact ⟨stateCount_addEdge m p l q, Extends.addEdge hp l q⟩

end Automaton

/-- what every step keeps is kept by all steps that succeed -/
theorem of_foldlM_eq_ok {ε α β : Type} {f : α → β → Except ε α} {P : α → Prop} {l : List β} {a a' : α}
    (h : P a) (hf : l.foldlM f a = .ok a') (hstep : ∀ x ∈ l, ∀ a a', P a → f a x = .ok a' → P a') : P a' := by
  induction l generalizing a with
  | nil =>
    cases hf
    exact h
  | cons x l ih =>
    rw [List.foldlM_cons] at hf
    obtain ⟨a1, h1, hf⟩ := exists_of_bind_eq_ok hf
    apply ih (hstep x List.mem_cons_self a a1 h h1) hf
    intro y hy
    exact hstep y (List.mem_cons_of_mem x hy)

namespace Assembly

variable {alphabet : Alphabet} {d : Description Regex} {a a' : Assembly} {S : Nat}

/-- each token type so far has one accepting state -/
def Labelled (a : Assembly) : Prop :=
  ∃ ends, a.nfa.Ends ends ∧ ends.length = a.tokens.length

theorem modeIndex_nfa (a : Assembly) (name : String) : (a.modeIndex name).2.nfa = a.nfa := by
  unfold modeIndex
  split <;> rfl

theorem modeIndex_tokens (a : Assembly) (name : String) : (a.modeIndex name).2.tokens = a.tokens := by
  unfold modeIndex
  split <;> rfl

theorem modeState_tokens (a : Assembly) (mode : Nat) : (a.modeState mode).2.tokens = a.tokens := by
  unfold modeState
  split <;> rfl

theorem extends_modeState (a : Assembly) (mode : Nat) : Extends a.nfa (a.modeState mode).2.nfa ⊥ := by
  unfold modeState
  split
  · exact Extends.refl _
  · exact Extends.addState _

theorem Labelled.of_extends {F : Moves} (h : Labelled a) (he : Extends a.nfa a'.nfa F) (ht : a'.tokens = a.tokens) :
    Labelled a' := by
  obtain ⟨ends, hends, hlen⟩ := h
  exact ⟨ends, hends.of_extends he, hlen.trans (congrArg List.length ht.symm)⟩

theorem Labelled.modeIndex (h : Labelled a) (name : String) : Labelled (a.modeIndex name).2 := by
  apply h.of_extends (F := ⊥) _ (modeIndex_tokens a name)
  rw [modeIndex_nfa]
  exact Extends.refl _

theorem Labelled.modeState (h : Labelled a) (mode : Nat) : Labelled (a.modeState mode).2 :=
  h.of_extends (extends_modeState a mode) (modeState_tokens a mode)

theorem labelled_initial (d : Description Regex) (alphabet : Alphabet) : Labelled (initial d alphabet) := by
  refine ⟨[], ⟨List.nodup_nil, ?_, ?_⟩, rfl⟩
  · intro q t
    cases q <;> simp [initial, Automaton.addState, Automaton.withStates, Automaton.token?]
  · intro q
    cases q <;> simp [initial, Automaton.addState, Automaton.withStates, Automaton.isAccepting]

/-- where the expression of one more rule ends is a state of its own -/
theorem Labelled.addRule (h : Labelled a) {r : Rule Regex} (hr : r.expr.TiledBy alphabet)
    (hok : addRule alphabet S a r = .ok a') : Labelled a' := by
  obtain ⟨ends, hends, hlen⟩ := h
  unfold Assembly.addRule at hok
  obtain ⟨m1, h1, hok⟩ := exists_of_bind_eq_ok hok
  obtain ⟨x, h2, hok⟩ := exists_of_bind_eq_ok hok
  obtain ⟨hcount, he1⟩ := Automaton.extends_of_connect h1
  rw [Automaton.stateCount_addState] at hcount
  obtain ⟨last, m2, F, h2', hF⟩ := compiles_of_tiledBy hr (show a.nfa.stateCount < m1.stateCount by omega)
  rw [h2] at h2'
  cases h2'
  have hends2 := (hends.of_extends he1.behind_addState).of_extends hF.toExtends
  have hlast := hF.piece.stop_new
  have hnew : last ∉ ends := by
    intro hm
    have := hends.lt hm
    omega
  have hends3 := hends2.accept hlast.2 hnew
  have hnfa : a'.nfa = m2.accept last (some a.tokens.length) := by
    rw [← Except.ok.inj hok]
    exact modeIndex_nfa _ _
  have htokens : a'.tokens.length = a.tokens.length + 1 := by
    rw [← Except.ok.inj hok, List.length_append, List.length_singleton]
    exact congrArg (·.length + 1) (modeIndex_tokens _ _)
  refine ⟨ends ++ [last], ?_, ?_⟩
  · rw [hnfa, ← hlen]
    exact hends3
  · rw [htokens, List.length_append, List.length_singleton, hlen]

theorem Labelled.addMode (h : Labelled a) {mode : Mode Regex}
    (hr : ∀ r ∈ mode.rules, r.expr.TiledBy alphabet) (hok : addMode alphabet a mode = .ok a') : Labelled a' := by
  obtain ⟨number, a1, hindex⟩ : ∃ number a1, a.modeIndex mode.name = (number, a1) := ⟨_, _, rfl⟩
  obtain ⟨state, a2, hstate⟩ : ∃ state a2, a1.modeState number = (state, a2) := ⟨_, _, rfl⟩
  have h1 : Labelled a1 := by
    have := h.modeIndex mode.name
    rwa [hindex] at this
  have h2 : Labelled a2 := by
    have := h1.modeState number
    rwa [hstate] at this
  simp only [Assembly.addMode, hindex, hstate] at hok
  obtain ⟨m1, hconnect, hok⟩ := exists_of_bind_eq_ok hok
  have h3 : Labelled { a2 with nfa := m1 } := h2.of_extends (Automaton.extends_of_connect hconnect).2 rfl
  apply of_foldlM_eq_ok h3 hok
  intro r hm a a' ha hadd
  exact ha.addRule (hr r hm) hadd

theorem labelled_of_ofDescription (ht : ∀ r ∈ d.rules, r.expr.TiledBy alphabet)
    (hok : ofDescription d alphabet = .ok a) : Labelled a := by
  unfold ofDescription at hok
  split at hok
  · cases hok
  · split at hok
    case h_2 => cases hok
    case h_1 a0 hfold =>
      cases hok
      have h : Labelled a0 := by
        refine of_foldlM_eq_ok (labelled_initial d alphabet) hfold ?_
        intro mode hm a a' ha hadd
        exact ha.addMode (fun r hr => ht r (List.mem_flatMap.2 ⟨mode, hm, hr⟩)) hadd
      cases hs : d.startMode with
      | none => exact h
      | some name => exact h.modeIndex name

/-! ## What leads to the end of a rule -/

variable {k : Nat} {table : List (String × Rule Regex)} {uses : List String} {ends : List Nat} {o q : Nat} {w : List Nat}

namespace Assembled

/-- a word leads from the start to the end of a rule if and only if the token type of the rule is found in it -/
theorem reads_end_iff_finds (hends : a.nfa.Ends ends) (hq : ends[o]? = some q) :
    a.nfa.Reads a.nfa.start w q ↔ a.nfa.Finds w o := by
  constructor
  · intro hread
    exact ⟨q, hread, hends.token_iff.2 hq⟩
  · intro hfinds
    obtain ⟨q', hread, ht⟩ := hfinds
    rw [hends.token_iff, hq] at ht
    cases ht
    exact hread

theorem not_reads_end_nil (h : Assembled alphabet k table uses a) (hends : a.nfa.Ends ends) (hq : ends[o]? = some q) :
    ¬a.nfa.Reads a.nfa.start [] q := by
  rw [reads_end_iff_finds hends hq]
  exact h.ruled.not_finds_nil

/-- from the start the number of a mode and a word lead to the end of a rule, if the rule is declared in that mode and its
expression spells the word -/
theorem reads_end_iff (h : Assembled alphabet k table uses a) (hends : a.nfa.Ends ends) (hq : ends[o]? = some q)
    {mode : Nat} : a.nfa.Reads a.nfa.start (mode :: w) q ↔
      ∃ name r, a.modeNames[mode]? = some name ∧ table[o]? = some (name, r) ∧ r.expr.Spells alphabet w := by
  rw [reads_end_iff_finds hends hq, h.ruled.finds_cons_iff, h.modeNames_eq]
  constructor
  · intro hfinds
    obtain ⟨-, x, hx, rfl, hs⟩ := hfinds
    have hused := (h.used x (List.mem_of_getElem? hx)).1
    exact ⟨x.1, x.2, List.getElem?_idxOf (List.mem_eraseDups.2 hused), hx, hs⟩
  · intro hrule
    obtain ⟨name, r, hname, hx, hs⟩ := hrule
    have hidx : uses.eraseDups.idxOf name = mode := by
      obtain ⟨hlt, he⟩ := List.getElem?_eq_some_iff.1 hname
      rw [← he, (nodup_eraseDups uses).idxOf_getElem]
    refine ⟨?_, _, hx, hidx, hs⟩
    rw [← hidx]
    exact h.declared _ (List.mem_of_getElem? hx)

end Assembled

/-! ## Descriptions -/

theorem rules_eq_map_table (d : Description Regex) : d.rules = d.table.map Prod.snd := by
  simp [Description.rules, Description.table, List.map_flatMap, Function.comp_def]

/-- what an automaton of rules is to select, where `ends` are the accepting states in the order of the rules -/
structure Selects (d : Description Regex) (alphabet : Alphabet) (a : Assembly) (ends : List Nat) : Prop where
  /-- the modes are those that are declared, each of them once -/
  modeNames_nodup : a.modeNames.Nodup
  mem_modeNames_iff : ∀ name, name ∈ a.modeNames ↔ name ∈ d.modeNames
  /-- the start mode is the one that is asked for, or else the first one that is declared -/
  startMode_named : ∃ name, d.startMode.or d.modeNames.head? = some name ∧ a.modeNames[a.startMode]? = some name
  /-- there is a token type for each rule, in their order, with the mode to continue in -/
  tokens_length : a.tokens.length = d.rules.length
  token_named : ∀ (o : Nat) (r : Rule Regex), d.rules[o]? = some r →
    ∃ t : TokenType, a.tokens[o]? = some t ∧ t.name = r.name ∧ a.modeNames[t.mode]? = some r.next
  /-- there is an accepting state for each rule, with the number of the rule -/
  ends_length : ends.length = d.rules.length
  ends_nodup : ends.Nodup
  accepting_iff : ∀ q, a.nfa.isAccepting q = true ↔ q ∈ ends
  token_iff : ∀ q o : Nat, a.nfa.token? q = some o ↔ ends[o]? = some q
  /-- behind the number of a mode, the words of the rules of that mode lead to the ends of these rules -/
  reads_iff : ∀ o q : Nat, ends[o]? = some q → ∀ (mode : Nat) (w : List Nat), a.nfa.Reads a.nfa.start (mode :: w) q ↔
    ∃ name r, a.modeNames[mode]? = some name ∧ d.table[o]? = some (name, r) ∧ r.expr.Spells alphabet w
  /-- without the number of a mode nothing is accepted -/
  not_reads_nil : ∀ q ∈ ends, ¬a.nfa.Reads a.nfa.start [] q
  mode_lt : ∀ q ∈ ends, ∀ s w, a.nfa.Reads a.nfa.start (s :: w) q → s < a.modeNames.length

theorem getElem?_startMode (h : d.modeError? = none) :
    ∃ name, d.startMode.or d.modeNames.head? = some name ∧
      d.uses.eraseDups[d.startMode.elim 0 d.modeNumber]? = some name := by
  obtain ⟨hne, -, -⟩ := modeError?_eq_none_iff.1 h
  cases hs : d.startMode with
  | some name =>
    refine ⟨name, rfl, Description.getElem?_modeNumber ?_⟩
    exact List.mem_append_right _ (by simp [hs])
  | none =>
    obtain ⟨m, rest, hm⟩ := List.exists_cons_of_ne_nil hne
    refine ⟨m.name, by simp [Description.modeNames, hm], ?_⟩
    simp [Description.uses, hm, Mode.uses, List.eraseDups_cons]

theorem selects_of_assembled (h : d.modeError? = none)
    (hA : Assembled alphabet k d.table d.uses a) (hends : a.nfa.Ends ends) (hlen : ends.length = a.tokens.length) :
    Selects d alphabet { a with startMode := d.startMode.elim 0 d.modeNumber } ends := by
  have hrules : d.table.length = d.rules.length := by rw [rules_eq_map_table, List.length_map]
  have htokens : a.tokens.length = d.rules.length := by rw [hA.tokens_eq, List.length_map, hrules]
  have hposition {q : Nat} (hq : q ∈ ends) : ∃ o, ends[o]? = some q := List.mem_iff_getElem?.1 hq
  exact
    { modeNames_nodup := by
        rw [hA.modeNames_eq]
        exact nodup_eraseDups _
      mem_modeNames_iff := by
        intro name
        rw [hA.modeNames_eq, List.mem_eraseDups]
        constructor
        · intro hname
          exact uses_subset h hname
        · intro hname
          obtain ⟨m, hm, rfl⟩ := List.mem_map.1 hname
          exact List.mem_append_left _ (List.mem_flatMap.2 ⟨m, hm, List.mem_cons_self⟩)
      startMode_named := by
        rw [hA.modeNames_eq]
        exact getElem?_startMode h
      tokens_length := htokens
      token_named := by
        intro o r hr
        rw [rules_eq_map_table, List.getElem?_map, Option.map_eq_some_iff] at hr
        obtain ⟨x, hx, rfl⟩ := hr
        refine ⟨⟨x.2.name, d.modeNumber x.2.next⟩, ?_, rfl, ?_⟩
        · rw [hA.tokens_eq, List.getElem?_map, hx]
          rfl
        · rw [hA.modeNames_eq]
          exact Description.getElem?_modeNumber (hA.used x (List.mem_of_getElem? hx)).2
      ends_length := hlen.trans htokens
      ends_nodup := hends.nodup
      accepting_iff := fun _ => hends.accepting_iff
      token_iff := fun _ _ => hends.token_iff
      reads_iff := by
        intro o q hq mode w
        exact hA.reads_end_iff hends hq
      not_reads_nil := by
        intro q hq
        obtain ⟨o, ho⟩ := hposition hq
        exact hA.not_reads_end_nil hends ho
      mode_lt := by
        intro q hq s w hread
        obtain ⟨o, ho⟩ := hposition hq
        obtain ⟨name, r, hname, -⟩ := (hA.reads_end_iff hends ho).1 hread
        exact (List.getElem?_eq_some_iff.1 hname).1 }

/-- **Modes and rules are selected.** A description whose modes fit together has an automaton over every alphabet that tiles
the intervals of its rules. In it, from the start, the number of a mode and a word lead to the accepting state of a rule if
and only if the rule is declared in that mode and its expression spells the word. -/
theorem assembly_selects (h : d.modeError? = none)
    (ht : ∀ i ∈ d.intervals, ∃ symbols, alphabet.symbolsOf i = .ok symbols) :
    ∃ a ends, ofDescription d alphabet = .ok a ∧ Selects d alphabet a ends := by
  have htiled : ∀ r ∈ d.rules, r.expr.TiledBy alphabet := by
    intro r hr i hi
    exact ht i (List.mem_flatMap.2 ⟨r, hr, hi⟩)
  obtain ⟨a, hok, hA⟩ := exists_assembly_of_tiledBy h htiled
  obtain ⟨ends, hends, hlen⟩ := labelled_of_ofDescription htiled hok
  exact ⟨_, ends, hok, selects_of_assembled h hA hends hlen⟩

/-- a mode in two parts, around a mode that is named before it is declared -/
def parts : Description Regex :=
  { modes := [
      { name := "text"
        rules := [{ name := "letter", expr := .plus (.set [⟨0x41, 0x5A, by decide⟩]), next := "text" },
          { name := "quote", expr := .char '"', next := "string" }] },
      { name := "string", rules := [{ name := "quote", expr := .char '"', next := "text" }] },
      { name := "text", rules := [{ name := "mark", expr := .char '!', next := "text" }] }]
    startMode := some "string" }

/-- an alphabet with more intervals than those of the rules tiles them too -/
theorem assembly_selects_parts : parts.modeError? = none ∧
    ∃ a ends, ofDescription parts (.ofIntervals (.single 'K' :: parts.intervals)) = .ok a ∧
      Selects parts (.ofIntervals (.single 'K' :: parts.intervals)) a ends := by
  have hmodes : parts.modeError? = none := by decide
  refine ⟨hmodes, assembly_selects hmodes ?_⟩
  intro i hi
  exact Alphabet.exists_symbolsOf_split (List.mem_cons_of_mem _ hi)

end Assembly

end Munch
