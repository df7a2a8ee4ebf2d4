/-
Finished lexers.

`Built d l` says what `Definition.build` makes of a description. It speaks of words of symbols, where the first symbol is
the number of a mode; `Description.Finds` is what the rules of the description find in such a word.

Results:
- `exists_build`, `built_of_build`: a lexer is made if and only if the modes fit together.
- `Built.eq`: descriptions with the same names, over the same alphabet, whose rules first match the same words have the same
  lexer.
-/
import Mathlib.Tactic
import Munch.Lexer.Definition
import Munch.Proofs.Lexer.Assembly
import Munch.Proofs.Lexer.Stages

namespace Munch

open Automaton (Canonical)

namespace Description

/-- the rule with the number `o` is declared in the mode with the given name and matches a word of code points -/
def RuleMatches (d : Description Regex) (name : String) (w : List Nat) (o : Nat) : Prop :=
  ∃ r, d.table[o]? = some (name, r) ∧ r.expr.Matches w

/-- a rule of the mode with the given name matches a word of code points, and no rule of that mode before it does -/
def FirstMatch (d : Description Regex) (name : String) (w : List Nat) (o : Nat) : Prop :=
  IsLeast {o | d.RuleMatches name w o} o

/-- the token type `t` is found in a word of symbols, of which the first one is the number of a mode -/
def Finds (d : Description Regex) (t : Nat) : List Nat → Prop
  | [] => False
  | mode :: v => ∃ x, d.table[t]? = some x ∧ d.modeNumber x.1 = mode ∧ x.2.expr.Spells (.ofIntervals d.intervals) v

end Description

namespace Description

variable {d : Description Regex} {name : String} {mode t : Nat} {w v : List Nat}

/-! ## Words of code points and words of symbols -/

theorem mem_table_iff {α : Type} {d : Description α} {x : String × Rule α} :
    x ∈ d.table ↔ ∃ m ∈ d.modes, x.1 = m.name ∧ x.2 ∈ m.rules := by
  simp only [table, List.mem_flatMap, List.mem_map]
  refine exists_congr fun m => and_congr_right fun _ => ⟨?_, ?_⟩
  · rintro ⟨r, hr, rfl⟩
    exact ⟨rfl, hr⟩
  · rintro ⟨hx, hr⟩
    exact ⟨x.2, hr, by rw [← hx]⟩

/-- the names of modes in a rule of the table are used -/
theorem mem_uses_of_mem_table {α : Type} {d : Description α} {x : String × Rule α} (hx : x ∈ d.table) :
    x.1 ∈ d.uses ∧ x.2.next ∈ d.uses := by
  obtain ⟨m, hm, hname, hr⟩ := mem_table_iff.1 hx
  have hmem {y : String} (hy : y ∈ m.uses) : y ∈ d.uses :=
    List.mem_append_left _ (List.mem_flatMap.2 ⟨m, hm, hy⟩)
  exact ⟨hmem (hname ▸ List.mem_cons_self), hmem (List.mem_cons_of_mem _ (List.mem_map_of_mem hr))⟩

theorem FirstMatch.mem_modeNames (h : d.FirstMatch name w t) : name ∈ d.modeNames := by
  obtain ⟨r, hr, -⟩ := h.1
  obtain ⟨m, hm, rfl, -⟩ := mem_table_iff.1 (List.mem_of_getElem? hr)
  exact List.mem_map_of_mem hm

theorem tiledBy_of_mem_table {x : String × Rule Regex} (hx : x ∈ d.table) :
    x.2.expr.TiledBy (.ofIntervals d.intervals) := by
  obtain ⟨m, hm, -, hr⟩ := mem_table_iff.1 hx
  exact Assembly.tiledBy_of_mem_rules (List.mem_flatMap.2 ⟨m, hm, hr⟩)

theorem getElem?_modeNumber {name : String} (h : name ∈ d.uses) : d.uses.eraseDups[d.modeNumber name]? = some name :=
  List.getElem?_idxOf (List.mem_eraseDups.2 h)

/-- a mode and its number -/
theorem modeNumber_eq_iff {x : String} (hx : x ∈ d.uses) (hname : d.uses.eraseDups[mode]? = some name) :
    d.modeNumber x = mode ↔ x = name := by
  constructor
  · rintro rfl
    have := getElem?_modeNumber hx
    rw [hname] at this
    exact (Option.some.inj this).symm
  · rintro rfl
    obtain ⟨hlt, he⟩ := List.getElem?_eq_some_iff.1 hname
    rw [modeNumber, ← he, (nodup_eraseDups _).idxOf_getElem]

/-- what is found in a word of symbols is what matches a word of code points with these symbols -/
theorem finds_cons_iff (hname : d.uses.eraseDups[mode]? = some name)
    (hv : (Alphabet.ofIntervals d.intervals).word? w = some v) :
    d.Finds t (mode :: v) ↔ d.RuleMatches name w t := by
  have ho := Alphabet.ordered_ofIntervals d.intervals
  have hspells {x : String × Rule Regex} (hx : d.table[t]? = some x) :
      x.2.expr.Spells (.ofIntervals d.intervals) v ↔ x.2.expr.Matches w := by
    rw [Regex.matches_iff_spells ho (tiledBy_of_mem_table (List.mem_of_getElem? hx)), hv]
    simp
  have hnum {x : String × Rule Regex} (hx : d.table[t]? = some x) : d.modeNumber x.1 = mode ↔ x.1 = name :=
    modeNumber_eq_iff (mem_uses_of_mem_table (List.mem_of_getElem? hx)).1 hname
  constructor
  · rintro ⟨x, hx, hm, hs⟩
    have hname' := (hnum hx).1 hm
    obtain ⟨x1, x2⟩ := x
    subst hname'
    exact ⟨x2, hx, (hspells hx).1 hs⟩
  · rintro ⟨r, hx, hs⟩
    exact ⟨(name, r), hx, (hnum hx).2 rfl, (hspells hx).2 hs⟩

/-- a word without symbols is matched by no rule -/
theorem not_matches_of_word?_eq_none {x : String × Rule Regex} (hx : x ∈ d.table)
    (hw : (Alphabet.ofIntervals d.intervals).word? w = none) : ¬x.2.expr.Matches w := by
  rw [Regex.matches_iff_spells (Alphabet.ordered_ofIntervals d.intervals) (tiledBy_of_mem_table hx), hw]
  simp

/-- the symbols of a word that an expression spells are those of code points -/
theorem exists_word_of_spells {x : String × Rule Regex} (hs : x.2.expr.Spells (.ofIntervals d.intervals) v) :
    ∃ w, (Alphabet.ofIntervals d.intervals).word? w = some v := by
  have ho := Alphabet.ordered_ofIntervals d.intervals
  have hcode : ∀ s ∈ v, ∃ c, (Alphabet.ofIntervals d.intervals).symbolOf? c = some s := by
    intro s hsv
    obtain ⟨is, -, i, -, symbols, hsym, hm⟩ := Regex.Lang.exists_atom hs hsv
    exact Alphabet.exists_symbolOf? ho (Alphabet.lt_size_of_symbolsOf hsym hm)
  choose! code hcode using hcode
  refine ⟨v.map code, Alphabet.word?_eq_some_iff.2 ?_⟩
  rw [List.map_map]
  exact List.map_congr_left fun s hsv => hcode s hsv

theorem isLeast_finds_cons_iff (hname : d.uses.eraseDups[mode]? = some name)
    (hv : (Alphabet.ofIntervals d.intervals).word? w = some v) :
    IsLeast {t | d.Finds t (mode :: v)} t ↔ d.FirstMatch name w t := by
  have hset : {t | d.Finds t (mode :: v)} = {o | d.RuleMatches name w o} :=
    Set.ext fun t => finds_cons_iff hname hv
  rw [hset, FirstMatch]

/-- the least token type that is found in a word of symbols is the first rule that matches a word of code points -/
theorem isLeast_finds_iff : IsLeast {t | d.Finds t (mode :: v)} t ↔
    ∃ name w, d.uses.eraseDups[mode]? = some name ∧ (Alphabet.ofIntervals d.intervals).word? w = some v ∧
      d.FirstMatch name w t := by
  constructor
  · intro h
    obtain ⟨x, hx, rfl, hs⟩ := h.1
    have hname := getElem?_modeNumber (mem_uses_of_mem_table (List.mem_of_getElem? hx)).1
    obtain ⟨w, hw⟩ := exists_word_of_spells hs
    exact ⟨x.1, w, hname, hw, (isLeast_finds_cons_iff hname hw).1 h⟩
  · rintro ⟨name, w, hname, hw, h⟩
    exact (isLeast_finds_cons_iff hname hw).2 h

end Description

/-- a set of numbers has a least member unless it is empty -/
theorem exists_isLeast_iff {S : Set Nat} : (∃ t, IsLeast S t) ↔ ∃ t, t ∈ S :=
  ⟨fun ⟨t, ht⟩ => ⟨t, ht.1⟩, fun h => ⟨sInf S, Nat.sInf_mem h, fun _ => Nat.sInf_le⟩⟩

namespace Definition

variable {d : Description Regex} {l : Definition}

/-- what it means that `l` is the lexer of `d` -/
structure Built (d : Description Regex) (l : Definition) : Prop where
  modes_fit : d.modeError? = none
  alphabet_eq : l.alphabet = .ofIntervals d.intervals
  tokens_eq : l.tokens = d.table.map fun x => ⟨x.2.name, d.modeNumber x.2.next⟩
  errorState_eq : l.errorState = 0
  modeNames_eq : l.modeNames = d.uses.eraseDups
  startMode_eq : l.startMode = d.startMode.elim 0 d.modeNumber
  canonical : l.automaton.Canonical
  alphabetSize_eq : l.automaton.alphabetSize = max l.alphabet.size d.modeNames.eraseDups.length
  accepting_iff : ∀ {w}, l.automaton.IsWord w →
    (l.automaton.isAccepting (l.automaton.after l.automaton.start w) = true ↔ ∃ t, d.Finds t w)
  token_iff : ∀ {w t}, l.automaton.IsWord w →
    (l.automaton.token? (l.automaton.after l.automaton.start w) = some t ↔ IsLeast {t | d.Finds t w} t)

theorem exists_build (h : d.modeError? = none) : ∃ l, build d = .ok l ∧ Built d l := by
  obtain ⟨a, ha, hA⟩ := Assembly.exists_assembly h
  have hw := hA.ruled.wellFormed (hA.alphabetSize_eq ▸ Nat.le_max_left _ _)
  obtain ⟨st, hst, hcanon, hden⟩ := exists_stages hw hA.ruled.tokensAccept
  have hfinds (w : List Nat) (t : Nat) : a.nfa.Finds w t ↔ d.Finds t w := by
    cases w with
    | nil => exact iff_of_false hA.ruled.not_finds_nil id
    | cons mode v =>
      rw [hA.ruled.finds_cons_iff]
      refine and_iff_right_of_imp ?_
      rintro ⟨x, hx, rfl, -⟩
      exact hA.declared x (List.mem_of_getElem? hx)
  refine ⟨{ automaton := st.minimal
            alphabet := .ofIntervals d.intervals
            tokens := a.tokens
            errorState := st.minimal.errorState.getD 0
            modeNames := a.modeNames
            startMode := d.startMode.elim 0 d.modeNumber }, ?_, ?_⟩
  · simp only [build, bind, Except.bind, ha, hst, Except.mapError]
    rfl
  · refine ⟨h, rfl, hA.tokens_eq, by rw [hcanon.error_eq]; rfl, hA.modeNames_eq, rfl, hcanon, ?_, fun {w} hw => ?_,
      fun {w t} hw => ?_⟩
    · rw [hden.alphabetSize_eq, hA.alphabetSize_eq]
    · rw [hden.accepting_iff hw, hA.ruled.accepts_iff]
      simp only [hfinds]
    · rw [hden.token_iff hw]
      simp only [hfinds]

theorem built_of_build (hb : build d = .ok l) : Built d l := by
  cases h : d.modeError? with
  | none =>
    obtain ⟨l', hb', h'⟩ := exists_build h
    rw [hb] at hb'
    cases hb'
    exact h'
  | some e =>
    simp only [build, Assembly.ofDescription, h, bind, Except.bind] at hb
    cases hb

/-! ## Canonical lexers -/

end Definition

/-- the names of a rule without its expression -/
def Rule.outline {α : Type} (r : Rule α) : Rule Unit :=
  { name := r.name, expr := (), next := r.next }

/-- the names of a part of a mode without the expressions -/
def Mode.outline {α : Type} (m : Mode α) : Mode Unit :=
  { name := m.name, rules := m.rules.map Rule.outline }

/-- the names of a description without the expressions -/
def Description.outline {α : Type} (d : Description α) : Description Unit :=
  { modes := d.modes.map Mode.outline, startMode := d.startMode }

namespace Description

variable {α : Type} (d : Description α)

theorem uses_outline : d.outline.uses = d.uses := by
  have hmode (m : Mode α) : m.outline.uses = m.uses := by simp [Mode.uses, Mode.outline, Rule.outline]
  rw [uses, outline, List.flatMap_map, uses]
  simp only [hmode]

theorem modeNames_outline : d.outline.modeNames = d.modeNames := by
  simp [modeNames, outline, Mode.outline, Function.comp_def]

theorem table_outline : d.outline.table = d.table.map fun x => (x.1, x.2.outline) := by
  simp [table, outline, List.flatMap_map, List.map_flatMap, Mode.outline, Function.comp_def]

end Description

namespace Definition

variable {d d' : Description Regex} {l l' : Definition}

theorem Built.eq (h : Built d l) (h' : Built d' l') (houtline : d.outline = d'.outline)
    (hsplit : Alphabet.ofIntervals d.intervals = .ofIntervals d'.intervals)
    (hmatch : ∀ name ∈ d.modeNames, ∀ w o, d.FirstMatch name w o ↔ d'.FirstMatch name w o) : l = l' := by
  have huses : d.uses = d'.uses := by rw [← d.uses_outline, houtline, d'.uses_outline]
  have hnames : d.modeNames = d'.modeNames := by rw [← d.modeNames_outline, houtline, d'.modeNames_outline]
  have hnumber : d.modeNumber = d'.modeNumber := by
    funext name
    rw [Description.modeNumber, huses, Description.modeNumber]
  have halphabet : l.alphabet = l'.alphabet := by rw [h.alphabet_eq, hsplit, h'.alphabet_eq]
  have hsize : l.automaton.alphabetSize = l'.automaton.alphabetSize := by
    rw [h.alphabetSize_eq, halphabet, hnames, h'.alphabetSize_eq]
  have hfirst (name : String) (w : List Nat) (o : Nat) : d.FirstMatch name w o ↔ d'.FirstMatch name w o := by
    by_cases hmode : name ∈ d.modeNames
    · exact hmatch name hmode w o
    · exact iff_of_false (fun hf => hmode hf.mem_modeNames) fun hf => hmode (hnames ▸ hf.mem_modeNames)
  have hleast (w : List Nat) (t : Nat) : IsLeast {t | d.Finds t w} t ↔ IsLeast {t | d'.Finds t w} t := by
    cases w with
    | nil => exact iff_of_false (fun h => h.1) fun h => h.1
    | cons mode v => simp only [Description.isLeast_finds_iff, huses, hsplit, hfirst]
  have hautomaton : l.automaton = l'.automaton := by
    refine h.canonical.eq h'.canonical hsize fun w hw => ?_
    have hw' : l'.automaton.IsWord w := by rwa [Automaton.IsWord, ← hsize]
    refine Prod.ext (Bool.eq_iff_iff.2 ?_) (Option.ext fun t => ?_)
    · show l.automaton.isAccepting _ = true ↔ l'.automaton.isAccepting _ = true
      rw [h.accepting_iff hw, h'.accepting_iff hw']
      exact exists_isLeast_iff.symm.trans ((exists_congr (hleast w)).trans exists_isLeast_iff)
    · show l.automaton.token? _ = some t ↔ l'.automaton.token? _ = some t
      rw [h.token_iff hw, h'.token_iff hw', hleast]
  have htokens : l.tokens = l'.tokens := by
    have htable : d.table.map (fun x => (x.1, x.2.outline)) = d'.table.map fun x => (x.1, x.2.outline) := by
      rw [← d.table_outline, houtline, d'.table_outline]
    have hof (d : Description Regex) : d.table.map (fun x => (⟨x.2.name, d.modeNumber x.2.next⟩ : TokenType)) =
        (d.table.map fun x => (x.1, x.2.outline)).map fun x => ⟨x.2.name, d.modeNumber x.2.next⟩ := by
      rw [List.map_map]
      rfl
    rw [h.tokens_eq, h'.tokens_eq, hof, hof, htable, hnumber]
  have herror := h.errorState_eq.trans h'.errorState_eq.symm
  have hmodes : l.modeNames = l'.modeNames := by rw [h.modeNames_eq, huses, h'.modeNames_eq]
  have hstart : l.startMode = l'.startMode := by
    rw [h.startMode_eq, h'.startMode_eq, hnumber, show d.startMode = d'.startMode from congrArg (·.startMode) houtline]
  obtain ⟨automaton, alphabet, tokens, errorState, modeNames, startMode⟩ := l
  obtain ⟨automaton', alphabet', tokens', errorState', modeNames', startMode'⟩ := l'
  simp only at hautomaton halphabet htokens herror hmodes hstart
  rw [hautomaton, halphabet, htokens, herror, hmodes, hstart]

end Definition

end Munch
