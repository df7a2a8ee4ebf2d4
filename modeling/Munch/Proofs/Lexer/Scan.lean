/-
Scanning a text.

`Description.Lexes` is the reference: it says on the rules alone into which items a text is cut. At each place the longest
prefix that some rule of the mode matches is a token of the first rule that matches it; without such a prefix the scan stops
with an error. The scanner follows the tables instead, one character at a time, and remembers the last match.

Results:
- `Lexes.unique`: the rules leave no choice.
- `longestFrom_eq`: the loop returns the longest non-empty prefix behind which a token type is recognised, or what it had
  before.
- `exists_step`: one step of a scan finds a token as the rules say, or the error.
- `items_iff_lexes`: the items of a whole scan are those of the reference.
-/
import Mathlib.Tactic
import Munch.Scanner
import Munch.Proofs.Lexer.Tables

namespace Munch

/-- the code points of a text -/
def codes (text : List Char) : List Nat :=
  text.map Char.toNat

/-- the length of a text in bytes -/
def byteLength (text : List Char) : Nat :=
  (text.map Char.utf8Size).sum

namespace Description

/-- `u` is the prefix of a text in front of `v` that is a token of the rule `o`: no longer prefix is matched by a rule of the
mode, and no rule before `o` matches this one -/
structure Longest (d : Description Regex) (name : String) (u v : List Char) (o : Nat) : Prop where
  ne_nil : u ≠ []
  first : d.FirstMatch name (codes u) o
  longest : ∀ {u' v' o'}, u ++ v = u' ++ v' → d.RuleMatches name (codes u') o' → u'.length ≤ u.length

/-- no rule of the mode matches a non-empty prefix of the text -/
def Stuck (d : Description Regex) (name : String) (text : List Char) : Prop :=
  ∀ u v o, text = u ++ v → u ≠ [] → ¬d.RuleMatches name (codes u) o

/-- the rules cut a text, which begins in a mode and at a place, into items, and end in a mode; `names` are the names of the
modes by their numbers -/
inductive Lexes (d : Description Regex) (names : Array String) : Nat → Nat → List Char → List Item → Nat → Prop where
  | done {mode position : Nat} : Lexes d names mode position [] [] mode
  | error {mode position : Nat} {name : String} {c : Char} {rest : List Char} (hname : names[mode]? = some name)
      (h : d.Stuck name (c :: rest)) :
      Lexes d names mode position (c :: rest) [.error (.unexpectedCharacter position c)] mode
  | token {mode next position o final : Nat} {name : String} {u v : List Char} {r : Rule Regex} {items : List Item}
      (hname : names[mode]? = some name) (h : d.Longest name u v o) (hr : d.table[o]? = some (name, r))
      (hnext : names[next]? = some r.next) (hrest : Lexes d names next (position + byteLength u) v items final) :
      Lexes d names mode position (u ++ v)
        (.token { type := o, mode := mode, span := ⟨position, position + byteLength u⟩ } :: items) final

variable {d : Description Regex} {names : Array String} {name : String} {mode position : Nat} {u v u' v' text : List Char}
  {o o' : Nat} {items items' : List Item}

/-! ## The reference leaves no choice -/

theorem Longest.unique (h : d.Longest name u v o) (h' : d.Longest name u' v' o') (he : u ++ v = u' ++ v') :
    u = u' ∧ v = v' ∧ o = o' := by
  have h1 := h.longest he h'.first.1
  have h2 := h'.longest he.symm h.first.1
  obtain ⟨rfl, rfl⟩ := List.append_inj he (Nat.le_antisymm h2 h1)
  exact ⟨rfl, rfl, h.first.unique h'.first⟩

theorem Longest.not_stuck (h : d.Longest name u v o) (hs : d.Stuck name (u ++ v)) : False :=
  hs u v o rfl h.ne_nil h.first.1

theorem name_unique {x y : String} (hx : names[mode]? = some x) (hy : names[mode]? = some y) : x = y :=
  Option.some.inj (hx.symm.trans hy)

theorem Lexes.unique (hnames : names.toList.Nodup) {final final' : Nat}
    (h : d.Lexes names mode position text items final) (h' : d.Lexes names mode position text items' final') :
    items = items' ∧ final = final' := by
  induction h generalizing items' final' with
  | done =>
    generalize ht : ([] : List Char) = t at h'
    cases h' with
    | done => exact ⟨rfl, rfl⟩
    | error => cases ht
    | token _ hl => exact absurd (List.append_eq_nil_iff.1 ht.symm).1 hl.ne_nil
  | @error _ _ _ c rest hname hs =>
    generalize ht : c :: rest = t at h'
    cases h' with
    | done => cases ht
    | error =>
      cases ht
      exact ⟨rfl, rfl⟩
    | token hname' hl =>
      rw [ht, name_unique hname hname'] at hs
      exact (hl.not_stuck hs).elim
  | @token _ _ _ _ _ _ u v _ _ hname hl hr hnext _ ih =>
    generalize ht : u ++ v = t at h'
    cases h' with
    | done => exact absurd (List.append_eq_nil_iff.1 ht).1 hl.ne_nil
    | error hname' hs =>
      rw [← ht, ← name_unique hname hname'] at hs
      exact (hl.not_stuck hs).elim
    | token hname' hl' hr' hnext' hrest' =>
      obtain rfl := name_unique hname hname'
      obtain ⟨rfl, rfl, rfl⟩ := hl.unique hl' ht
      rw [hr] at hr'
      cases hr'
      obtain rfl := getElem?_unique hnames hnext hnext'
      obtain ⟨rfl, rfl⟩ := ih hrest'
      exact ⟨rfl, rfl⟩

end Description

/-- there is nothing behind an error -/
theorem Scanner.itemsWithin_of_failed {s : Scanner} {c : Cursor} {tracing : Bool} (h : c.failed = true) {count : Nat} :
    s.itemsWithin c count tracing = (.ok [], s, c) := by
  cases count <;> simp [itemsWithin, next, Tables.step, h]

namespace Definition

variable {d : Description Regex} {l : Definition} {q position : Nat} {c : Char} {text rest : List Char}

/-! ## The loop -/

/-- where a character leads -/
def next (l : Definition) (q : Nat) (c : Char) : Nat :=
  l.follow q [c.toNat]

/-- no token type is recognised behind a non-empty prefix of the text -/
def Nothing (l : Definition) (q : Nat) (text : List Char) : Prop :=
  ∀ p s, text = p ++ s → p ≠ [] → l.automaton.token? (l.follow q (codes p)) = none

/-- `p` is the longest non-empty prefix of a text in front of `s` behind which a token type is recognised, which is `o` -/
structure Last (l : Definition) (q : Nat) (p s : List Char) (o : Nat) : Prop where
  ne_nil : p ≠ []
  token : l.automaton.token? (l.follow q (codes p)) = some o
  last : ∀ {p' s'}, p ++ s = p' ++ s' → p.length < p'.length → l.automaton.token? (l.follow q (codes p')) = none

namespace Built

variable (h : Built d l)
include h

theorem next_eq (q : Nat) (c : Char) : l.next q c = (l.alphabet.symbolOf? c.toNat).elim 0 (l.automaton.step q) := by
  rw [next, h.follow_cons]
  rfl

theorem follow_codes_cons (q : Nat) (c : Char) (p : List Char) :
    l.follow q (codes (c :: p)) = l.follow (l.next q c) (codes p) := by
  rw [codes, List.map_cons, h.follow_cons, h.next_eq, codes]

theorem nothing_cons_iff : l.Nothing q (c :: rest) ↔
    l.automaton.token? (l.next q c) = none ∧ l.Nothing (l.next q c) rest := by
  constructor
  · intro hn
    refine ⟨hn [c] rest rfl (by simp), fun p s hps _ => ?_⟩
    rw [← h.follow_codes_cons]
    exact hn (c :: p) s (by rw [hps, List.cons_append]) (by simp)
  · rintro ⟨hc, hn⟩ p s hps hp
    rcases List.cons_eq_append_iff.1 hps with ⟨rfl, -⟩ | ⟨p1, rfl, hrest⟩
    · exact absurd rfl hp
    · rw [h.follow_codes_cons]
      by_cases hp1 : p1 = []
      · subst hp1
        exact hc
      · exact hn p1 s hrest hp1

/-- nothing is recognised behind the error state -/
theorem nothing_zero (text : List Char) : l.Nothing 0 text := by
  intro p s _ _
  rw [h.follow_zero]
  exact h.canonical.token?_zero

theorem last_single {o : Nat} (ht : l.automaton.token? (l.next q c) = some o) (hn : l.Nothing (l.next q c) rest) :
    l.Last q [c] rest o where
  ne_nil := by simp
  token := ht
  last {p' s'} he hlt := by
    rcases List.cons_eq_append_iff.1 he with ⟨rfl, -⟩ | ⟨p1, rfl, hps⟩
    · simp at hlt
    · rw [h.follow_codes_cons]
      exact hn p1 s' hps (by rintro rfl; simp at hlt)

theorem Last.cons {p s : List Char} {o : Nat} (hl : l.Last (l.next q c) p s o) : l.Last q (c :: p) s o where
  ne_nil := by simp
  token := by rw [h.follow_codes_cons, hl.token]
  last {p' s'} he hlt := by
    rcases List.cons_eq_append_iff.1 he with ⟨rfl, -⟩ | ⟨p1, rfl, hps⟩
    · simp at hlt
    · rw [h.follow_codes_cons]
      exact hl.last hps (by simpa using hlt)

theorem longestFrom_cons (hq : q < l.automaton.stateCount) (best : Option Match) :
    l.tables.longestFrom q position best (c :: rest) =
      if l.next q c = 0 then .ok best
      else match l.automaton.token? (l.next q c) with
        | some o => l.tables.longestFrom (l.next q c) (position + c.utf8Size)
            (some { token := o, stop := position + c.utf8Size, rest := rest }) rest
        | none => l.tables.longestFrom (l.next q c) (position + c.utf8Size) best rest := by
  have hstep : l.tables.nextState q (l.tables.symbolOf c) = .ok (l.next q c) :=
    (h.nextState_symbolIn hq c.toNat).trans (by rw [h.next_eq])
  have hnext : l.next q c < l.automaton.stateCount := h.next_eq q c ▸ h.next_lt hq c.toNat
  have herror : l.tables.errorState = 0 := h.errorState_eq
  rw [Tables.longestFrom, hstep]
  simp only [bind, Except.bind, herror, getElem?_tokenTypes hnext, orOutOfRange]
  split
  · rfl
  · cases l.automaton.token? (l.next q c) <;> rfl

/-- the loop returns the longest non-empty prefix behind which a token type is recognised, or what it had before -/
theorem longestFrom_eq (hq : q < l.automaton.stateCount) (position : Nat) (best : Option Match) (text : List Char) :
    (l.Nothing q text ∧ l.tables.longestFrom q position best text = .ok best) ∨
      ∃ p s o, text = p ++ s ∧ l.Last q p s o ∧ l.tables.longestFrom q position best text =
        .ok (some { token := o, stop := position + byteLength p, rest := s }) := by
  induction text generalizing q position best with
  | nil =>
    refine Or.inl ⟨fun p s hps hp => ?_, rfl⟩
    exact absurd (List.append_eq_nil_iff.1 hps.symm).1 hp
  | cons c rest ih =>
    have hnext : l.next q c < l.automaton.stateCount := h.next_eq q c ▸ h.next_lt hq c.toNat
    have hbytes (p : List Char) : position + byteLength (c :: p) = position + c.utf8Size + byteLength p := by
      simp [byteLength, Nat.add_assoc]
    rw [h.longestFrom_cons hq]
    by_cases hzero : l.next q c = 0
    · rw [if_pos hzero]
      refine Or.inl ⟨h.nothing_cons_iff.2 ⟨?_, ?_⟩, rfl⟩
      · rw [hzero]
        exact h.canonical.token?_zero
      · rw [hzero]
        exact h.nothing_zero rest
    · rw [if_neg hzero]
      cases htoken : l.automaton.token? (l.next q c) with
      | some o =>
        rcases ih hnext (position + c.utf8Size)
          (some { token := o, stop := position + c.utf8Size, rest := rest }) with ⟨hn, he⟩ | ⟨p, s, o', hps, hl, he⟩
        · refine Or.inr ⟨[c], rest, o, rfl, h.last_single htoken hn, he.trans ?_⟩
          rw [hbytes]
          rfl
        · refine Or.inr ⟨c :: p, s, o', by rw [hps, List.cons_append], Last.cons h hl, he.trans ?_⟩
          rw [hbytes]
      | none =>
        rcases ih hnext (position + c.utf8Size) best with ⟨hn, he⟩ | ⟨p, s, o', hps, hl, he⟩
        · exact Or.inl ⟨h.nothing_cons_iff.2 ⟨htoken, hn⟩, he⟩
        · refine Or.inr ⟨c :: p, s, o', by rw [hps, List.cons_append], Last.cons h hl, he.trans ?_⟩
          rw [hbytes]

/-! ## The step -/

variable {mode : Nat} {name : String} (hname : l.modeNames[mode]? = some name)
include hname

theorem nothing_iff_stuck : l.Nothing (l.automaton.step l.automaton.start mode) text ↔ d.Stuck name text := by
  simp only [Nothing, h.token_follow_eq_none_iff hname]
  exact forall₂_congr fun u v => ⟨fun hn o hps hu => hn hps hu o, fun hs hps hu o => hs o hps hu⟩

theorem longest_of_last {u v : List Char} {o : Nat}
    (hl : l.Last (l.automaton.step l.automaton.start mode) u v o) : d.Longest name u v o where
  ne_nil := hl.ne_nil
  first := (h.token_follow_iff hname _ _).1 hl.token
  longest {u' v' o'} he hm := by
    by_contra hlt
    exact (h.token_follow_eq_none_iff hname _).1 (hl.last he (Nat.lt_of_not_le hlt)) o' hm

/-- the mode behind a token is that which its rule names -/
theorem exists_modeAfter {o : Nat} {r : Rule Regex} (hr : d.table[o]? = some (name, r)) (tracing : Bool) :
    ∃ next, l.modeNames[next]? = some r.next ∧ l.tables.modeAfter mode o tracing = .ok next := by
  have huse := (Description.mem_uses_of_mem_table (List.mem_of_getElem? hr)).2
  have hnext : l.modeNames[d.modeNumber r.next]? = some r.next := h.modeNames_eq ▸ Description.getElem?_modeNumber huse
  have hinfo : l.tables.tokens[o]? = some ⟨r.name, d.modeNumber r.next⟩ := by
    simp [tables, h.tokens_eq, hr]
  have hlt {m : Nat} {x : String} (hm : l.modeNames[m]? = some x) : m < l.tables.modeNames.size := by
    simpa [tables] using (List.getElem?_eq_some_iff.1 hm).1
  refine ⟨_, hnext, ?_⟩
  rw [Tables.modeAfter, hinfo]
  exact if_neg fun hmissing => hmissing.2.2 ⟨hlt hname, hlt hnext⟩

/-- one step of a scan finds what the rules say -/
theorem exists_step (c : Char) (rest : List Char) (position : Nat) (tracing : Bool) :
    (d.Stuck name (c :: rest) ∧ l.tables.step mode { rest := c :: rest, position := position } tracing =
      .ok (some (.error (.unexpectedCharacter position c), mode,
        { rest := c :: rest, position := position, failed := true }))) ∨
      ∃ u v o r next, c :: rest = u ++ v ∧ d.Longest name u v o ∧ d.table[o]? = some (name, r) ∧
        l.modeNames[next]? = some r.next ∧ l.tables.step mode { rest := c :: rest, position := position } tracing =
          .ok (some (.token { type := o, mode := mode, span := ⟨position, position + byteLength u⟩ }, next,
            { rest := v, position := position + byteLength u })) := by
  have hmatch : l.tables.longestMatch mode position (c :: rest) =
      l.tables.longestFrom (l.automaton.step l.automaton.start mode) position none (c :: rest) := by
    rw [Tables.longestMatch, h.modeStart_eq hname]
    rfl
  rcases h.longestFrom_eq (h.modeStart_lt hname) position none (c :: rest) with ⟨hn, he⟩ | ⟨u, v, o, huv, hl, he⟩
  · refine Or.inl ⟨(h.nothing_iff_stuck hname).1 hn, ?_⟩
    simp [Tables.step, hmatch, he, bind, Except.bind, pure, Except.pure]
  · have hlongest := h.longest_of_last hname hl
    obtain ⟨r, hr, -⟩ := hlongest.first.1
    obtain ⟨next, hnext, hafter⟩ := h.exists_modeAfter hname hr tracing
    refine Or.inr ⟨u, v, o, r, next, huv, hlongest, hr, hnext, ?_⟩
    simp [Tables.step, hmatch, he, hafter, bind, Except.bind, pure, Except.pure]

/-! ## The run -/

omit hname in
/-- a scan with enough steps finds what the rules say, and is at its end then -/
theorem exists_items (hname : l.modeNames[mode]? = some name) {count : Nat} (hcount : text.length < count)
    (position : Nat) (tracing : Bool) : ∃ items final cursor,
      Scanner.itemsWithin { tables := l.tables, mode := mode } { rest := text, position := position } count tracing =
        (.ok items, { tables := l.tables, mode := final }, cursor) ∧
      d.Lexes l.tables.modeNames mode position text items final ∧
      (Scanner.next { tables := l.tables, mode := final } cursor tracing).1 = .ok none := by
  induction count generalizing mode name text position with
  | zero => omega
  | succ count ih =>
    rw [Scanner.itemsWithin]
    cases text with
    | nil => exact ⟨[], mode, _, rfl, .done, rfl⟩
    | cons c rest =>
      rcases h.exists_step hname c rest position tracing with ⟨hs, he⟩ | ⟨u, v, o, r, next, huv, hl, hr, hnext, he⟩
      · refine ⟨_, mode, { rest := c :: rest, position := position, failed := true }, ?_,
          .error (by rw [getElem?_modeNames, hname]) hs, rfl⟩
        simp only [Scanner.next, he]
        rw [Scanner.itemsWithin_of_failed rfl]
        rfl
      · have hshorter : v.length < count := by
          have hlen := congrArg List.length huv
          have hpos := List.length_pos_iff.2 hl.ne_nil
          simp only [List.length_cons, List.length_append] at hlen hcount
          omega
        obtain ⟨items, final, cursor, hitems, hlexes, hdone⟩ := ih hnext hshorter (position + byteLength u)
        have hcut := Description.Lexes.token (by rw [getElem?_modeNames, hname]) hl hr
          (by rw [getElem?_modeNames, hnext]) hlexes
        refine ⟨_, final, cursor, ?_, huv ▸ hcut, hdone⟩
        simp only [Scanner.next, he, hitems]
        rfl

end Built

/-- **The whole scan.** From any mode on, the scanner finds in a text exactly the items into which the rules cut it, and it
ends in the mode in which they end; then there is nothing left to find. A trace makes no difference. -/
theorem items_iff_lexes (hb : build d = .ok l) {mode : Nat} (hm : mode < l.tables.modeNames.size) (text : List Char)
    (tracing : Bool) :
    ∃ items final cursor, Scanner.items { tables := l.tables, mode := mode } (.ofText text) tracing =
        (.ok items, { tables := l.tables, mode := final }, cursor) ∧
      (Scanner.next { tables := l.tables, mode := final } cursor tracing).1 = .ok none ∧
      ∀ items' final', d.Lexes l.tables.modeNames mode 0 text items' final' ↔ items' = items ∧ final' = final := by
  have h := built_of_build hb
  obtain ⟨items, final, cursor, hitems, hlexes, hdone⟩ :=
    h.exists_items (getElem?_modeNames.symm.trans (Array.getElem?_eq_getElem hm)) (Nat.lt_succ_self text.length) 0
      tracing
  have hnodup : l.tables.modeNames.toList.Nodup := by
    rw [show l.tables.modeNames.toList = l.modeNames from rfl, h.modeNames_eq]
    exact nodup_eraseDups _
  refine ⟨items, final, cursor, hitems, hdone, fun items' final' => ⟨fun h' => h'.unique hnodup hlexes, ?_⟩⟩
  rintro ⟨rfl, rfl⟩
  exact hlexes

/-- the rules of `letters` match letters one by one -/
theorem ruleMatches_letters {name : String} {w : List Nat} {o : Nat} (h : letters.RuleMatches name w o) :
    ∃ c, w = [c] ∧ 97 ≤ c ∧ c ≤ 122 := by
  obtain ⟨r, hr, hm⟩ := h
  have hset {is : List Interval} (hm : (Regex.set is).Matches w) (his : ∀ i ∈ is, 97 ≤ i.start ∧ i.stop ≤ 122) :
      ∃ c, w = [c] ∧ 97 ≤ c ∧ c ≤ 122 := by
    obtain ⟨c, rfl, i, hi, hc⟩ := Regex.lang_set_iff.1 hm
    simp only [Interval.contains, Bool.and_eq_true, decide_eq_true_eq] at hc
    have := his i hi
    exact ⟨c, rfl, by omega, by omega⟩
  cases o with
  | zero =>
    cases hr
    exact hset hm (by decide)
  | succ o =>
    cases o with
    | zero =>
      cases hr
      exact hset hm (by decide)
    | succ o => cases hr

/-- a token for a letter, and an error behind it -/
theorem items_letters : ∃ l final cursor, build letters = .ok l ∧
    Scanner.items { tables := l.tables, mode := 0 } (.ofText ['a', '?']) false =
      (.ok [.token { type := 0, mode := 0, span := ⟨0, 1⟩ }, .error (.unexpectedCharacter 1 '?')],
        { tables := l.tables, mode := final }, cursor) := by
  obtain ⟨l, hb, h⟩ := exists_build (d := letters) (by decide)
  have hnames : l.tables.modeNames = #["text"] := by
    rw [show l.tables.modeNames = l.modeNames.toArray from rfl, h.modeNames_eq]
    rfl
  obtain ⟨items, final, cursor, hitems, -, hiff⟩ := @items_iff_lexes letters l hb 0 (by simp [hnames]) ['a', '?'] false
  have hstuck : letters.Stuck "text" ['?'] := by
    intro u v o huv hu hm
    obtain ⟨c, hc, hlow, -⟩ := ruleMatches_letters hm
    cases u with
    | nil => exact hu rfl
    | cons x u =>
      obtain ⟨rfl, -⟩ := List.cons_eq_cons.1 huv
      simp only [codes, List.map_cons, List.cons.injEq] at hc
      revert hlow
      rw [← hc.1]
      decide
  have hlongest : letters.Longest "text" ['a'] ['?'] 0 :=
    { ne_nil := by simp
      first := ⟨⟨_, rfl, .set ⟨_, List.mem_singleton_self _, by decide⟩⟩, fun _ _ => Nat.zero_le _⟩
      longest := fun _ hm => by
        obtain ⟨c, hc, -⟩ := ruleMatches_letters hm
        have := congrArg List.length hc
        simpa [codes] using this.le }
  have hlexes : letters.Lexes l.tables.modeNames 0 0 (['a'] ++ ['?'])
      [.token { type := 0, mode := 0, span := ⟨0, 1⟩ }, .error (.unexpectedCharacter 1 '?')] 0 :=
    .token (by simp [hnames]) hlongest rfl (by simp [hnames]) (.error (by simp [hnames]) hstuck)
  obtain ⟨rfl, rfl⟩ := (hiff _ _).1 hlexes
  exact ⟨l, 0, cursor, hb, hitems⟩

end Definition

end Munch
