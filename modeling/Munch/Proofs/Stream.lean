/-
Token streams.

A scan of a text is a number of calls for its next item, up to the first fault if there is one. Nothing is assumed of the
tables here: a state may accept at the start, a token type may have no entry, a move may be missing. What holds of all scans
comes from one step (`Tables.Makes`): a token takes a non-empty piece of what follows, an error names the character that
follows, and there is nothing more behind an error and at the end of the text.

`Scanner.history` are the calls with the modes and the places between them; `Stream` says how they fit together.

Results:
- `longestFrom_cases`: the loop returns what it had before, or a match behind a non-empty prefix of the text.
- `makes_of_next`: what one call answers, for any tables.
- `Reached.snoc`: one more call leaves the scan at a place of the text again.
- `Stream.ended`, `Stream.error_last`, `Reached.exists_none`: the end of a scan is the end, and it comes in time.
- `history_stream`: the calls of every scan are a stream.
-/
import Mathlib.Tactic
import Munch.Proofs.Place

namespace Munch

/-! ## One step -/

namespace Tables

variable {t : Tables} {q mode position : Nat} {best result : Option Match} {text : List Char} {c : Cursor}
  {answer : Option (Item × Nat × Cursor)}

/-- the loop returns what it had before, or a match behind a non-empty prefix of the text -/
theorem longestFrom_cases (h : t.longestFrom q position best text = .ok result) : result = best ∨
    ∃ p m, result = some m ∧ p ≠ [] ∧ text = p ++ m.rest ∧ m.stop = position + byteLength p := by
  induction text generalizing q position best with
  | nil =>
    cases h
    exact Or.inl rfl
  | cons first rest ih =>
    -- a match behind the next character is one behind a prefix that begins with it
    have hlonger {p : List Char} {m : Match} (hp : rest = p ++ m.rest)
        (hstop : m.stop = position + first.utf8Size + byteLength p) :
        first :: rest = (first :: p) ++ m.rest ∧ m.stop = position + byteLength (first :: p) := by
      rw [ByteSpan.byteLength_cons, hp]
      exact ⟨rfl, by omega⟩
    rw [longestFrom] at h
    obtain ⟨r, -, h⟩ := exists_of_bind_eq_ok h
    split_ifs at h with herror
    · cases h
      exact Or.inl rfl
    · obtain ⟨x, -, h⟩ := exists_of_bind_eq_ok h
      cases x with
      | none =>
        rcases ih h with hbest | ⟨p, m, hm, -, hp, hstop⟩
        · exact Or.inl hbest
        · obtain ⟨h1, h2⟩ := hlonger hp hstop
          exact Or.inr ⟨first :: p, m, hm, List.cons_ne_nil first p, h1, h2⟩
      | some o =>
        rcases ih h with hbest | ⟨p, m, hm, -, hp, hstop⟩
        · exact Or.inr ⟨[first], _, hbest, List.cons_ne_nil first [], rfl, by simp [byteLength]⟩
        · obtain ⟨h1, h2⟩ := hlonger hp hstop
          exact Or.inr ⟨first :: p, m, hm, List.cons_ne_nil first p, h1, h2⟩

theorem modeAfter_eq_ok {token next : Nat} {tracing : Bool} (h : t.modeAfter mode token tracing = .ok next) :
    ∃ info, t.tokens[token]? = some info ∧ info.mode = next := by
  rw [modeAfter] at h
  obtain ⟨info, hinfo, h⟩ := exists_of_bind_eq_ok h
  split_ifs at h
  cases h
  cases htoken : t.tokens[token]? with
  | none =>
    rw [htoken] at hinfo
    cases hinfo
  | some info' =>
    rw [htoken] at hinfo
    cases hinfo
    exact ⟨info, rfl, rfl⟩

end Tables

/-- one call for the next item of a text: the mode and the place before it, what it answers, and what is behind it -/
structure Call where
  mode : Nat
  place : Cursor
  answer : Option Item
  nextMode : Nat
  nextPlace : Cursor
  deriving DecidableEq, Repr

/-- the calls that the tables allow -/
inductive Tables.Makes (t : Tables) : Call → Prop where
  | idle {mode : Nat} {c : Cursor} (h : c.failed = true ∨ c.rest = []) : t.Makes ⟨mode, c, none, mode, c⟩
  | error {mode : Nat} {c : Cursor} {first : Char} {rest : List Char} (hfailed : c.failed = false)
      (hrest : c.rest = first :: rest) :
      t.Makes ⟨mode, c, some (.error (.unexpectedCharacter c.position first)), mode, { c with failed := true }⟩
  | token {mode : Nat} {c : Cursor} {p v : List Char} {type : Nat} {info : TokenInfo} (hfailed : c.failed = false)
      (hp : p ≠ []) (hrest : c.rest = p ++ v) (hinfo : t.tokens[type]? = some info) :
      t.Makes ⟨mode, c, some (.token { type := type, mode := mode, span := ⟨c.position, c.position + byteLength p⟩ }),
        info.mode, { rest := v, position := c.position + byteLength p }⟩

namespace Scanner

variable {s s' : Scanner} {c c' : Cursor} {tracing : Bool}

theorem next_of_idle (h : c.failed = true ∨ c.rest = []) : s.next c tracing = (.ok none, s, c) := by
  have hstep : s.tables.step s.mode c tracing = .ok none := by
    rcases h with hfailed | hrest
    · simp [Tables.step, hfailed]
    · simp [Tables.step, hrest]
  rw [next, hstep]

/-- a call that does not fault keeps the tables and is one that they allow -/
theorem makes_of_next {answer : Option Item} (h : s.next c tracing = (.ok answer, s', c')) :
    s'.tables = s.tables ∧ s.tables.Makes ⟨s.mode, c, answer, s'.mode, c'⟩ := by
  by_cases hidle : c.failed = true ∨ c.rest = []
  · rw [next_of_idle hidle] at h
    cases h
    exact ⟨rfl, .idle hidle⟩
  · obtain ⟨hfailed, hrest⟩ := not_or.1 hidle
    obtain ⟨first, rest, hrest⟩ := List.exists_cons_of_ne_nil hrest
    have hgoes : c.failed = false := by simpa using hfailed
    rw [next] at h
    cases hstep : s.tables.step s.mode c tracing with
    | error f =>
      rw [hstep] at h
      cases h
    | ok found =>
      rw [hstep] at h
      rw [Tables.step, if_neg hfailed, hrest] at hstep
      obtain ⟨best, hbest, hstep⟩ := exists_of_bind_eq_ok hstep
      cases best with
      | none =>
        cases hstep
        cases h
        exact ⟨rfl, hrest ▸ .error hgoes hrest⟩
      | some m =>
        obtain ⟨mode, hmode, hstep⟩ := exists_of_bind_eq_ok hstep
        cases hstep
        cases h
        obtain ⟨info, hinfo, rfl⟩ := Tables.modeAfter_eq_ok hmode
        obtain ⟨q, -, hbest⟩ := exists_of_bind_eq_ok hbest
        rcases Tables.longestFrom_cases hbest with hnone | ⟨p, m', hm, hp, htext, hstop⟩
        · cases hnone
        · cases hm
          rw [hstop]
          exact ⟨rfl, .token hgoes hp (hrest.trans htext) hinfo⟩

end Scanner

/-! ## Calls one after the other -/

/-- the token of an item, if it is one -/
def Item.token? : Item → Option Token
  | .token found => some found
  | .error _ => none

/-- where the last of the tokens ends -/
def Token.endOf (tokens : List Token) : Nat :=
  (tokens.getLast?.map fun k => k.span.stop).getD 0

@[simp] theorem Token.endOf_snoc (tokens : List Token) (k : Token) : endOf (tokens ++ [k]) = k.span.stop := by
  simp [endOf]

namespace Calls

/-- the tokens among the answers -/
def tokens (calls : List Call) : List Token :=
  calls.filterMap fun x => x.answer.bind Item.token?

/-- an error is among the answers -/
def Failed (calls : List Call) : Prop :=
  ∃ x ∈ calls, ∃ e, x.answer = some (.error e)

/-- the mode and the place behind calls that begin with a text in a mode -/
def behind (mode : Nat) (text : List Char) (calls : List Call) : Nat × Cursor :=
  (calls.getLast?.map fun x => (x.nextMode, x.nextPlace)).getD (mode, Cursor.ofText text)

/-- there is nothing more to find: an error was found, or the tokens reach the end of the text -/
def Over (text : List Char) (calls : List Call) : Prop :=
  Failed calls ∨ Token.endOf (tokens calls) = byteLength text

variable {mode : Nat} {text : List Char} {calls u v : List Call} {x : Call}

@[simp] theorem behind_nil : behind mode text [] = (mode, Cursor.ofText text) := rfl

@[simp] theorem behind_snoc : behind mode text (u ++ [x]) = (x.nextMode, x.nextPlace) := by
  simp [behind]

theorem tokens_snoc (u : List Call) (x : Call) : tokens (u ++ [x]) = tokens u ++ (x.answer.bind Item.token?).toList := by
  cases h : x.answer.bind Item.token? <;> simp [tokens, h]

theorem endOf_snoc_token {k : Token} (h : x.answer = some (.token k)) : Token.endOf (tokens (u ++ [x])) = k.span.stop := by
  simp [tokens_snoc, h, Item.token?]

theorem endOf_snoc_other (h : x.answer.bind Item.token? = none) :
    Token.endOf (tokens (u ++ [x])) = Token.endOf (tokens u) := by
  rw [tokens_snoc, h, Option.toList_none, List.append_nil]

theorem failed_snoc : Failed (u ++ [x]) ↔ Failed u ∨ ∃ e, x.answer = some (.error e) := by
  simp [Failed, or_and_right, exists_or]

theorem Failed.append (h : Failed u) (v : List Call) : Failed (u ++ v) := by
  obtain ⟨x, hx, he⟩ := h
  exact ⟨x, List.mem_append_left v hx, he⟩

/-- the last of a number of calls, and one before the last -/
theorem snoc_eq_append_cons {y : Call} (h : calls ++ [x] = u ++ y :: v) :
    (calls = u ∧ x = y ∧ v = []) ∨ ∃ v', v = v' ++ [x] ∧ calls = u ++ y :: v' := by
  rcases List.eq_nil_or_concat v with rfl | ⟨v', z, rfl⟩
  · obtain ⟨hcalls, hx⟩ := List.append_inj' h rfl
    exact Or.inl ⟨hcalls, List.singleton_inj.1 hx, rfl⟩
  · have hsplit : calls ++ [x] = (u ++ y :: v') ++ [z] := by simpa using h
    obtain ⟨hcalls, hx⟩ := List.append_inj' hsplit rfl
    exact Or.inr ⟨v', by rw [List.singleton_inj.1 hx, List.concat_eq_append], hcalls⟩

end Calls

/-- a call is the one behind other calls: it begins where they have led to; a token begins where the last one ends, takes a
non-empty piece of the text, and its type has the mode behind it; an error names the character at that place and keeps the
mode; without an answer all stays as it is, and that is so when there is nothing more to find -/
structure Call.Fits (t : Tables) (mode : Nat) (text : List Char) (u : List Call) (x : Call) : Prop where
  linked : (x.mode, x.place) = Calls.behind mode text u
  token : ∀ k, x.answer = some (.token k) → k.span.start = Token.endOf (Calls.tokens u) ∧ k.span.start < k.span.stop ∧
    (∃ piece, piece ≠ [] ∧ k.text? text = some piece) ∧ k.mode = x.mode ∧
    (t.tokens[k.type]?).map TokenInfo.mode = some x.nextMode
  error : ∀ e, x.answer = some (.error e) → x.nextMode = x.mode ∧ ∃ c rest,
    ByteSpan.dropBytes? (Token.endOf (Calls.tokens u)) text = some (c :: rest) ∧
    e = .unexpectedCharacter (Token.endOf (Calls.tokens u)) c
  none_iff : x.answer = none ↔ Calls.Over text u
  idle : x.answer = none → x.nextMode = x.mode ∧ x.nextPlace = x.place

/-- calls that follow one another through a text -/
def Calls.Stream (t : Tables) (mode : Nat) (text : List Char) (calls : List Call) : Prop :=
  ∀ u x v, calls = u ++ x :: v → x.Fits t mode text u

/-- where calls leave a scan: between two characters of the text, behind the last token, with each answer paid for by a byte
of the text or by the character of an error -/
structure Calls.Reached (mode : Nat) (text : List Char) (calls : List Call) : Prop where
  at_text : (behind mode text calls).2.At text
  position : (behind mode text calls).2.position = Token.endOf (tokens calls)
  failed_iff : (behind mode text calls).2.failed = true ↔ Failed calls
  rest_ne_nil : Failed calls → (behind mode text calls).2.rest ≠ []
  answers_le : (calls.filterMap Call.answer).length ≤
    (behind mode text calls).2.position + (behind mode text calls).2.failed.toNat

namespace Calls

variable {t : Tables} {mode : Nat} {text : List Char} {calls u v : List Call} {x : Call}

theorem reached_nil (mode : Nat) (text : List Char) : Reached mode text [] where
  at_text := Cursor.at_ofText text
  position := rfl
  failed_iff := by simp [Failed, Cursor.ofText]
  rest_ne_nil := by simp [Failed]
  answers_le := Nat.zero_le _

namespace Reached

theorem over_iff (h : Reached mode text u) :
    Over text u ↔ (behind mode text u).2.failed = true ∨ (behind mode text u).2.rest = [] := by
  rw [Over, h.failed_iff, ← h.position, ← h.at_text.rest_eq_nil_iff]

/-- a call that the tables allow fits behind calls -/
theorem fits (h : Reached mode text u) (hlink : (x.mode, x.place) = behind mode text u) (hx : t.Makes x) :
    x.Fits t mode text u := by
  have hover := h.over_iff
  have hplace := h.at_text
  have hposition := h.position
  rw [← hlink] at hover hplace hposition
  cases hx with
  | idle hidle => exact ⟨hlink, nofun, nofun, ⟨fun _ => hover.2 hidle, fun _ => rfl⟩, fun _ => ⟨rfl, rfl⟩⟩
  | @error mode c first rest hfailed hrest =>
    have hgoes : ¬Over text u := by simp [hover, hfailed, hrest]
    refine ⟨hlink, nofun, ?_, ⟨nofun, fun ho => absurd ho hgoes⟩, nofun⟩
    intro e he
    cases he
    exact ⟨rfl, first, rest, hposition ▸ hrest ▸ hplace.dropBytes?, by rw [← hposition]⟩
  | @token mode c p v type info hfailed hp hrest hinfo =>
    have hgoes : ¬Over text u := by simp [hover, hfailed, hrest, hp]
    refine ⟨hlink, ?_, nofun, ⟨nofun, fun ho => absurd ho hgoes⟩, nofun⟩
    intro k hk
    cases hk
    refine ⟨hposition, Nat.lt_add_of_pos_right (ByteSpan.byteLength_pos hp), ⟨p, hp, ?_⟩, rfl, by rw [hinfo]; rfl⟩
    exact hplace.slice? hrest

/-- one more call leaves the scan at a place of the text again -/
theorem snoc (h : Reached mode text u) (hlink : (x.mode, x.place) = behind mode text u) (hx : t.Makes x) :
    Reached mode text (u ++ [x]) := by
  obtain ⟨hplace, hposition, hfailed_iff, hrest_ne, hanswers⟩ := h
  rw [← hlink] at hplace hposition hfailed_iff hrest_ne hanswers
  cases hx with
  | @idle mode c hidle =>
    have hfailed : Failed (u ++ [⟨mode, c, none, mode, c⟩]) ↔ Failed u := by simp [failed_snoc]
    refine ⟨by simpa using hplace, ?_, by simpa [hfailed] using hfailed_iff, by simpa [hfailed] using hrest_ne, ?_⟩
    · rw [endOf_snoc_other rfl, behind_snoc]
      exact hposition
    · simpa using hanswers
  | @error mode c first rest hfailed hrest =>
    refine ⟨?_, ?_, by simp [failed_snoc], by simp [hrest], ?_⟩
    · simpa using hplace.fail
    · rw [endOf_snoc_other rfl, behind_snoc]
      exact hposition
    · simpa [hfailed] using hanswers
  | @token mode c p v type info hfailed hp hrest hinfo =>
    have hpos := ByteSpan.byteLength_pos hp
    have hgoes : ¬Failed u := by simp [← hfailed_iff, hfailed]
    refine ⟨by simpa using hplace.append hrest, ?_, by simp [failed_snoc, hgoes], by simp [failed_snoc, hgoes], ?_⟩
    · rw [endOf_snoc_token rfl, behind_snoc]
    · simp only [hfailed, Bool.toNat_false] at hanswers
      simp only [List.filterMap_append, List.length_append, behind_snoc, Bool.toNat_false]
      simp
      omega

/-- there are no more answers than bytes of the text -/
theorem length_le (h : Reached mode text calls) : (calls.filterMap Call.answer).length ≤ byteLength text := by
  have hanswers := h.answers_le
  by_cases hfailed : (behind mode text calls).2.failed = true
  · have hlt := h.at_text.position_lt (h.rest_ne_nil (h.failed_iff.1 hfailed))
    rw [hfailed, Bool.toNat_true] at hanswers
    omega
  · have hle := h.at_text.position_le
    rw [Bool.not_eq_true] at hfailed
    rw [hfailed, Bool.toNat_false] at hanswers
    omega

/-- so one call more than that has come to the end -/
theorem exists_none (h : Reached mode text calls) (hlong : byteLength text < calls.length) :
    ∃ x ∈ calls.take (byteLength text + 1), x.answer = none := by
  by_contra hnone
  have hall : ∀ x ∈ calls.take (byteLength text + 1), x.answer.isSome = true := by
    intro x hx
    rw [Option.isSome_iff_ne_none]
    exact fun hanswer => hnone ⟨x, hx, hanswer⟩
  have hmore : byteLength text + 1 ≤ (calls.filterMap Call.answer).length := by
    calc byteLength text + 1
        = (calls.take (byteLength text + 1)).length := by rw [List.length_take, Nat.min_eq_left hlong]
      _ = ((calls.take (byteLength text + 1)).filterMap Call.answer).length := by
          rw [List.length_filterMap_eq_countP, List.countP_eq_length.2 hall]
      _ ≤ (calls.filterMap Call.answer).length := ((List.take_sublist _ _).filterMap Call.answer).length_le
  exact absurd h.length_le (Nat.not_le.2 hmore)

end Reached

end Calls

/-! ## The end of a scan -/

namespace Calls.Stream

variable {t : Tables} {mode : Nat} {text : List Char} {calls u v : List Call} {x : Call}

theorem of_append (h : Stream t mode text (u ++ v)) : Stream t mode text u := by
  intro u' x v' hu
  exact h u' x (v' ++ v) (by rw [hu, List.append_assoc, List.cons_append])

theorem snoc (h : Stream t mode text u) (hx : x.Fits t mode text u) : Stream t mode text (u ++ [x]) := by
  intro u' y v hsplit
  rcases snoc_eq_append_cons hsplit with ⟨rfl, rfl, -⟩ | ⟨v', -, hu⟩
  · exact hx
  · exact h u' y v' hu

/-- where there is nothing more to find, further calls answer nothing, change nothing, and find nothing more -/
theorem ended (h : Stream t mode text (u ++ v)) (ho : Over text u) : Over text (u ++ v) ∧
    behind mode text (u ++ v) = behind mode text u ∧
    ∀ x ∈ v, x.answer = none ∧ (x.nextMode, x.nextPlace) = behind mode text u := by
  induction v using List.reverseRecOn with
  | nil => simpa using ho
  | append_singleton v x ih =>
    rw [← List.append_assoc] at h ⊢
    obtain ⟨hover, hbehind, hquiet⟩ := ih h.of_append
    have hfits := h (u ++ v) x [] rfl
    have hanswer := hfits.none_iff.2 hover
    have hstays : (x.nextMode, x.nextPlace) = behind mode text u := by
      obtain ⟨hmode, hplace⟩ := hfits.idle hanswer
      rw [hmode, hplace, hfits.linked, hbehind]
    refine ⟨?_, by rw [behind_snoc, hstays], ?_⟩
    · rcases hover with hfailed | hend
      · exact Or.inl (hfailed.append [x])
      · exact Or.inr (by rw [endOf_snoc_other (by rw [hanswer]; rfl), hend])
    · intro y hy
      rcases List.mem_append.1 hy with hy | hy
      · exact hquiet y hy
      · rw [List.mem_singleton.1 hy]
        exact ⟨hanswer, hstays⟩

/-- in front of an error there are tokens only, and behind it nothing -/
theorem error_last (h : Stream t mode text (u ++ x :: v)) {e : ScanError} (hx : x.answer = some (.error e)) :
    (∀ y ∈ u, ∃ k, y.answer = some (.token k)) ∧ ∀ y ∈ v, y.answer = none := by
  have hgoes : ¬Over text u := by
    rw [← (h u x v rfl).none_iff, hx]
    nofun
  constructor
  · intro y hy
    obtain ⟨u₁, u₂, rfl⟩ := List.append_of_mem hy
    rcases hanswer : y.answer with _ | (k | e')
    · have hover : Over text u₁ := ((h.of_append) u₁ y u₂ rfl).none_iff.1 hanswer
      exact absurd (h.of_append.ended hover).1 hgoes
    · exact ⟨k, rfl⟩
    · exact absurd (Or.inl ⟨y, by simp, e', hanswer⟩) hgoes
  · rw [List.append_cons] at h
    have hfailed : Failed (u ++ [x]) := failed_snoc.2 (Or.inr ⟨e, hx⟩)
    intro y hy
    exact ((h.ended (Or.inl hfailed)).2.2 y hy).1

end Calls.Stream

/-! ## The history of a scan -/

/-- a scan: the scanner and the place in the text as they are now, the calls so far, and the fault that has ended it -/
structure History where
  scanner : Scanner
  place : Cursor
  calls : List Call
  fault : Option Fault
  deriving DecidableEq, Repr

/-- one more call; behind a fault there is none -/
def History.extend (h : History) (tracing : Bool) : History :=
  match h.fault with
  | some _ => h
  | none =>
    match h.scanner.next h.place tracing with
    | (.error f, s, c) => { h with scanner := s, place := c, fault := some f }
    | (.ok answer, s, c) =>
      { scanner := s, place := c, calls := h.calls ++ [⟨h.scanner.mode, h.place, answer, s.mode, c⟩], fault := none }

/-- a number of calls for the items of a text -/
def Scanner.history (s : Scanner) (text : List Char) (tracing : Bool) : Nat → History
  | 0 => { scanner := s, place := Cursor.ofText text, calls := [], fault := none }
  | count + 1 => (s.history text tracing count).extend tracing

/-- a history of a number of calls of a scanner for the items of a text: the calls fit behind one another and lead to the
scanner and the place; there are all of them, or a fault ended them before the scan was over -/
structure History.Regular (s : Scanner) (text : List Char) (count : Nat) (h : History) : Prop where
  tables : h.scanner.tables = s.tables
  here : (h.scanner.mode, h.place) = Calls.behind s.mode text h.calls
  stream : Calls.Stream s.tables s.mode text h.calls
  reached : Calls.Reached s.mode text h.calls
  length : h.fault = none → h.calls.length = count
  not_over : h.fault ≠ none → ¬Calls.Over text h.calls

theorem Scanner.next_error {s s' : Scanner} {c c' : Cursor} {tracing : Bool} {f : Fault}
    (h : s.next c tracing = (.error f, s', c')) :
    s' = s ∧ c' = c ∧ ¬(c.failed = true ∨ c.rest = []) := by
  have hgoes : ¬(c.failed = true ∨ c.rest = []) := by
    intro hidle
    rw [next_of_idle hidle] at h
    cases h
  rw [next] at h
  split at h <;> cases h
  exact ⟨rfl, rfl, hgoes⟩

namespace History.Regular

variable {s : Scanner} {text : List Char} {count : Nat} {h : History}

theorem extend (hr : h.Regular s text count) (tracing : Bool) : (h.extend tracing).Regular s text (count + 1) := by
  obtain ⟨htables, hhere, hstream, hreached, hlength, hnot⟩ := hr
  cases hfault : h.fault with
  | some f =>
    have hstays : h.extend tracing = h := by rw [History.extend, hfault]
    rw [hstays]
    exact ⟨htables, hhere, hstream, hreached, by simp [hfault], hnot⟩
  | none =>
    rcases hnext : h.scanner.next h.place tracing with ⟨f | answer, s', c'⟩
    · obtain ⟨rfl, rfl, hgoes⟩ := Scanner.next_error hnext
      have hends : h.extend tracing = { h with fault := some f } := by rw [History.extend, hfault, hnext]
      rw [hends]
      refine ⟨htables, hhere, hstream, hreached, nofun, fun _ => ?_⟩
      rwa [hreached.over_iff, ← hhere]
    · obtain ⟨htables', hmakes⟩ := Scanner.makes_of_next hnext
      have hgrows : h.extend tracing = ⟨s', c', h.calls ++ [⟨h.scanner.mode, h.place, answer, s'.mode, c'⟩], none⟩ := by
        rw [History.extend, hfault, hnext]
      rw [hgrows]
      rw [htables] at hmakes
      refine ⟨htables'.trans htables, ?_, hstream.snoc (hreached.fits hhere hmakes), hreached.snoc hhere hmakes,
        fun _ => ?_, fun hne => absurd rfl hne⟩
      · rw [Calls.behind_snoc]
      · rw [List.length_append, hlength hfault, List.length_singleton]

theorem history (s : Scanner) (text : List Char) (tracing : Bool) (count : Nat) :
    (s.history text tracing count).Regular s text count := by
  induction count with
  | zero =>
    have hstream : Calls.Stream s.tables s.mode text [] := by simp [Calls.Stream]
    exact ⟨rfl, rfl, hstream, Calls.reached_nil s.mode text, fun _ => rfl, fun hne => absurd rfl hne⟩
  | succ count ih => exact ih.extend tracing

end History.Regular

/-- **Token streams.** Any number of calls for the items of any text, on any tables and in any mode, whether the scan is
traced or not, fit behind one another up to the first fault. A fault comes only before the scan is over. From then on calls
answer nothing and change nothing; in front of an error there are tokens only, and behind it there is nothing. There are no
more answers than bytes of the text, so that one call more comes to the end. -/
theorem Scanner.history_stream (s : Scanner) (text : List Char) (tracing : Bool) (count : Nat) :
    (s.history text tracing count).Regular s text count ∧
    (∀ u v, (s.history text tracing count).calls = u ++ v → Calls.Over text u →
      ∀ x ∈ v, x.answer = none ∧ (x.nextMode, x.nextPlace) = Calls.behind s.mode text u) ∧
    (∀ u x v e, (s.history text tracing count).calls = u ++ x :: v → x.answer = some (.error e) →
      (∀ y ∈ u, ∃ k, y.answer = some (.token k)) ∧ ∀ y ∈ v, y.answer = none) ∧
    ((s.history text tracing count).calls.filterMap Call.answer).length ≤ byteLength text ∧
    ((s.history text tracing count).fault = none → byteLength text < count →
      ∃ x ∈ (s.history text tracing count).calls.take (byteLength text + 1), x.answer = none) := by
  have hr := History.Regular.history s text tracing count
  refine ⟨hr, ?_, ?_, hr.reached.length_le, ?_⟩
  · intro u v hsplit ho
    have hstream := hr.stream
    rw [hsplit] at hstream
    exact (hstream.ended ho).2.2
  · intro u x v e hsplit hx
    have hstream := hr.stream
    rw [hsplit] at hstream
    exact hstream.error_last hx
  · intro hfault hcount
    rw [← hr.length hfault] at hcount
    exact hr.reached.exists_none hcount

end Munch
