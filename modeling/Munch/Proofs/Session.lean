/-
Sessions: any sequence of scans and changes of mode.

`Tables.Sound` is what a scanner relies on; nothing else is known about the tables here. A session is a list of requests to
one scanner, each answered in the state that the one before has left. A scan may stop early, and the text may be any.

Results:
- `Sound.exists_longestFrom`, `Sound.exists_step`: the loop and one step of a scan find every place that they look up.
- `Sound.safe_of_makes`: what a call answers is safe, and it leads to a mode that is there and to a place of the text.
- `Valid.exists_take`, `Valid.serve`: a scan of any number of steps and any other request leave the scanner in a mode that it
  has, and the reply is safe.
- `serve_setMode_cases`: a change of mode that is refused leaves the scanner as it was.
- `Valid.serveAll`: so does every session.
-/
import Mathlib.Tactic
import Munch.Proofs.Stream

namespace Munch

/-! ## Tables -/

theorem Bisection.countTrue_le (n : Nat) (test : Nat → Bool) : countTrue n test ≤ n := by
  unfold countTrue
  split
  · exact Nat.zero_le n
  · have hlt : lastTrue n test < 0 + n := search_lt test (by omega)
    split <;> omega

theorem symbolIn_le (intervals : Array (Nat × Nat)) (point : Nat) : symbolIn intervals point ≤ intervals.size := by
  have hle := Bisection.countTrue_le intervals.size fun i => (intervals[i]?).any fun p => decide (p.1 ≤ point)
  unfold symbolIn
  simp only
  split_ifs
  · exact Nat.zero_le _
  · exact hle
  · exact Nat.zero_le _

namespace Tables

/-- what a scanner relies on -/
structure Sound (t : Tables) : Prop where
  transitions_size : t.transitions.size = t.stateCount * t.symbolCount
  transitions_lt : ∀ q ∈ t.transitions, q < t.stateCount
  first_column : ∀ q < t.stateCount, t.nextState q 0 = .ok t.errorState
  error_row : ∀ s < t.symbolCount, t.nextState t.errorState s = .ok t.errorState
  error_not_accepting : t.accepting[t.errorState]? = some false
  tokenTypes_size : t.tokenTypes.size = t.stateCount
  accepting_iff : ∀ q : Nat, t.accepting[q]? = some true ↔ ∃ o, t.tokenTypes[q]? = some (some o)
  token_lt : ∀ q o : Nat, t.tokenTypes[q]? = some (some o) → o < t.tokens.size
  next_mode_lt : ∀ info ∈ t.tokens, info.mode < t.modeNames.size
  startMode_lt : t.startMode < t.modeNames.size
  startState_lt : t.startState < t.stateCount
  modeNames_nodup : t.modeNames.toList.Nodup
  intervals_lt : t.intervals.size < t.symbolCount
  modes_lt : t.modeNames.size < t.symbolCount
  intervals_valid : ∀ x ∈ t.intervals, x.1 ≤ x.2
  intervals_ascend : t.intervals.toList.Pairwise fun x y => x.2 < y.1

namespace Sound

variable {t : Tables} (h : t.Sound) {q mode : Nat}
include h

/-- a state and a column have a move, and it leads to a state -/
theorem exists_nextState (hq : q < t.stateCount) {s : Nat} (hs : s < t.symbolCount) :
    ∃ r, t.nextState q s = .ok r ∧ r < t.stateCount := by
  have hlt : q * t.symbolCount + s < t.transitions.size := by
    rw [h.transitions_size, Nat.mul_comm q]
    exact Nat.mul_add_lt_mul_of_lt_of_lt hq hs
  refine ⟨t.transitions[q * t.symbolCount + s], ?_, h.transitions_lt _ (Array.getElem_mem hlt)⟩
  rw [nextState_of_lt hlt, Array.getElem?_eq_getElem hlt, orOutOfRange]

theorem symbolOf_lt (c : Char) : t.symbolOf c < t.symbolCount :=
  (symbolIn_le t.intervals c.toNat).trans_lt h.intervals_lt

theorem exists_modeStart (hm : mode < t.modeNames.size) : ∃ q, t.modeStart mode = .ok q ∧ q < t.stateCount := by
  rw [modeStart_eq_nextState]
  exact h.exists_nextState h.startState_lt ((Nat.succ_le_of_lt hm).trans_lt h.modes_lt)

/-- the loop finds what it looks up, and if what it had before was of a token type that is there, so is what it returns -/
theorem exists_longestFrom (hq : q < t.stateCount) (position : Nat) {best : Option Match} (text : List Char)
    (hbest : ∀ m, best = some m → m.token < t.tokens.size) :
    ∃ result, t.longestFrom q position best text = .ok result ∧ ∀ m, result = some m → m.token < t.tokens.size := by
  induction text generalizing q position best with
  | nil => exact ⟨best, rfl, hbest⟩
  | cons c rest ih =>
    obtain ⟨r, hr, hrlt⟩ := h.exists_nextState hq (h.symbolOf_lt c)
    obtain ⟨x, htype⟩ : ∃ x, t.tokenTypes[r]? = some x := ⟨_, Array.getElem?_eq_getElem (h.tokenTypes_size ▸ hrlt)⟩
    rw [longestFrom, hr]
    simp only [bind, Except.bind, htype, orOutOfRange]
    by_cases herror : r = t.errorState
    · rw [if_pos herror]
      exact ⟨best, rfl, hbest⟩
    · rw [if_neg herror]
      cases x with
      | none => exact ih hrlt (position + c.utf8Size) hbest
      | some o =>
        apply ih hrlt (position + c.utf8Size)
        intro m hm
        cases hm
        exact h.token_lt r o htype

theorem exists_modeAfter (hm : mode < t.modeNames.size) {o : Nat} (ho : o < t.tokens.size) (tracing : Bool) :
    ∃ next, t.modeAfter mode o tracing = .ok next ∧ next < t.modeNames.size := by
  have hinfo : t.tokens[o]? = some t.tokens[o] := Array.getElem?_eq_getElem ho
  have hnext := h.next_mode_lt _ (Array.getElem_mem ho)
  refine ⟨t.tokens[o].mode, ?_, hnext⟩
  rw [modeAfter, hinfo]
  exact if_neg fun hmissing => hmissing.2.2 ⟨hm, hnext⟩

end Sound

end Tables

/-! ## One step -/

/-- what can be asked about a token: its type has a name, its mode is there, and the text has the piece that it covers -/
structure Token.Safe (t : Tables) (text : List Char) (token : Token) : Prop where
  name : ∃ name, t.tokenName? token.type = some name
  mode_lt : token.mode < t.modeNames.size
  piece : ∃ piece, piece ≠ [] ∧ token.text? text = some piece

/-- a token is safe, and an error names the character at its place -/
def Item.Safe (t : Tables) (text : List Char) : Item → Prop
  | .token found => found.Safe t text
  | .error e => ∃ position c rest, e = .unexpectedCharacter position c ∧
      ByteSpan.dropBytes? position text = some (c :: rest)

namespace Tables.Sound

variable {t : Tables} (h : t.Sound) {mode : Nat}
include h

theorem exists_step (hm : mode < t.modeNames.size) (c : Cursor) (tracing : Bool) :
    ∃ answer, t.step mode c tracing = .ok answer := by
  by_cases hfailed : c.failed = true
  · exact ⟨none, by rw [step, if_pos hfailed]⟩
  · cases hrest : c.rest with
    | nil => exact ⟨none, by rw [step, if_neg hfailed, hrest]⟩
    | cons first rest =>
      obtain ⟨q, hstart, hq⟩ := h.exists_modeStart hm
      have hnothing : ∀ m : Match, none = some m → m.token < t.tokens.size := by simp
      obtain ⟨result, hresult, htoken⟩ := h.exists_longestFrom hq c.position (first :: rest) hnothing
      have hmatch : t.longestMatch mode c.position (first :: rest) = .ok result := by
        rw [longestMatch, hstart]
        exact hresult
      rw [step, if_neg hfailed, hrest]
      cases result with
      | none => exact ⟨_, by simp only [hmatch, bind, Except.bind]; rfl⟩
      | some m =>
        obtain ⟨next, hafter, -⟩ := h.exists_modeAfter hm (htoken m rfl) tracing
        exact ⟨_, by simp only [hmatch, hafter, bind, Except.bind]; rfl⟩

/-- what a call in a mode and at a place of a text answers is safe, and it leads to a mode and to a place of the text -/
theorem safe_of_makes {text : List Char} {x : Call} (hx : t.Makes x) (hm : x.mode < t.modeNames.size)
    (hc : x.place.At text) :
    x.nextMode < t.modeNames.size ∧ x.nextPlace.At text ∧ ∀ item, x.answer = some item → item.Safe t text := by
  cases hx with
  | idle => exact ⟨hm, hc, nofun⟩
  | @error mode c first rest _ hrest =>
    refine ⟨hm, hc.fail, ?_⟩
    intro item hitem
    cases hitem
    exact ⟨c.position, first, rest, rfl, hrest ▸ hc.dropBytes?⟩
  | @token mode c p v type info _ hp hrest hinfo =>
    refine ⟨h.next_mode_lt info (Array.mem_of_getElem? hinfo), hc.append hrest, ?_⟩
    intro item hitem
    cases hitem
    refine ⟨⟨info.name, ?_⟩, hm, p, hp, hc.slice? hrest⟩
    rw [tokenName?, hinfo]
    rfl

end Tables.Sound

/-! ## Sessions -/

/-- what a scanner can be asked for: some steps of a scan of a text, a change of mode, or the name of its mode -/
inductive Request where
  | scan (text : List Char) (count : Nat)
  | setMode (mode : Nat)
  | modeName
  deriving DecidableEq, Repr

/-- the answer: what the steps of the scan of a text found and the place where the scan is then, that the mode is changed,
why it is not, or the name of the mode -/
inductive Reply where
  | scanned (text : List Char) (found : Except Fault (List (Option Item))) (place : Cursor)
  | changed
  | refused (e : ScanError)
  | named (name : Option String)

/-- a reply without a fault, about which all can be asked -/
def Reply.Safe (t : Tables) : Reply → Prop
  | scanned text found place => (∃ items, found = .ok items ∧ ∀ item, some item ∈ items → item.Safe t text) ∧
      ByteSpan.dropBytes? place.position text = some place.rest
  | changed => True
  | refused e => ∃ mode, e = .unknownMode mode ∧ t.modeNames.size ≤ mode
  | named name => ∃ x, name = some x

namespace Scanner

/-- the reply to a request, and the scanner behind it -/
def serve (s : Scanner) (tracing : Bool) : Request → Reply × Scanner
  | .scan text count =>
    let (found, s, place) := s.take (.ofText text) count tracing
    (.scanned text found place, s)
  | .setMode mode =>
    match s.setMode mode with
    | .ok s => (.changed, s)
    | .error e => (.refused e, s)
  | .modeName => (.named s.modeName?, s)

/-- the replies to a list of requests, and the scanner behind them -/
def serveAll (s : Scanner) (tracing : Bool) : List Request → List Reply × Scanner
  | [] => ([], s)
  | r :: rest =>
    let (reply, s) := s.serve tracing r
    let (replies, s) := s.serveAll tracing rest
    (reply :: replies, s)

/-- a change of mode is refused only if there is no such mode, and then the scanner is as it was -/
theorem serve_setMode_cases (s : Scanner) (tracing : Bool) (mode : Nat) :
    (mode < s.tables.modeNames.size ∧ s.serve tracing (.setMode mode) = (.changed, { s with mode := mode })) ∨
      (s.tables.modeNames.size ≤ mode ∧ s.serve tracing (.setMode mode) = (.refused (.unknownMode mode), s)) := by
  by_cases hm : mode < s.tables.modeNames.size
  · left
    rw [serve, setMode, if_pos hm]
    exact ⟨hm, rfl⟩
  · right
    rw [serve, setMode, if_neg hm]
    exact ⟨Nat.not_lt.1 hm, rfl⟩

/-- a scanner in one of the modes of sound tables -/
structure Valid (s : Scanner) : Prop where
  sound : s.tables.Sound
  mode_lt : s.mode < s.tables.modeNames.size

theorem valid_ofTables {t : Tables} (h : t.Sound) : (ofTables t).Valid :=
  ⟨h, h.startMode_lt⟩

namespace Valid

variable {s : Scanner} {text : List Char} {c : Cursor}

/-- one step of a scan keeps the tables, and the scanner valid -/
theorem exists_next (h : s.Valid) (hc : c.At text) (tracing : Bool) : ∃ answer mode place,
    s.next c tracing = (.ok answer, { s with mode := mode }, place) ∧ Valid { s with mode := mode } ∧ place.At text ∧
      ∀ item, answer = some item → item.Safe s.tables text := by
  obtain ⟨found, hstep⟩ := h.sound.exists_step h.mode_lt c tracing
  obtain ⟨answer, s', place, hnext⟩ : ∃ answer s' place, s.next c tracing = (.ok answer, s', place) := by
    rw [next, hstep]
    rcases found with _ | ⟨item, mode, place⟩ <;> exact ⟨_, _, _, rfl⟩
  obtain ⟨htables, hmakes⟩ := makes_of_next hnext
  obtain ⟨hmode, hplace, hsafe⟩ := h.sound.safe_of_makes hmakes h.mode_lt hc
  have hs : s' = { s with mode := s'.mode } := by rw [← htables]
  exact ⟨answer, s'.mode, place, hnext.trans (by rw [← hs]), ⟨h.sound, hmode⟩, hplace, hsafe⟩

/-- so does any number of steps -/
theorem exists_take (h : s.Valid) (hc : c.At text) (count : Nat) (tracing : Bool) : ∃ items mode place,
    s.take c count tracing = (.ok items, { s with mode := mode }, place) ∧ Valid { s with mode := mode } ∧ place.At text ∧
      ∀ item, some item ∈ items → item.Safe s.tables text := by
  induction count generalizing s c with
  | zero => exact ⟨[], s.mode, c, rfl, h, hc, nofun⟩
  | succ count ih =>
    obtain ⟨answer, mode, place, hnext, hvalid, hplace, hanswer⟩ := h.exists_next hc tracing
    obtain ⟨items, mode', place', htake, hvalid', hplace', hitems⟩ := ih hvalid hplace
    refine ⟨answer :: items, mode', place', ?_, hvalid', hplace', ?_⟩
    · simp only [take, hnext, htake]
      rfl
    · intro item hmem
      rcases List.mem_cons.1 hmem with he | hmem
      · exact hanswer item he.symm
      · exact hitems item hmem

/-- one request keeps the tables, and the scanner valid, and its reply is safe -/
theorem serve (h : s.Valid) (tracing : Bool) (r : Request) :
    (s.serve tracing r).2.Valid ∧ (s.serve tracing r).2.tables = s.tables ∧ (s.serve tracing r).1.Safe s.tables := by
  cases r with
  | scan text count =>
    obtain ⟨items, mode, place, htake, hvalid, hplace, hitems⟩ := h.exists_take (Cursor.at_ofText text) count tracing
    rw [Scanner.serve, htake]
    exact ⟨hvalid, rfl, ⟨items, rfl, hitems⟩, hplace.dropBytes?⟩
  | setMode mode =>
    rcases s.serve_setMode_cases tracing mode with ⟨hm, hserve⟩ | ⟨hm, hserve⟩
    · rw [hserve]
      exact ⟨⟨h.sound, hm⟩, rfl, trivial⟩
    · rw [hserve]
      exact ⟨h, rfl, mode, rfl, hm⟩
  | modeName =>
    exact ⟨h, rfl, _, Array.getElem?_eq_getElem h.mode_lt⟩

/-- any session keeps the tables, and the scanner valid, and all its replies are safe -/
theorem serveAll (h : s.Valid) (tracing : Bool) (requests : List Request) : (s.serveAll tracing requests).2.Valid ∧
    (s.serveAll tracing requests).2.tables = s.tables ∧
    ∀ reply ∈ (s.serveAll tracing requests).1, reply.Safe s.tables := by
  induction requests generalizing s with
  | nil => exact ⟨h, rfl, nofun⟩
  | cons r rest ih =>
    obtain ⟨hvalid, htables, hsafe⟩ := h.serve tracing r
    obtain ⟨hvalid', htables', hsafe'⟩ := ih hvalid
    refine ⟨hvalid', htables'.trans htables, ?_⟩
    intro reply hmem
    rcases List.mem_cons.1 hmem with rfl | hmem
    · exact hsafe
    · exact htables ▸ hsafe' reply hmem

end Valid

end Scanner

end Munch
