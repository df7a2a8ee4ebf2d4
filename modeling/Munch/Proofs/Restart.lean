/-
Scans that are cut in two.

A scan can be left behind any of its tokens, and what is left of the text can be scanned on its own. Nothing but the mode is
carried from one token to the next, and the tables do not know where in the text they are, so that the second scan finds what
the first one would have found, only nearer to the start.

Results:
- `step_moved`, `items_moved`: a scan that is further on in a text finds the same items further on.
- `items_of_next`: the items behind one call; how many calls are allowed does not matter, as there are enough.
- `exists_cut`: a scan can be left behind each of its tokens.
- `items_of_rest`: what follows, scanned on its own.
- `restart`: the rest of the text has the rest of the items.
-/
import Mathlib.Tactic
import Munch.Proofs.Stream

namespace Munch

/-! ## Items further on in a text -/

/-- a token that is some bytes further on -/
def Token.moved (p : Nat) (k : Token) : Token :=
  { k with span := ⟨k.span.start + p, k.span.stop + p⟩ }

/-- a token that is some bytes nearer to the start -/
def Token.movedBack (p : Nat) (k : Token) : Token :=
  { k with span := ⟨k.span.start - p, k.span.stop - p⟩ }

/-- an error that is some bytes further on -/
def ScanError.moved (p : Nat) : ScanError → ScanError
  | unexpectedCharacter position c => unexpectedCharacter (position + p) c
  | unknownMode mode => unknownMode mode

/-- an error that is some bytes nearer to the start -/
def ScanError.movedBack (p : Nat) : ScanError → ScanError
  | unexpectedCharacter position c => unexpectedCharacter (position - p) c
  | unknownMode mode => unknownMode mode

/-- an item that is some bytes further on -/
def Item.moved (p : Nat) : Item → Item
  | token k => token (k.moved p)
  | error e => error (e.moved p)

/-- an item that is some bytes nearer to the start -/
def Item.movedBack (p : Nat) : Item → Item
  | token k => token (k.movedBack p)
  | error e => error (e.movedBack p)

theorem Item.movedBack_comp_moved (p : Nat) : Item.movedBack p ∘ Item.moved p = id := by
  funext item
  rcases item with k | (⟨position, c⟩ | mode) <;>
    simp [Item.moved, Item.movedBack, Token.moved, Token.movedBack, ScanError.moved, ScanError.movedBack]

/-- a match that is some bytes further on -/
def Match.moved (p : Nat) (m : Match) : Match :=
  { m with stop := m.stop + p }

/-- a place that is some bytes further on -/
def Cursor.moved (p : Nat) (c : Cursor) : Cursor :=
  { c with position := c.position + p }

theorem Cursor.moved_ofText {c : Cursor} (h : c.failed = false) : (Cursor.ofText c.rest).moved c.position = c := by
  obtain ⟨rest, position, failed⟩ := c
  cases h
  simp [Cursor.ofText, Cursor.moved]

/-! ## The tables do not know where they are -/

namespace Tables

variable {t : Tables}

theorem longestFrom_moved (p q position : Nat) (best : Option Match) (text : List Char) :
    t.longestFrom q (position + p) (best.map (Match.moved p)) text =
      (t.longestFrom q position best text).map (Option.map (Match.moved p)) := by
  induction text generalizing q position best with
  | nil => rfl
  | cons c rest ih =>
    have hstop : position + p + c.utf8Size = position + c.utf8Size + p := Nat.add_right_comm _ _ _
    rw [longestFrom, longestFrom, hstop]
    cases t.nextState q (t.symbolOf c) with
    | error f => rfl
    | ok r =>
      simp only [bind, Except.bind]
      split_ifs with herror
      · rfl
      · cases orOutOfRange t.tokenTypes[r]? with
        | error f => rfl
        | ok x =>
          cases x with
          | none => exact ih r (position + c.utf8Size) best
          | some o => exact ih r (position + c.utf8Size) (some { token := o, stop := position + c.utf8Size, rest := rest })

theorem longestMatch_moved (p mode position : Nat) (text : List Char) :
    t.longestMatch mode (position + p) text = (t.longestMatch mode position text).map (Option.map (Match.moved p)) := by
  rw [longestMatch, longestMatch]
  cases t.modeStart mode with
  | error f => rfl
  | ok q => exact longestFrom_moved p q position none text

theorem step_moved (p mode : Nat) (c : Cursor) (tracing : Bool) : t.step mode (c.moved p) tracing =
    (t.step mode c tracing).map (Option.map fun x => (x.1.moved p, x.2.1, x.2.2.moved p)) := by
  rw [step, step]
  by_cases hfailed : c.failed = true
  · rw [if_pos hfailed, if_pos (show (c.moved p).failed = true from hfailed)]
    rfl
  · rw [if_neg hfailed, if_neg (show ¬(c.moved p).failed = true from hfailed)]
    cases hrest : c.rest with
    | nil =>
      rw [show (c.moved p).rest = [] from hrest]
      rfl
    | cons first rest =>
      rw [show (c.moved p).rest = first :: rest from hrest]
      simp only [show (c.moved p).position = c.position + p from rfl, longestMatch_moved]
      cases t.longestMatch mode c.position (first :: rest) with
      | error f => rfl
      | ok best =>
        cases best with
        | none => rfl
        | some m =>
          simp only [Except.map, Option.map, bind, Except.bind, Match.moved]
          cases t.modeAfter mode m.token tracing <;> rfl

end Tables

/-- the number of items that can still be found, at most -/
def Cursor.left (c : Cursor) : Nat :=
  if c.failed then 0 else c.rest.length

theorem Cursor.left_le (c : Cursor) : c.left ≤ c.rest.length := by
  unfold left
  split_ifs <;> simp

namespace Tables.Makes

variable {t : Tables} {x : Call}

theorem left_lt (h : t.Makes x) {item : Item} (hanswer : x.answer = some item) : x.nextPlace.left < x.place.left := by
  cases h with
  | idle => cases hanswer
  | error hfailed hrest => simp [Cursor.left, hfailed, hrest]
  | token hfailed hp hrest => simp [Cursor.left, hfailed, hrest, List.length_pos_iff.2 hp]

theorem failed_of_error (h : t.Makes x) {e : ScanError} (hanswer : x.answer = some (.error e)) :
    x.nextPlace.failed = true := by
  cases h <;> cases hanswer
  rfl

/-- a token takes a piece of what follows -/
theorem exists_piece (h : t.Makes x) {k : Token} (hanswer : x.answer = some (.token k)) : ∃ p v,
    x.place.rest = p ++ v ∧ k.span = ⟨x.place.position, x.place.position + byteLength p⟩ ∧
      x.nextPlace = { rest := v, position := x.place.position + byteLength p } := by
  cases h <;> cases hanswer
  exact ⟨_, _, ‹_›, rfl, rfl⟩

end Tables.Makes

namespace Scanner

variable {s s' s₁ : Scanner} {c c' c₁ : Cursor} {tracing : Bool} {text : List Char} {items later : List Item} {item : Item}
  {front : List Token}

theorem next_moved (p : Nat) (s : Scanner) (c : Cursor) (tracing : Bool) : s.next (c.moved p) tracing =
    ((s.next c tracing).1.map (Option.map (Item.moved p)), (s.next c tracing).2.1, (s.next c tracing).2.2.moved p) := by
  rw [next, next, Tables.step_moved]
  rcases s.tables.step s.mode c tracing with f | (_ | ⟨item, mode, c'⟩) <;> rfl

theorem itemsWithin_moved (p : Nat) (s : Scanner) (c : Cursor) (count : Nat) (tracing : Bool) :
    s.itemsWithin (c.moved p) count tracing =
      ((s.itemsWithin c count tracing).1.map (List.map (Item.moved p)), (s.itemsWithin c count tracing).2.1,
        (s.itemsWithin c count tracing).2.2.moved p) := by
  induction count generalizing s c with
  | zero => rfl
  | succ count ih =>
    rw [itemsWithin, itemsWithin, next_moved]
    rcases s.next c tracing with ⟨f | (_ | item), s', c'⟩
    · rfl
    · rfl
    · simp only [Except.map, Option.map, ih s' c']
      rcases s'.itemsWithin c' count tracing with ⟨f | items, s'', c''⟩ <;> rfl

theorem items_moved (p : Nat) (s : Scanner) (c : Cursor) (tracing : Bool) : s.items (c.moved p) tracing =
    ((s.items c tracing).1.map (List.map (Item.moved p)), (s.items c tracing).2.1, (s.items c tracing).2.2.moved p) :=
  itemsWithin_moved p s c (c.rest.length + 1) tracing

/-! ## The items behind one call -/

/-- a call without an answer changes nothing -/
theorem next_none (h : s.next c tracing = (.ok none, s₁, c₁)) : s₁ = s ∧ c₁ = c := by
  rw [next] at h
  split at h <;> cases h
  exact ⟨rfl, rfl⟩

theorem left_lt_of_next (h : s.next c tracing = (.ok (some item), s₁, c₁)) : c₁.left < c.left :=
  (makes_of_next h).2.left_lt rfl

/-- a token takes a piece of what follows -/
theorem piece_of_next {k : Token} (h : s.next c tracing = (.ok (some (.token k)), s₁, c₁)) : ∃ p v, c.rest = p ++ v ∧
    k.span = ⟨c.position, c.position + byteLength p⟩ ∧ c₁ = { rest := v, position := c.position + byteLength p } :=
  (makes_of_next h).2.exists_piece rfl

/-- it does not matter how many items are allowed, as long as all are -/
theorem itemsWithin_congr {n m : Nat} (hn : c.left < n) (hm : c.left < m) :
    s.itemsWithin c n tracing = s.itemsWithin c m tracing := by
  induction n generalizing m s c with
  | zero => exact absurd hn (Nat.not_lt_zero _)
  | succ n ih =>
    cases m with
    | zero => exact absurd hm (Nat.not_lt_zero _)
    | succ m =>
      rw [itemsWithin, itemsWithin]
      rcases hnext : s.next c tracing with ⟨f | (_ | item), s₁, c₁⟩
      · rfl
      · rfl
      · have hlt := left_lt_of_next hnext
        simp only [ih (Nat.lt_of_lt_of_le hlt (Nat.le_of_lt_succ hn)) (Nat.lt_of_lt_of_le hlt (Nat.le_of_lt_succ hm))]

/-- the items of a scan are those of its first call and of the scan behind it -/
theorem items_cases (h : s.items c tracing = (.ok items, s', c')) : (items = [] ∧ s.next c tracing = (.ok none, s', c')) ∨
    ∃ item later s₁ c₁, items = item :: later ∧ s.next c tracing = (.ok (some item), s₁, c₁) ∧
      s₁.items c₁ tracing = (.ok later, s', c') := by
  rw [Scanner.items, itemsWithin] at h
  rcases hnext : s.next c tracing with ⟨f | (_ | item), s₁, c₁⟩
  · rw [hnext] at h
    cases h
  · rw [hnext] at h
    cases h
    exact Or.inl ⟨rfl, rfl⟩
  · have hlt := left_lt_of_next hnext
    have hlater : s₁.itemsWithin c₁ c.rest.length tracing = s₁.items c₁ tracing :=
      itemsWithin_congr (hlt.trans_le c.left_le) (Nat.lt_succ_of_le c₁.left_le)
    simp only [hnext, hlater] at h
    rcases hitems : s₁.items c₁ tracing with ⟨f | later, s₂, c₂⟩
    · rw [hitems] at h
      cases h
    · rw [hitems] at h
      cases h
      exact Or.inr ⟨item, later, s₁, c₁, rfl, rfl, hitems⟩

/-- a scan ends where there is nothing more to find -/
theorem next_of_items (h : s.items c tracing = (.ok items, s', c')) : s'.next c' tracing = (.ok none, s', c') := by
  induction items generalizing s c with
  | nil =>
    rcases items_cases h with ⟨-, hnext⟩ | ⟨item, later, s₁, c₁, hitems, -⟩
    · obtain ⟨rfl, rfl⟩ := next_none hnext
      exact hnext
    · cases hitems
  | cons item later ih =>
    rcases items_cases h with ⟨hitems, -⟩ | ⟨item', later', s₁, c₁, hitems, -, hlater⟩
    · cases hitems
    · cases hitems
      exact ih hlater

/-- the tokens of a scan come first -/
theorem exists_tokens (h : s.items c tracing = (.ok items, s', c')) :
    ∃ rest, items = (items.filterMap Item.token?).map Item.token ++ rest := by
  induction items generalizing s c with
  | nil => exact ⟨[], rfl⟩
  | cons item later ih =>
    rcases items_cases h with ⟨hitems, -⟩ | ⟨item', later', s₁, c₁, hitems, hnext, hlater⟩
    · cases hitems
    · cases hitems
      cases item with
      | token k =>
        obtain ⟨rest, hrest⟩ := ih hlater
        exact ⟨rest, congrArg (Item.token k :: ·) hrest⟩
      | error e =>
        have hfailed : c₁.failed = true := (makes_of_next hnext).2.failed_of_error rfl
        rw [Scanner.items, itemsWithin_of_failed hfailed] at hlater
        cases hlater
        exact ⟨[.error e], rfl⟩

/-! ## A scan that is left behind a token -/

theorem take_snoc {count : Nat} {found : List (Option Item)} {answer : Option Item} {s₂ : Scanner} {c₂ : Cursor}
    (h : s.take c count tracing = (.ok found, s₁, c₁)) (hnext : s₁.next c₁ tracing = (.ok answer, s₂, c₂)) :
    s.take c (count + 1) tracing = (.ok (found ++ [answer]), s₂, c₂) := by
  induction count generalizing s c found with
  | zero =>
    cases h
    simp only [take, hnext]
    rfl
  | succ count ih =>
    rw [take] at h ⊢
    rcases hfirst : s.next c tracing with ⟨f | first, s₃, c₃⟩
    · rw [hfirst] at h
      cases h
    · rcases htake : s₃.take c₃ count tracing with ⟨f | found', s₄, c₄⟩
      · simp only [hfirst, htake] at h
        cases h
      · simp only [hfirst, htake] at h
        cases h
        simp only [ih htake]
        rfl

/-- a scan of a text that has found tokens: the scanner and the place behind them -/
structure Cut (s : Scanner) (text : List Char) (tracing : Bool) (front : List Token) (s₁ : Scanner) (c₁ : Cursor) : Prop where
  take : s.take (Cursor.ofText text) front.length tracing = (.ok (front.map fun k => some (.token k)), s₁, c₁)
  at_text : c₁.At text
  position : c₁.position = Token.endOf front
  goes : c₁.failed = false

theorem cut_nil (s : Scanner) (text : List Char) (tracing : Bool) : s.Cut text tracing [] s (Cursor.ofText text) :=
  ⟨rfl, Cursor.at_ofText text, rfl, rfl⟩

theorem Cut.snoc {k : Token} {s₂ : Scanner} {c₂ : Cursor} (h : s.Cut text tracing front s₁ c₁)
    (hnext : s₁.next c₁ tracing = (.ok (some (.token k)), s₂, c₂)) : s.Cut text tracing (front ++ [k]) s₂ c₂ := by
  obtain ⟨p, v, hrest, hspan, rfl⟩ := piece_of_next hnext
  refine ⟨?_, h.at_text.append hrest, ?_, rfl⟩
  · rw [List.length_append, List.length_singleton, take_snoc h.take hnext, List.map_append, List.map_singleton]
  · rw [Token.endOf_snoc, hspan]

/-- a scan can be left behind each of its tokens, and then the rest of its items are to come -/
theorem exists_cut (h : s.items (Cursor.ofText text) tracing = (.ok (front.map Item.token ++ later), s', c')) :
    ∃ s₁ c₁, s.Cut text tracing front s₁ c₁ ∧ s₁.items c₁ tracing = (.ok later, s', c') := by
  induction front using List.reverseRecOn generalizing later with
  | nil => exact ⟨s, Cursor.ofText text, cut_nil s text tracing, h⟩
  | append_singleton front k ih =>
    rw [List.map_append, List.append_assoc] at h
    obtain ⟨s₁, c₁, hcut, hitems⟩ := ih h
    rcases items_cases hitems with ⟨hnil, -⟩ | ⟨item, later', s₂, c₂, hcons, hnext, hlater⟩
    · cases hnil
    · cases hcons
      exact ⟨s₂, c₂, hcut.snoc hnext, hlater⟩

/-- the rest of a text, scanned on its own, has the items of a scan that has come to it, nearer to the start -/
theorem items_of_rest (hgoes : c.failed = false) (h : s.items c tracing = (.ok items, s', c')) :
    ∃ near c₁, s.items (Cursor.ofText c.rest) tracing = (.ok near, s', c₁) ∧ items = near.map (Item.moved c.position) := by
  have hmoved := items_moved c.position s (Cursor.ofText c.rest) tracing
  rw [Cursor.moved_ofText hgoes, h] at hmoved
  rcases hrest : s.items (Cursor.ofText c.rest) tracing with ⟨f | near, s₁, c₁⟩
  · rw [hrest] at hmoved
    cases hmoved
  · rw [hrest] at hmoved
    simp only [Prod.mk.injEq, Except.map, Except.ok.injEq] at hmoved
    obtain ⟨hitems, rfl, -⟩ := hmoved
    exact ⟨near, c₁, rfl, hitems⟩

/-- **Restart at a token boundary.** A scan that does not fault, be it traced or not, is left behind any number of its
tokens. Then there is a rest of the text, its scan by the same scanner does not fault, ends in the same mode, and has the
rest of the items, nearer to the start by the bytes that are already scanned. -/
theorem restart (h : s.items (Cursor.ofText text) tracing = (.ok items, s', c')) {k : Nat}
    (hk : k ≤ (items.filterMap Item.token?).length) :
    ∃ front later s₁ c₁ rest c₂, front = (items.filterMap Item.token?).take k ∧
      items = front.map Item.token ++ later ∧
      s.take (Cursor.ofText text) k tracing = (.ok (front.map fun x => some (.token x)), s₁, c₁) ∧
      ByteSpan.dropBytes? (Token.endOf front) text = some rest ∧
      s₁.items (Cursor.ofText rest) tracing = (.ok (later.map (Item.movedBack (Token.endOf front))), s', c₂) ∧
      (later.map (Item.movedBack (Token.endOf front))).map (Item.moved (Token.endOf front)) = later ∧
      s'.next c' tracing = (.ok none, s', c') ∧ s'.next c₂ tracing = (.ok none, s', c₂) := by
  obtain ⟨tail, htail⟩ := exists_tokens h
  have hsplit : items = ((items.filterMap Item.token?).take k).map Item.token ++
      (((items.filterMap Item.token?).drop k).map Item.token ++ tail) := by
    rw [← List.append_assoc, ← List.map_append, List.take_append_drop]
    exact htail
  generalize hfront : (items.filterMap Item.token?).take k = front at hsplit
  generalize ((items.filterMap Item.token?).drop k).map Item.token ++ tail = later at hsplit
  have hlength : front.length = k := by rw [← hfront, List.length_take, Nat.min_eq_left hk]
  obtain ⟨s₁, c₁, hcut, hitems⟩ := exists_cut (hsplit ▸ h)
  obtain ⟨near, c₂, hnear, hlater⟩ := items_of_rest hcut.goes hitems
  rw [hcut.position] at hlater
  have hback : later.map (Item.movedBack (Token.endOf front)) = near := by
    rw [hlater, List.map_map, Item.movedBack_comp_moved, List.map_id]
  refine ⟨front, later, s₁, c₁, c₁.rest, c₂, rfl, hsplit, ?_, ?_, ?_, ?_, next_of_items h, next_of_items hnear⟩
  · rw [← hlength]
    exact hcut.take
  · rw [← hcut.position]
    exact hcut.at_text.dropBytes?
  · rw [hback, hnear]
  · rw [hback, hlater]

/-- tables with a mode for pairs of letters and one for single letters, which take turns; the start state has a token type, no
state is marked as accepting, and no mode has a name. The start state is in the second row, as its place wraps around. -/
def pairs : Tables where
  transitions := #[
    0, 0, 0, 0,
    0, 2, 4, 0,
    0, 3, 3, 0,
    0, 5, 5, 0,
    0, 6, 6, 0,
    0, 0, 0, 0,
    0, 0, 0, 0]
  symbolCount := 4
  accepting := #[]
  tokenTypes := #[none, some 1, none, none, some 0, some 0, some 1]
  tokens := #[⟨"pair", 1⟩, ⟨"single", 0⟩]
  intervals := #[(0x61, 0x7A), (0xE9, 0xE9)]
  errorState := 0
  startState := 2 ^ 62 + 1
  startMode := 0
  modeNames := #[]

/-- two tokens, one of them with a letter of two bytes, and then the rest of the text with a token and an error -/
theorem restart_pairs : ∃ c' s₁ c₁ rest c₂,
    (Scanner.ofTables pairs).items (Cursor.ofText ['a', 'é', 'é', 'b', 'c', '?']) false =
      (.ok [.token ⟨0, 0, ⟨0, 3⟩⟩, .token ⟨1, 1, ⟨3, 5⟩⟩, .token ⟨0, 0, ⟨5, 7⟩⟩, .error (.unexpectedCharacter 7 '?')],
        ⟨pairs, 1⟩, c') ∧
    (Scanner.ofTables pairs).take (Cursor.ofText ['a', 'é', 'é', 'b', 'c', '?']) 2 false =
      (.ok [some (.token ⟨0, 0, ⟨0, 3⟩⟩), some (.token ⟨1, 1, ⟨3, 5⟩⟩)], s₁, c₁) ∧
    ByteSpan.dropBytes? 5 ['a', 'é', 'é', 'b', 'c', '?'] = some rest ∧
    s₁.items (Cursor.ofText rest) false =
      (.ok [.token ⟨0, 0, ⟨0, 2⟩⟩, .error (.unexpectedCharacter 2 '?')], ⟨pairs, 1⟩, c₂) := by
  have hscan : (Scanner.ofTables pairs).items (Cursor.ofText ['a', 'é', 'é', 'b', 'c', '?']) false =
      (.ok [.token ⟨0, 0, ⟨0, 3⟩⟩, .token ⟨1, 1, ⟨3, 5⟩⟩, .token ⟨0, 0, ⟨5, 7⟩⟩, .error (.unexpectedCharacter 7 '?')],
        ⟨pairs, 1⟩, { rest := ['?'], position := 7, failed := true }) := by
    cbv
  have htwo : 2 ≤ ([.token ⟨0, 0, ⟨0, 3⟩⟩, .token ⟨1, 1, ⟨3, 5⟩⟩, .token ⟨0, 0, ⟨5, 7⟩⟩,
      .error (.unexpectedCharacter 7 '?')].filterMap Item.token?).length := by
    decide
  obtain ⟨front, later, s₁, c₁, rest, c₂, rfl, hsplit, htake, hdrop, hitems, -⟩ := restart hscan htwo
  have hlater : [.token ⟨0, 0, ⟨5, 7⟩⟩, .error (.unexpectedCharacter 7 '?')] = later := by simpa [Item.token?] using hsplit
  subst hlater
  exact ⟨_, s₁, c₁, rest, c₂, hscan, htake, hdrop, hitems⟩

end Scanner

end Munch
