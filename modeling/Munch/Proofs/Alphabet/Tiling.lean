/-
When a range is a run of intervals.

The search for the symbols of a range goes from the interval that begins where the range begins to the next one, as long as
these leave no gap and end before the range does. In ascending order it halts at one place only (`Halts`), and what it answers
is decided by where the interval at that place ends. `tilesWithin` is the search as it goes by positions and in numbers up
to a limit: a position that is not there, and a number behind the limit, are faults of their own, and it never meets them.

Results:
- `exists_halts`, `tiles_of_halts`: the search halts, and the interval where it does decides the answer.
- `Makes.halts`, `BreaksOff.halts`: a run that is the range, and one that breaks off before the end, are where it halts.
- `tilesWithin_eq`: the search by positions is the search.
- `tiles_decides`: the answers, for all ranges and all ascending intervals.
-/
import Mathlib.Tactic
import Munch.Proofs.Alphabet.Coarsest

namespace Munch

namespace Interval

variable {alphabet : Array Interval} {start stop limit i j k : Nat} {x y : Interval}

/-! ## Runs by their positions -/

/-- the interval at the position begins at the point -/
def BeginsAt (alphabet : Array Interval) (i start : Nat) : Prop :=
  ∃ x, alphabet[i]? = some x ∧ x.start = start

/-- the interval at the position ends at the point -/
def EndsAt (alphabet : Array Interval) (j stop : Nat) : Prop :=
  ∃ x, alphabet[j]? = some x ∧ x.stop = stop

/-- the interval at the position ends before the point -/
def EndsBefore (alphabet : Array Interval) (j stop : Nat) : Prop :=
  ∃ x, alphabet[j]? = some x ∧ x.stop < stop

/-- behind the interval at the position begins another one without a gap -/
def Adjoins (alphabet : Array Interval) (k : Nat) : Prop :=
  ∃ x y, alphabet[k]? = some x ∧ alphabet[k + 1]? = some y ∧ y.start = x.stop + 1

/-- there is no gap between the intervals from `i` to `j` -/
def Gapless (alphabet : Array Interval) (i j : Nat) : Prop :=
  ∀ k, i ≤ k → k < j → Adjoins alphabet k

/-- the range is the run of the intervals from `i` to `j` -/
structure Makes (alphabet : Array Interval) (start stop i j : Nat) : Prop where
  le : i ≤ j
  begins : BeginsAt alphabet i start
  ends : EndsAt alphabet j stop
  gapless : Gapless alphabet i j

/-- the run from the beginning of the range on meets a gap, or the end of the alphabet, behind `j` and before `stop` -/
structure BreaksOff (alphabet : Array Interval) (start stop i j : Nat) : Prop where
  le : i ≤ j
  begins : BeginsAt alphabet i start
  gapless : Gapless alphabet i j
  ends : EndsBefore alphabet j stop
  gap : ¬Adjoins alphabet j

/-- going from `i` on as long as intervals adjoin and end before `stop` ends at `j` -/
structure Halts (alphabet : Array Interval) (stop i j : Nat) : Prop where
  le : i ≤ j
  goes : ∀ k, i ≤ k → k < j → Adjoins alphabet k ∧ EndsBefore alphabet k stop
  there : j < alphabet.size
  halts : ¬(Adjoins alphabet j ∧ EndsBefore alphabet j stop)

theorem BeginsAt.lt (h : BeginsAt alphabet i start) : i < alphabet.size := by
  obtain ⟨x, hx, -⟩ := h
  exact (Array.getElem?_eq_some_iff.1 hx).1

theorem Adjoins.lt (h : Adjoins alphabet k) : k + 1 < alphabet.size := by
  obtain ⟨x, y, -, hy, -⟩ := h
  exact (Array.getElem?_eq_some_iff.1 hy).1

/-- an interval ends before a later one does -/
theorem Ascending.endsBefore (h : Ascending alphabet) (hkj : k < j) (hj : j < alphabet.size) (hle : alphabet[j].stop ≤ stop) :
    EndsBefore alphabet k stop := by
  have hk : alphabet[k]? = some alphabet[k] := Array.getElem?_eq_getElem (hkj.trans hj)
  have hlt := h.stop_lt_start hk (Array.getElem?_eq_getElem hj) hkj
  have := alphabet[j].start_le_stop
  exact ⟨alphabet[k], hk, by omega⟩

/-! ## Where the search halts -/

theorem exists_halts (stop : Nat) (hi : i < alphabet.size) : ∃ j, Halts alphabet stop i j := by
  classical
  -- no interval adjoins the last one
  have hex : ∃ k, i ≤ k ∧ ¬(Adjoins alphabet k ∧ EndsBefore alphabet k stop) :=
    ⟨alphabet.size, hi.le, fun h => by have := h.1.lt; omega⟩
  have hfirst {k : Nat} (hik : i ≤ k) (hk : k < Nat.find hex) : Adjoins alphabet k ∧ EndsBefore alphabet k stop := by
    by_contra hnot
    exact Nat.find_min hex hk ⟨hik, hnot⟩
  refine ⟨Nat.find hex, (Nat.find_spec hex).1, fun k => hfirst, ?_, (Nat.find_spec hex).2⟩
  rcases Nat.eq_or_lt_of_le (Nat.find_spec hex).1 with he | hlt
  · rwa [← he]
  · have hlast : Nat.find hex - 1 < Nat.find hex := by omega
    have := (hfirst (by omega) hlast).1.lt
    omega

theorem Makes.halts (h : Ascending alphabet) (hm : Makes alphabet start stop i j) : Halts alphabet stop i j := by
  obtain ⟨x, hx, rfl⟩ := hm.ends
  obtain ⟨hj, rfl⟩ := Array.getElem?_eq_some_iff.1 hx
  refine ⟨hm.le, ?_, hj, ?_⟩
  · intro k hik hkj
    exact ⟨hm.gapless k hik hkj, h.endsBefore hkj hj le_rfl⟩
  · intro hgoes
    obtain ⟨y, hy, hlt⟩ := hgoes.2
    rw [hx] at hy
    cases hy
    omega

theorem BreaksOff.halts (h : Ascending alphabet) (hb : BreaksOff alphabet start stop i j) : Halts alphabet stop i j := by
  obtain ⟨x, hx, hlt⟩ := hb.ends
  obtain ⟨hj, rfl⟩ := Array.getElem?_eq_some_iff.1 hx
  refine ⟨hb.le, ?_, hj, fun hgoes => hb.gap hgoes.1⟩
  intro k hik hkj
  exact ⟨hb.gapless k hik hkj, h.endsBefore hkj hj hlt.le⟩

/-- what the search from position `i` on answers if it halts at `j` -/
def verdict (start stop i j : Nat) (last : Interval) : Except Fault (List Nat) :=
  if last.stop < stop then .error (.notTiled start stop)
  else if last.stop = stop then .ok (List.range' i (j + 1 - i))
  else .error (.offEnd start stop)

theorem map_verdict (hij : i < j) : (verdict start stop (i + 1) j x).map (i :: ·) = verdict start stop i j x := by
  have hrange : i :: List.range' (i + 1) (j + 1 - (i + 1)) = List.range' i (j + 1 - i) := by
    rw [show j + 1 - i = j + 1 - (i + 1) + 1 by omega, List.range'_succ]
  unfold verdict
  split_ifs
  · rfl
  · exact congrArg Except.ok hrange
  · rfl

theorem drop_eq_cons (hx : alphabet[k]? = some x) : alphabet.toList.drop k = x :: alphabet.toList.drop (k + 1) := by
  obtain ⟨hk, rfl⟩ := Array.getElem?_eq_some_iff.1 hx
  exact List.drop_eq_getElem_cons hk

/-- where the search halts there is no interval to go on to -/
theorem run_of_not_goes (hx : alphabet[j]? = some x) (h : ¬(Adjoins alphabet j ∧ EndsBefore alphabet j stop)) :
    run start stop x j (alphabet.toList.drop (j + 1)) = verdict start stop j j x := by
  have hone : List.range' j (j + 1 - j) = [j] := by
    rw [Nat.add_sub_cancel_left]
    rfl
  cases hrest : alphabet.toList.drop (j + 1) with
  | nil => rw [run, verdict, hone]
  | cons next rest =>
    have hnext : alphabet[j + 1]? = some next := by
      have := congrArg List.head? hrest
      rwa [List.head?_drop, List.head?_cons, Array.getElem?_toList] at this
    rw [run, verdict, hone]
    split_ifs with hlt hadjoins
    · exact absurd ⟨⟨x, next, hx, hnext, hadjoins⟩, x, hx, hlt⟩ h
    · rfl
    · rfl
    · rfl

theorem run_of_halts (h : Halts alphabet stop i j) (hx : alphabet[i]? = some x) (hy : alphabet[j]? = some y) :
    run start stop x i (alphabet.toList.drop (i + 1)) = verdict start stop i j y := by
  obtain ⟨n, rfl⟩ := Nat.exists_eq_add_of_le h.le
  induction n generalizing i x with
  | zero =>
    rw [Nat.add_zero, hx] at hy
    cases hy
    exact run_of_not_goes hx h.halts
  | succ n ih =>
    obtain ⟨⟨x', next, hx', hnext, hadjoins⟩, x'', hx'', hlt⟩ := h.goes i le_rfl (by omega)
    rw [hx] at hx' hx''
    cases hx'
    cases hx''
    have hj : i + 1 + n = i + (n + 1) := by omega
    have hrest : Halts alphabet stop (i + 1) (i + 1 + n) := by
      rw [hj]
      exact ⟨by omega, fun k hik hk => h.goes k (by omega) hk, h.there, h.halts⟩
    rw [drop_eq_cons hnext, run, if_pos hlt, if_pos hadjoins, ih hnext hrest (by rwa [hj]), hj, map_verdict (by omega)]

/-- the search from where the range begins is decided by the interval where it halts -/
theorem tiles_of_halts (h : Ascending alphabet) (hb : BeginsAt alphabet i start) (hh : Halts alphabet stop i j)
    (hy : alphabet[j]? = some y) : tiles alphabet start stop = verdict start stop i j y := by
  have hi : startingAt? alphabet start = some i := (startingAt?_eq_some_iff h).2 hb
  obtain ⟨x, hx, -⟩ := hb
  simp only [tiles, hi, drop_eq_cons hx]
  exact run_of_halts hh hx hy

theorem tiles_of_not_beginsAt (h : Ascending alphabet) (hb : ∀ i, ¬BeginsAt alphabet i start) :
    tiles alphabet start stop = .error (.offStart start stop) := by
  have hnone : startingAt? alphabet start = none :=
    Option.eq_none_iff_forall_ne_some.2 fun i hi => hb i ((startingAt?_eq_some_iff h).1 hi)
  rw [tiles, hnone]

/-! ## The answers -/

/-- when an answer is due: the run that is the range, or what the range lacks -/
def Due (alphabet : Array Interval) (start stop : Nat) : Except Fault (List Nat) → Prop
  | .ok symbols => ∃ i j, Makes alphabet start stop i j ∧ symbols = List.range' i (j + 1 - i)
  | .error f =>
    f = .offStart start stop ∧ (∀ i, ¬BeginsAt alphabet i start) ∨
      f = .notTiled start stop ∧ (∃ i j, BreaksOff alphabet start stop i j) ∨
      f = .offEnd start stop ∧ (∃ i, BeginsAt alphabet i start) ∧ (¬∃ i j, Makes alphabet start stop i j) ∧
        ¬∃ i j, BreaksOff alphabet start stop i j

theorem tiles_of_makes (h : Ascending alphabet) (hm : Makes alphabet start stop i j) :
    tiles alphabet start stop = .ok (List.range' i (j + 1 - i)) := by
  obtain ⟨y, hy, hstop⟩ := hm.ends
  rw [tiles_of_halts h hm.begins (hm.halts h) hy, verdict, if_neg (by omega), if_pos hstop]

theorem tiles_of_breaksOff (h : Ascending alphabet) (hb : BreaksOff alphabet start stop i j) :
    tiles alphabet start stop = .error (.notTiled start stop) := by
  obtain ⟨y, hy, hlt⟩ := hb.ends
  rw [tiles_of_halts h hb.begins (hb.halts h) hy, verdict, if_pos hlt]

/-- the search halts at the end of the range, before a gap, or at an interval that reaches too far -/
theorem Halts.cases (hh : Halts alphabet stop i j) (hb : BeginsAt alphabet i start) (hy : alphabet[j]? = some y) :
    Makes alphabet start stop i j ∨ BreaksOff alphabet start stop i j ∨ stop < y.stop := by
  have hgapless : Gapless alphabet i j := fun k hik hkj => (hh.goes k hik hkj).1
  rcases Nat.lt_trichotomy y.stop stop with hlt | heq | hgt
  · exact Or.inr (Or.inl ⟨hh.le, hb, hgapless, ⟨y, hy, hlt⟩, fun hadjoins => hh.halts ⟨hadjoins, y, hy, hlt⟩⟩)
  · exact Or.inl ⟨hh.le, hb, ⟨y, hy, heq⟩, hgapless⟩
  · exact Or.inr (Or.inr hgt)

/-- a range that begins where an interval does, and is no run and breaks off nowhere, ends inside an interval -/
theorem tiles_of_otherwise (h : Ascending alphabet) (hb : BeginsAt alphabet i start)
    (hmakes : ¬∃ i j, Makes alphabet start stop i j) (hbreaks : ¬∃ i j, BreaksOff alphabet start stop i j) :
    tiles alphabet start stop = .error (.offEnd start stop) := by
  obtain ⟨j, hh⟩ := exists_halts stop hb.lt
  have hy := Array.getElem?_eq_getElem hh.there
  rcases hh.cases hb hy with hm | hbreak | hgt
  · exact absurd ⟨i, j, hm⟩ hmakes
  · exact absurd ⟨i, j, hbreak⟩ hbreaks
  · rw [tiles_of_halts h hb hh hy, verdict, if_neg (by omega), if_neg (by omega)]

theorem tiles_of_due (h : Ascending alphabet) {answer : Except Fault (List Nat)} (hd : Due alphabet start stop answer) :
    tiles alphabet start stop = answer := by
  cases answer with
  | ok symbols =>
    obtain ⟨i, j, hm, rfl⟩ := hd
    exact tiles_of_makes h hm
  | error f =>
    rcases hd with ⟨rfl, hnone⟩ | ⟨rfl, i, j, hb⟩ | ⟨rfl, ⟨i, hi⟩, hmakes, hbreaks⟩
    · exact tiles_of_not_beginsAt h hnone
    · exact tiles_of_breaksOff h hb
    · exact tiles_of_otherwise h hi hmakes hbreaks

/-- an answer is always due -/
theorem exists_due (alphabet : Array Interval) (start stop : Nat) : ∃ answer, Due alphabet start stop answer := by
  by_cases hbegins : ∃ i, BeginsAt alphabet i start
  · by_cases hmakes : ∃ i j, Makes alphabet start stop i j
    · obtain ⟨i, j, hm⟩ := hmakes
      exact ⟨.ok _, i, j, hm, rfl⟩
    · by_cases hbreaks : ∃ i j, BreaksOff alphabet start stop i j
      · exact ⟨.error _, Or.inr (Or.inl ⟨rfl, hbreaks⟩)⟩
      · exact ⟨.error _, Or.inr (Or.inr ⟨rfl, hbegins, hmakes, hbreaks⟩)⟩
  · exact ⟨.error _, Or.inl ⟨rfl, not_exists.1 hbegins⟩⟩

theorem tiles_eq_iff_due (h : Ascending alphabet) {answer : Except Fault (List Nat)} :
    tiles alphabet start stop = answer ↔ Due alphabet start stop answer := by
  constructor
  · rintro rfl
    obtain ⟨answer, hd⟩ := exists_due alphabet start stop
    rwa [tiles_of_due h hd]
  · exact tiles_of_due h

/-- a range that ends before it begins is refused for its end, if an interval begins where it does -/
theorem tiles_of_lt (h : Ascending alphabet) (hlt : stop < start) (hb : BeginsAt alphabet i start) :
    tiles alphabet start stop = .error (.offEnd start stop) := by
  obtain ⟨x, hx, rfl⟩ := hb
  have := x.start_le_stop
  have hh : Halts alphabet stop i i := by
    refine ⟨le_rfl, fun k hik hki => by omega, (Array.getElem?_eq_some_iff.1 hx).1, ?_⟩
    rintro ⟨-, y, hy, hstop⟩
    rw [hx] at hy
    cases hy
    omega
  rw [tiles_of_halts h ⟨x, hx, rfl⟩ hh hx, verdict, if_neg (by omega), if_neg (by omega)]

/-- the run that is found holds the points of the range and no others -/
theorem contains_iff_of_tiles (h : Ascending alphabet) {symbols : List Nat} (ht : tiles alphabet start stop = .ok symbols)
    {c : Nat} : (start ≤ c ∧ c ≤ stop) ↔ ∃ s ∈ symbols, ∃ x, alphabet[s]? = some x ∧ x.contains c = true := by
  have hle : start ≤ stop := by
    by_contra hlt
    obtain ⟨i, j, hm, -⟩ := (tiles_eq_iff_due h).1 ht
    rw [tiles_of_lt h (by omega) hm.begins] at ht
    cases ht
  have hsymbols : (Alphabet.mk alphabet).symbolsOf ⟨start, stop, hle⟩ = .ok symbols := ht
  have hcontains := Alphabet.contains_iff_of_symbolsOf (a := ⟨alphabet⟩) h hsymbols (c := c)
  rw [contains_iff] at hcontains
  simp only [Alphabet.symbolOf?_eq_some_iff (a := ⟨alphabet⟩) h] at hcontains
  exact hcontains

/-! ## Positions and numbers up to a limit -/

/-- the search from a position on, where the position has to be there and no number is behind the limit -/
def runWithin (limit : Nat) (alphabet : Array Interval) (start stop index : Nat) : Except Fault (List Nat) :=
  match alphabet[index]? with
  | none => .error .outOfRange
  | some current =>
    if current.stop < stop then
      if h : index + 1 < alphabet.size then
        match behind? limit current.stop with
        | none => .error .outOfRange
        | some point =>
          if alphabet[index + 1].start = point then (runWithin limit alphabet start stop (index + 1)).map (index :: ·)
          else .error (.notTiled start stop)
      else .error (.notTiled start stop)
    else if current.stop = stop then .ok [index]
    else .error (.offEnd start stop)
termination_by alphabet.size - index

/-- the search for the run of a range by positions and in numbers up to a limit -/
def tilesWithin (limit : Nat) (alphabet : Array Interval) (start stop : Nat) : Except Fault (List Nat) :=
  match startingAt? alphabet start with
  | none => .error (.offStart start stop)
  | some index => runWithin limit alphabet start stop index

/-- what ends before a point up to the limit has a number behind its end -/
theorem runWithin_eq (hle : stop ≤ limit) (hx : alphabet[i]? = some x) :
    runWithin limit alphabet start stop i = run start stop x i (alphabet.toList.drop (i + 1)) := by
  generalize hn : alphabet.size - i = n
  induction n generalizing i x with
  | zero =>
    have := (Array.getElem?_eq_some_iff.1 hx).1
    omega
  | succ n ih =>
    rw [runWithin, hx]
    by_cases h : i + 1 < alphabet.size
    · have hnext : alphabet[i + 1]? = some alphabet[i + 1] := Array.getElem?_eq_getElem h
      rw [drop_eq_cons hnext, run]
      by_cases hlt : x.stop < stop
      · have hpoint : behind? limit x.stop = some (x.stop + 1) := if_pos (by omega)
        simp only [if_pos hlt, dif_pos h, hpoint, ih hnext (by omega)]
      · simp only [if_neg hlt]
    · have hlast : alphabet.toList.drop (i + 1) = [] := List.drop_eq_nil_of_le (by simpa using h)
      simp only [hlast, run, dif_neg h]

theorem exists_of_startingAt? (hi : startingAt? alphabet start = some i) : ∃ x, alphabet[i]? = some x := by
  unfold startingAt? at hi
  simp only at hi
  split at hi
  case isTrue h =>
    obtain rfl := Option.some.inj hi
    obtain ⟨x, hx, -⟩ := (Option.any_eq_true _ _).1 h
    exact ⟨x, hx⟩
  case isFalse => cases hi

/-- the search meets neither a position that is not there nor a number behind the limit -/
theorem tilesWithin_eq (hle : stop ≤ limit) : tilesWithin limit alphabet start stop = tiles alphabet start stop := by
  unfold tilesWithin tiles
  cases hi : startingAt? alphabet start with
  | none => rfl
  | some i =>
    obtain ⟨x, hx⟩ := exists_of_startingAt? hi
    simp only [drop_eq_cons hx]
    exact runWithin_eq hle hx

/-! ## Messages -/

/-- the message of a refusal -/
def complaint? : Except Fault (List Nat) → Option String
  | .ok _ => none
  | .error f => f.message?

/-- the message about a range that a reason completes -/
def rangeMessage (start stop : Nat) (reason : String) : String :=
  "Interval " ++ Fault.rangeText start stop ++ reason

/-- the refusals of a range -/
def refusals (start stop : Nat) : List Fault :=
  [.offStart start stop, .notTiled start stop, .offEnd start stop]

/-- each refusal gives a reason of its own -/
theorem nodup_messages (start stop : Nat) : ((refusals start stop).map Fault.message?).Nodup := by
  have hreasons : (refusals start stop).map Fault.message? =
      [" does not start on an alphabet boundary", " is not tiled by the alphabet",
        " does not end on an alphabet boundary"].map fun reason => some (rangeMessage start stop reason) := rfl
  rw [hreasons]
  refine List.Nodup.map ?_ (by decide)
  intro a b hab
  exact (String.append_right_inj _).1 (Option.some.inj hab)

theorem complaint?_eq_iff {answer : Except Fault (List Nat)} {f : Fault}
    (ha : ∀ g, answer = .error g → g ∈ refusals start stop) (hf : f ∈ refusals start stop) :
    complaint? answer = f.message? ↔ answer = .error f := by
  constructor
  · intro hmessage
    cases answer with
    | ok symbols =>
      have hsome : ∀ g ∈ refusals start stop, g.message? ≠ none := by simp [refusals, Fault.message?]
      exact absurd hmessage.symm (hsome f hf)
    | error g =>
      exact congrArg Except.error (List.inj_on_of_nodup_map (nodup_messages start stop) (ha g rfl) hf hmessage)
  · rintro rfl
    rfl

/-! ## The search -/

/-- what the search for a range in an alphabet answers -/
structure Decides (alphabet : Array Interval) (start stop : Nat) (answer : Except Fault (List Nat)) : Prop where
  ok_iff : ∀ symbols, answer = .ok symbols ↔
    ∃ i j, Makes alphabet start stop i j ∧ symbols = List.range' i (j + 1 - i)
  covers : ∀ symbols, answer = .ok symbols →
    ∀ c, (start ≤ c ∧ c ≤ stop) ↔ ∃ s ∈ symbols, ∃ x, alphabet[s]? = some x ∧ x.contains c = true
  refuses : ∀ f, answer = .error f → f ∈ refusals start stop
  offStart_iff : complaint? answer = some (rangeMessage start stop " does not start on an alphabet boundary") ↔
    ∀ i, ¬BeginsAt alphabet i start
  notTiled_iff : complaint? answer = some (rangeMessage start stop " is not tiled by the alphabet") ↔
    ∃ i j, BreaksOff alphabet start stop i j
  offEnd_iff : complaint? answer = some (rangeMessage start stop " does not end on an alphabet boundary") ↔
    (∃ i, BeginsAt alphabet i start) ∧ (¬∃ i j, Makes alphabet start stop i j) ∧
      ¬∃ i j, BreaksOff alphabet start stop i j
  /-- the ends may be given in the wrong order -/
  reversed : stop < start → (∃ i, BeginsAt alphabet i start) → answer = .error (.offEnd start stop)

/-- **The search for a run.** In ascending intervals the search finds a range if and only if an interval begins where the
range does, one ends where it does, and there is no gap between them; it finds the intervals from the one to the other, which
hold the points of the range. It refuses all other ranges for one of three reasons, and says which one it is. It needs no
position outside of the intervals and no number behind the end of the range. -/
theorem tiles_decides (h : Ascending alphabet) (hle : stop ≤ limit) (start : Nat) :
    tilesWithin limit alphabet start stop = tiles alphabet start stop ∧
      Decides alphabet start stop (tiles alphabet start stop) := by
  have hdue {answer : Except Fault (List Nat)} : tiles alphabet start stop = answer ↔ Due alphabet start stop answer :=
    tiles_eq_iff_due h
  have hrefuses : ∀ f, tiles alphabet start stop = .error f → f ∈ refusals start stop := by
    intro f hf
    rcases hdue.1 hf with ⟨rfl, -⟩ | ⟨rfl, -⟩ | ⟨rfl, -⟩ <;> simp [refusals]
  have hmessage {f : Fault} (hf : f ∈ refusals start stop) :
      complaint? (tiles alphabet start stop) = f.message? ↔ Due alphabet start stop (.error f) :=
    (complaint?_eq_iff hrefuses hf).trans hdue
  refine ⟨tilesWithin_eq hle, ?_⟩
  exact
    { ok_iff := fun _ => hdue
      covers := fun _ ht _ => contains_iff_of_tiles h ht
      refuses := hrefuses
      offStart_iff := (hmessage (f := .offStart start stop) (by simp [refusals])).trans (by simp [Due])
      notTiled_iff := (hmessage (f := .notTiled start stop) (by simp [refusals])).trans (by simp [Due])
      offEnd_iff := (hmessage (f := .offEnd start stop) (by simp [refusals])).trans (by simp [Due])
      reversed := fun hlt ⟨_, hb⟩ => tiles_of_lt h hlt hb }

/-- three neighbours, and behind gaps one code point and all that is left of 32 bits -/
def stretches : Array Interval :=
  #[⟨5, 14, by decide⟩, ⟨15, 19, by decide⟩, ⟨20, 30, by decide⟩, ⟨50, 50, by decide⟩, ⟨80, 4294967295, by decide⟩]

theorem makes_stretches : Makes stretches 5 30 0 2 where
  le := by decide
  begins := ⟨_, rfl, rfl⟩
  ends := ⟨_, rfl, rfl⟩
  gapless k _ hk := by
    match k with
    | 0 | 1 => exact ⟨_, _, rfl, rfl, rfl⟩
    | k + 2 => omega

theorem breaksOff_stretches : BreaksOff stretches 15 4294967295 1 2 where
  le := by decide
  begins := ⟨_, rfl, rfl⟩
  gapless k hk hk' := by
    obtain rfl : k = 1 := by omega
    exact ⟨_, _, rfl, rfl, rfl⟩
  ends := ⟨_, rfl, by decide⟩
  gap := by
    rintro ⟨x, y, hx, hy, hxy⟩
    cases hx
    cases hy
    cases hxy

/-- the neighbours are found, and a range up to the last point of 32 bits is refused for the gap behind them -/
theorem tiles_decides_stretches : Ascending stretches ∧ 4294967295 ≤ 4294967295 ∧
    tilesWithin 4294967295 stretches 5 30 = .ok [0, 1, 2] ∧
    complaint? (tilesWithin 4294967295 stretches 15 4294967295) =
      some "Interval [0xf, 0xffffffff] is not tiled by the alphabet" ∧
    tiles stretches 20 7 = .error (.offEnd 20 7) := by
  have hasc : Ascending stretches := by
    rw [Ascending]
    decide
  have hle : 30 ≤ 4294967295 := by decide
  obtain ⟨hwithin, hfound⟩ := tiles_decides hasc hle 5
  obtain ⟨hwithin', hgap⟩ := tiles_decides hasc (le_refl 4294967295) 15
  obtain ⟨-, hend⟩ := tiles_decides hasc (le_refl 7) 20
  refine ⟨hasc, le_rfl, ?_, ?_, ?_⟩
  · rw [hwithin]
    exact (hfound.ok_iff _).2 ⟨0, 2, makes_stretches, rfl⟩
  · rw [hwithin', hgap.notTiled_iff.2 ⟨1, 2, breaksOff_stretches⟩]
    cbv
  · exact hend.reversed (by decide) ⟨2, _, rfl, rfl⟩

end Interval

end Munch
