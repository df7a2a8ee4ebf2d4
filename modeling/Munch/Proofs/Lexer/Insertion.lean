/-
Bounds at each insertion.

When an edge is put into an automaton, its target has to be a state and its label no input or a symbol of the automaton; a
state that is to accept has to be there as well. That all of this is there in the end would not say so: a state may be added
behind an edge that leads to it. `Assembly.ofDescriptionWithin` is `Assembly.ofDescription` with a check at each insertion,
and where the modes of a description fit together no check fails.

Results:
- `compileWithin_eq`: the automaton of an expression is put together within the bounds.
- `addRuleWithin_eq`, `addModeWithin_eq`: so are a rule and a part of a mode.
- `ofDescriptionWithin_eq`: so is the automaton of a description.
-/
import Mathlib.Tactic
import Munch.Proofs.Lexer.Assembly

namespace Munch

/-- two steps, one of them with checks, go on alike from what the first of them gives -/
theorem bind_congr_of_ok {ε α β : Type} {x y : Except ε α} {f g : α → Except ε β} (h : x = y)
    (hfg : ∀ a, y = .ok a → f a = g a) : x >>= f = y >>= g := by
  subst h
  cases x with
  | error e => rfl
  | ok a => exact hfg a rfl

/-! ## Insertions with checks -/

/-- no input, or one of so many symbols -/
def Label.fits (size : Nat) : Label → Bool
  | epsilon => true
  | symbol n => decide (n < size)

namespace Automaton

/-- one more edge, if its label and its target are there -/
def connectWithin (m : Automaton) (p : Nat) (label : Label) (q : Nat) : Except Fault Automaton :=
  if label.fits m.alphabetSize ∧ q < m.stateCount then m.connect p label q else .error .outOfRange

/-- `q` accepts, if it is there -/
def acceptWithin (m : Automaton) (q : Nat) (token : Option Nat) : Except Fault Automaton :=
  if q < m.stateCount then .ok (m.accept q token) else .error .outOfRange

/-- `connectAll` with checks -/
def connectAllWithin (m : Automaton) (p : Nat) (symbols : List Nat) (q : Nat) : Except Fault Automaton :=
  symbols.foldlM (fun m a => m.connectWithin p (.symbol a) q) m

/-- `connectSet` with checks -/
def connectSetWithin (m : Automaton) (alphabet : Alphabet) (p : Nat) (intervals : List Interval) (q : Nat) :
    Except Fault Automaton :=
  intervals.foldlM (fun m i => do m.connectAllWithin p (← alphabet.symbolsOf i) q) m

end Automaton

/-- `Regex.compile` with checks -/
def Regex.compileWithin (alphabet : Alphabet) : Regex → Nat → Automaton → Except Fault (Nat × Automaton)
  | set is, start, m => do
    let stop := m.stateCount
    let m ← m.addState.connectSetWithin alphabet start is stop
    return (stop, m)
  | cat a b, start, m => do
    let (middle, m) ← a.compileWithin alphabet start m
    b.compileWithin alphabet middle m
  | alt a b, start, m => do
    let left := m.stateCount
    let right := left + 1
    let m ← m.addState.addState.connectWithin start .epsilon left
    let m ← m.connectWithin start .epsilon right
    let (leftStop, m) ← a.compileWithin alphabet left m
    let (rightStop, m) ← b.compileWithin alphabet right m
    let stop := m.stateCount
    let m ← m.addState.connectWithin leftStop .epsilon stop
    let m ← m.connectWithin rightStop .epsilon stop
    return (stop, m)
  | opt a, start, m => do
    let (stop, m) ← a.compileWithin alphabet start m
    let m ← m.connectWithin start .epsilon stop
    return (stop, m)
  | plus a, start, m => do
    let first := m.stateCount
    let m ← m.addState.connectWithin start .epsilon first
    let (last, m) ← a.compileWithin alphabet first m
    let stop := m.stateCount
    let m ← m.addState.connectWithin last .epsilon first
    let m ← m.connectWithin last .epsilon stop
    return (stop, m)
  | star a, start, m => do
    let first := m.stateCount
    let m ← m.addState.connectWithin start .epsilon first
    let (last, m) ← a.compileWithin alphabet first m
    let stop := m.stateCount
    let m ← m.addState.connectWithin last .epsilon first
    let m ← m.connectWithin last .epsilon stop
    let m ← m.connectWithin first .epsilon stop
    return (stop, m)

namespace Assembly

/-- `addRule` with checks -/
def addRuleWithin (alphabet : Alphabet) (modeState : Nat) (a : Assembly) (r : Rule Regex) : Except Fault Assembly := do
  let first := a.nfa.stateCount
  let nfa ← a.nfa.addState.connectWithin modeState .epsilon first
  let (last, nfa) ← r.expr.compileWithin alphabet first nfa
  let nfa ← nfa.acceptWithin last (some a.tokens.length)
  let (next, a) := { a with nfa := nfa }.modeIndex r.next
  return { a with tokens := a.tokens ++ [{ name := r.name, mode := next }] }

/-- `addMode` with checks -/
def addModeWithin (alphabet : Alphabet) (a : Assembly) (m : Mode Regex) : Except Fault Assembly := do
  let (mode, a) := a.modeIndex m.name
  let (state, a) := a.modeState mode
  let nfa ← a.nfa.connectWithin a.nfa.start (.symbol mode) state
  m.rules.foldlM (addRuleWithin alphabet state) { a with nfa := nfa }

/-- `ofDescription` with checks -/
def ofDescriptionWithin (d : Description Regex) (alphabet : Alphabet) : Except BuildError Assembly :=
  match d.modeError? with
  | some e => .error (.modes e)
  | none =>
    match d.modes.foldlM (addModeWithin alphabet) (initial d alphabet) with
    | .ok a => .ok (a.chooseStart d.startMode)
    | .error f => .error (.fault f)

end Assembly

/-! ## Expressions -/

namespace Automaton

variable {m m' : Automaton} {alphabet : Alphabet} {p q start stop : Nat}

theorem connectWithin_epsilon (hq : q < m.stateCount) : m.connectWithin p .epsilon q = m.connect p .epsilon q :=
  if_pos ⟨rfl, hq⟩

theorem connectWithin_symbol {s : Nat} (hs : s < m.alphabetSize) (hq : q < m.stateCount) :
    m.connectWithin p (.symbol s) q = m.connect p (.symbol s) q :=
  if_pos ⟨decide_eq_true hs, hq⟩

theorem acceptWithin_eq (hq : q < m.stateCount) (token : Option Nat) :
    m.acceptWithin q token = .ok (m.accept q token) :=
  if_pos hq

theorem stateCount_of_connect {label : Label} (h : m.connect p label q = .ok m') : m'.stateCount = m.stateCount := by
  obtain ⟨-, rfl⟩ := of_connect_eq_ok h
  exact stateCount_addEdge m p label q

theorem alphabetSize_of_connect {label : Label} (h : m.connect p label q = .ok m') :
    m'.alphabetSize = m.alphabetSize := by
  obtain ⟨-, rfl⟩ := of_connect_eq_ok h
  rfl

theorem connectAllWithin_eq {symbols : List Nat} (hs : ∀ s ∈ symbols, s < m.alphabetSize) (hq : q < m.stateCount) :
    m.connectAllWithin p symbols q = m.connectAll p symbols q := by
  induction symbols generalizing m with
  | nil => rfl
  | cons s symbols ih =>
    obtain ⟨hs, hrest⟩ := List.forall_mem_cons.1 hs
    refine bind_congr_of_ok (connectWithin_symbol hs hq) fun m1 h1 => ?_
    apply ih
    · rwa [alphabetSize_of_connect h1]
    · rwa [stateCount_of_connect h1]

theorem connectSetWithin_eq (ha : alphabet.size ≤ m.alphabetSize) (hp : p < m.stateCount) (hq : q < m.stateCount)
    (intervals : List Interval) : m.connectSetWithin alphabet p intervals q = m.connectSet alphabet p intervals q := by
  induction intervals generalizing m with
  | nil => rfl
  | cons i intervals ih =>
    refine bind_congr_of_ok (bind_congr_of_ok rfl fun symbols hsymbols => ?_) fun m1 h1 => ?_
    · apply connectAllWithin_eq _ hq
      intro s hs
      exact (Alphabet.lt_size_of_symbolsOf hsymbols hs).trans_le ha
    · obtain ⟨symbols, -, h1⟩ := exists_of_bind_eq_ok h1
      obtain ⟨m1', h1', hcount, hext⟩ := Extends.connectAll hp symbols q
      rw [h1] at h1'
      cases h1'
      exact ih (hext.alphabetSize ▸ ha) (hcount ▸ hp) (hcount ▸ hq)

theorem of_compile_eq_ok {r : Regex} (hr : r.TiledBy alphabet) (hs : start < m.stateCount)
    (h : r.compile alphabet start m = .ok (stop, m')) :
    m.stateCount ≤ m'.stateCount ∧ stop < m'.stateCount ∧ m'.alphabetSize = m.alphabetSize := by
  obtain ⟨stop', n, F, hn, hF⟩ := compiles_of_tiledBy hr hs
  rw [h] at hn
  cases hn
  exact ⟨hF.le, hF.piece.stop_new.2, hF.alphabetSize⟩

/-- a choice is put together within the bounds, if both of its sides are -/
theorem compileWithin_alt {x y : Regex} (hx : x.TiledBy alphabet)
    (ihx : ∀ {n : Automaton}, m.stateCount < n.stateCount → n.alphabetSize = m.alphabetSize →
      x.compileWithin alphabet m.stateCount n = x.compile alphabet m.stateCount n)
    (ihy : ∀ {n : Automaton}, m.stateCount + 1 < n.stateCount → n.alphabetSize = m.alphabetSize →
      y.compileWithin alphabet (m.stateCount + 1) n = y.compile alphabet (m.stateCount + 1) n) :
    (Regex.alt x y).compileWithin alphabet start m = (Regex.alt x y).compile alphabet start m := by
  have hcount : m.addState.addState.stateCount = m.stateCount + 2 := by simp only [stateCount_addState]
  refine bind_congr_of_ok (connectWithin_epsilon (by omega)) fun m1 h1 => ?_
  have hcount1 : m1.stateCount = m.stateCount + 2 := by
    rw [stateCount_of_connect h1, hcount]
  refine bind_congr_of_ok (connectWithin_epsilon (by omega)) fun m2 h2 => ?_
  have hcount2 : m2.stateCount = m.stateCount + 2 := by
    rw [stateCount_of_connect h2, hcount1]
  have hsize2 : m2.alphabetSize = m.alphabetSize := by
    rw [alphabetSize_of_connect h2, alphabetSize_of_connect h1]
    rfl
  have hleft : m.stateCount < m2.stateCount := by omega
  refine bind_congr_of_ok (ihx hleft hsize2) fun ⟨leftStop, m3⟩ h3 => ?_
  obtain ⟨hle, -, hsize3⟩ := of_compile_eq_ok hx hleft h3
  refine bind_congr_of_ok (ihy (by omega) (hsize3.trans hsize2)) fun ⟨rightStop, m4⟩ _ => ?_
  have hcount4 := stateCount_addState m4
  refine bind_congr_of_ok (connectWithin_epsilon (by omega)) fun m5 h5 => ?_
  have hcount5 := stateCount_of_connect h5
  exact bind_congr_of_ok (connectWithin_epsilon (by omega)) fun _ _ => rfl

/-- a repetition is put together within the bounds up to its way out, if its body is -/
theorem exists_roundWithin {x : Regex} (hx : x.TiledBy alphabet) (hs : start < m.stateCount)
    (ih : ∀ {n : Automaton}, m.stateCount < n.stateCount → n.alphabetSize = m.alphabetSize →
      x.compileWithin alphabet m.stateCount n = x.compile alphabet m.stateCount n) :
    ∃ m0 last m1 m2 m3, m.addState.connect start .epsilon m.stateCount = .ok m0 ∧
      x.compile alphabet m.stateCount m0 = .ok (last, m1) ∧ m1.addState.connect last .epsilon m.stateCount = .ok m2 ∧
      m2.connect last .epsilon m1.stateCount = .ok m3 ∧
      m.addState.connectWithin start .epsilon m.stateCount = .ok m0 ∧
      x.compileWithin alphabet m.stateCount m0 = .ok (last, m1) ∧
      m1.addState.connectWithin last .epsilon m.stateCount = .ok m2 ∧
      m2.connectWithin last .epsilon m1.stateCount = .ok m3 ∧ m1.stateCount < m3.stateCount := by
  obtain ⟨m0, last, m1, m2, m3, A, h0, h1, h2, h3, hc0, hc3, hA, -⟩ := exists_round (compiles_of_tiledBy hx) hs
  have hle := hA.le
  have hc2 : m2.stateCount = m1.stateCount + 1 := by
    rw [stateCount_of_connect h2, stateCount_addState]
  have hsize : m0.alphabetSize = m.alphabetSize := by
    rw [alphabetSize_of_connect h0]
    rfl
  have hbody := ih (by omega) hsize
  refine ⟨m0, last, m1, m2, m3, h0, h1, h2, h3, ?_, hbody.trans h1, ?_, ?_, by omega⟩
  · exact (connectWithin_epsilon (by rw [stateCount_addState]; omega)).trans h0
  · exact (connectWithin_epsilon (by rw [stateCount_addState]; omega)).trans h2
  · exact (connectWithin_epsilon (by omega)).trans h3

/-- the automaton of an expression is put together within the bounds, if there are symbols enough for the alphabet -/
theorem compileWithin_eq {r : Regex} (hr : r.TiledBy alphabet) (hs : start < m.stateCount)
    (ha : alphabet.size ≤ m.alphabetSize) : r.compileWithin alphabet start m = r.compile alphabet start m := by
  induction r generalizing start m with
  | set is =>
    have hcount := stateCount_addState m
    exact bind_congr_of_ok (connectSetWithin_eq (m := m.addState) ha (by omega) (by omega) is) fun _ _ => rfl
  | cat x y ihx ihy =>
    obtain ⟨hx, hy⟩ := Regex.tiledBy_cat_iff.1 hr
    refine bind_congr_of_ok (ihx hx hs ha) fun ⟨middle, m1⟩ h1 => ?_
    obtain ⟨-, hmiddle, hsize⟩ := of_compile_eq_ok hx hs h1
    exact ihy hy hmiddle (hsize ▸ ha)
  | alt x y ihx ihy =>
    obtain ⟨hx, hy⟩ := Regex.tiledBy_alt_iff.1 hr
    exact compileWithin_alt hx (fun hn hsize => ihx hx hn (hsize ▸ ha)) fun hn hsize => ihy hy hn (hsize ▸ ha)
  | opt x ih =>
    have hx : x.TiledBy alphabet := hr
    refine bind_congr_of_ok (ih hx hs ha) fun ⟨stop, m1⟩ h1 => ?_
    obtain ⟨-, hstop, -⟩ := of_compile_eq_ok hx hs h1
    exact bind_congr_of_ok (connectWithin_epsilon hstop) fun _ _ => rfl
  | plus x ih =>
    obtain ⟨m0, last, m1, m2, m3, h0, h1, h2, h3, h0', h1', h2', h3', -⟩ :=
      exists_roundWithin (x := x) hr hs fun hn hsize => ih hr hn (hsize ▸ ha)
    simp only [Regex.compile, Regex.compileWithin, bind, Except.bind, h0, h1, h2, h3, h0', h1', h2', h3']
  | star x ih =>
    obtain ⟨m0, last, m1, m2, m3, h0, h1, h2, h3, h0', h1', h2', h3', hlt⟩ :=
      exists_roundWithin (x := x) hr hs fun hn hsize => ih hr hn (hsize ▸ ha)
    simp only [Regex.compile, Regex.compileWithin, bind, Except.bind, h0, h1, h2, h3, h0', h1', h2', h3',
      connectWithin_epsilon hlt]

end Automaton

/-! ## Rules and modes -/

namespace Assembly

variable {alphabet : Alphabet} {k : Nat} {a : Assembly} {table : List (String × Rule Regex)} {uses : List String}
  {name : String}

/-- a rule is added within the bounds, if there are symbols enough for the alphabet -/
theorem addRuleWithin_eq {r : Rule Regex} (hr : r.expr.TiledBy alphabet) (ha : alphabet.size ≤ a.nfa.alphabetSize)
    (S : Nat) : addRuleWithin alphabet S a r = addRule alphabet S a r := by
  have hcount := Automaton.stateCount_addState a.nfa
  refine bind_congr_of_ok (Automaton.connectWithin_epsilon (by omega)) fun m1 h1 => ?_
  have hfirst : a.nfa.stateCount < m1.stateCount := by
    rw [Automaton.stateCount_of_connect h1]
    omega
  have ha1 : alphabet.size ≤ m1.alphabetSize := by rwa [Automaton.alphabetSize_of_connect h1]
  refine bind_congr_of_ok (Automaton.compileWithin_eq hr hfirst ha1) fun ⟨last, m2⟩ h2 => ?_
  obtain ⟨-, hlast, -⟩ := Automaton.of_compile_eq_ok hr hfirst h2
  simp only [Automaton.acceptWithin_eq hlast]
  rfl

namespace Assembled

/-- the rules of a part of a mode are added within the bounds -/
theorem addRulesWithin_eq (h : Assembled alphabet k table uses a) {rules : List (Rule Regex)}
    (hr : ∀ r ∈ rules, r.expr.TiledBy alphabet) (hk : alphabet.size ≤ k) {S : Nat} (hname : name ∈ uses)
    (hS : (uses.eraseDups.idxOf name, S) ∈ a.modeStates) :
    rules.foldlM (addRuleWithin alphabet S) a = rules.foldlM (Assembly.addRule alphabet S) a := by
  induction rules generalizing a table uses with
  | nil => rfl
  | cons r rules ih =>
    obtain ⟨hr1, hrest⟩ := List.forall_mem_cons.1 hr
    refine bind_congr_of_ok (addRuleWithin_eq hr1 (h.alphabetSize_eq.symm ▸ hk) S) fun a1 h1 => ?_
    obtain ⟨a1', h1', hstates, hA⟩ := h.addRule hr1 hname hS
    rw [h1] at h1'
    cases h1'
    exact ih hA hrest (List.mem_append_left _ hname) (by rwa [hstates, idxOf_eraseDups_append hname])

/-- a part of a mode is added within the bounds -/
theorem addModeWithin_eq (h : Assembled alphabet k table uses a) {m : Mode Regex}
    (hr : ∀ r ∈ m.rules, r.expr.TiledBy alphabet) (hk : alphabet.size ≤ k)
    (hnames : (uses ++ [m.name]).eraseDups.length ≤ k) : addModeWithin alphabet a m = Assembly.addMode alphabet a m := by
  have hname : m.name ∈ uses ++ [m.name] := List.mem_append_right _ (List.mem_singleton_self _)
  obtain ⟨S, a1, hstate, hstart, hS, hA⟩ := (h.use [m.name]).modeState hname hnames
  obtain ⟨-, hlt, hmode⟩ := hA.ruled.mode_lt hS
  rw [Automaton.stateCount_addEdge] at hlt
  simp only [addModeWithin, Assembly.addMode, modeIndex_eq h.modeNames_eq, hstate]
  refine bind_congr_of_ok (Automaton.connectWithin_symbol hmode hlt) fun m1 h1 => ?_
  obtain ⟨-, rfl⟩ := Automaton.of_connect_eq_ok h1
  exact hA.addRulesWithin_eq hr hk hname hS

/-- all parts of modes are added within the bounds -/
theorem addModesWithin_eq (h : Assembled alphabet k table uses a) {modes : List (Mode Regex)}
    (hr : ∀ m ∈ modes, ∀ r ∈ m.rules, r.expr.TiledBy alphabet) (hk : alphabet.size ≤ k)
    (hnames : (uses ++ modes.flatMap Mode.uses).eraseDups.length ≤ k) :
    modes.foldlM (addModeWithin alphabet) a = modes.foldlM (Assembly.addMode alphabet) a := by
  induction modes generalizing a table uses with
  | nil => rfl
  | cons m modes ih =>
    obtain ⟨hname, hnames⟩ := names_le_of_cons hnames
    have hr1 := hr m List.mem_cons_self
    refine bind_congr_of_ok (h.addModeWithin_eq hr1 hk hname) fun a1 h1 => ?_
    obtain ⟨a1', h1', hA⟩ := h.addMode hr1 hname
    rw [h1] at h1'
    cases h1'
    exact ih hA (fun m' hm' => hr m' (List.mem_cons_of_mem m hm')) hnames

end Assembled

/-- **Insertions.** Over an alphabet that tiles the rules of a description, each edge leads to a state and reads a symbol
that is there when it is put in, and each state is there when it is made to accept. -/
theorem ofDescriptionWithin_eq {d : Description Regex} (ht : ∀ r ∈ d.rules, r.expr.TiledBy alphabet) :
    ofDescriptionWithin d alphabet = ofDescription d alphabet := by
  cases h : d.modeError? with
  | some e => simp only [ofDescriptionWithin, ofDescription, h]
  | none =>
    have htiled := List.forall_mem_flatMap.1 ht
    have hnames := (length_eraseDups_le (List.subset_append_left _ _)).trans (length_uses_le h alphabet)
    have hfold := (assembled_initial d alphabet).addModesWithin_eq htiled (Nat.le_max_left _ _) hnames
    cases hx : d.modes.foldlM (addMode alphabet) (initial d alphabet) with
    | ok a => simp only [ofDescriptionWithin, ofDescription, h, hfold, hx]
    | error f => simp only [ofDescriptionWithin, ofDescription, h, hfold, hx]

end Assembly

end Munch
