/-
The automaton of a description.

Names of modes are numbered in the order in which they are first used, as the name of a mode that is declared, as the next
mode of a rule or as the start mode. Numbers that were given stay when more names are used, so the invariant `Assembled`
can speak of the names used so far.

Results:
- `Assembled.addRule`, `Assembled.addMode`: rules and modes are added without fault, and the invariant is kept.
- `exists_assembly_of_tiledBy`, `exists_assembly`: a description whose modes fit together has an automaton; its modes and
  token types depend on the names in the description alone.
-/
import Mathlib.Tactic
import Munch.Lexer.Assembly
import Munch.Proofs.Lexer.Ruled

namespace Munch

/-! ## Names in the order of their first use -/

theorem nodup_eraseDups {α : Type} [BEq α] [LawfulBEq α] (l : List α) : l.eraseDups.Nodup := by
  induction hn : l.length using Nat.strong_induction_on generalizing l with
  | _ n ih =>
    cases l with
    | nil => exact List.nodup_nil
    | cons x l =>
      rw [List.eraseDups_cons, List.nodup_cons]
      refine ⟨fun hx => ?_, ih _ ?_ _ rfl⟩
      · have := (List.mem_filter.1 (List.mem_eraseDups.1 hx)).2
        simp at this
      · rw [← hn]
        exact Nat.lt_succ_of_le (List.length_filter_le _ _)

theorem length_eraseDups_le {α : Type} [BEq α] [LawfulBEq α] {l l' : List α} (h : l ⊆ l') :
    l.eraseDups.length ≤ l'.eraseDups.length :=
  (List.subperm_of_subset (nodup_eraseDups l) fun _ hx =>
    List.mem_eraseDups.2 (h (List.mem_eraseDups.1 hx))).length_le

/-- more names do not change the number of a name -/
theorem idxOf_eraseDups_append {l l' : List String} {x : String} (h : x ∈ l) :
    (l ++ l').eraseDups.idxOf x = l.eraseDups.idxOf x := by
  rw [List.eraseDups_append, List.idxOf_append_of_mem (List.mem_eraseDups.2 h)]

theorem eraseDups_snoc (l : List String) (x : String) :
    (l ++ [x]).eraseDups = if x ∈ l then l.eraseDups else l.eraseDups ++ [x] := by
  rw [List.eraseDups_append]
  by_cases h : x ∈ l <;> simp [List.removeAll, h, List.eraseDups_cons]

/-- the names of modes that a part of a mode uses, in order -/
def Mode.uses {α : Type} (m : Mode α) : List String :=
  m.name :: m.rules.map Rule.next

namespace Description

variable {α : Type}

/-- the names of modes that a description uses, in order -/
def uses (d : Description α) : List String :=
  d.modes.flatMap Mode.uses ++ d.startMode.toList

/-- the number of a mode -/
def modeNumber (d : Description α) (name : String) : Nat :=
  d.uses.eraseDups.idxOf name

/-- the rules in the order of their token types, each with the name of the mode that it is declared in -/
def table (d : Description α) : List (String × Rule α) :=
  d.modes.flatMap fun m => m.rules.map fun r => (m.name, r)

end Description

namespace Assembly

open Automaton (Ruled)

variable {alphabet : Alphabet} {k : Nat} {a : Assembly} {table : List (String × Rule Regex)} {uses : List String}
  {name : String}

/-! ## The invariant -/

/-- the automaton of the rules in `table`, when the names in `uses` have been used -/
structure Assembled (alphabet : Alphabet) (k : Nat) (table : List (String × Rule Regex)) (uses : List String)
    (a : Assembly) : Prop where
  ruled : Ruled alphabet a.nfa a.modeStates fun mode v t =>
    ∃ x, table[t]? = some x ∧ uses.eraseDups.idxOf x.1 = mode ∧ x.2.expr.Spells alphabet v
  alphabetSize_eq : a.nfa.alphabetSize = k
  errorState_eq : a.nfa.errorState = none
  modeNames_eq : a.modeNames = uses.eraseDups
  tokens_eq : a.tokens = table.map fun x => ⟨x.2.name, uses.eraseDups.idxOf x.2.next⟩
  used : ∀ x ∈ table, x.1 ∈ uses ∧ x.2.next ∈ uses
  declared : ∀ x ∈ table, ∃ S, (uses.eraseDups.idxOf x.1, S) ∈ a.modeStates
  startMode_eq : a.startMode = 0

theorem modeIndex_eq (h : a.modeNames = uses.eraseDups) (name : String) : a.modeIndex name =
    ((uses ++ [name]).eraseDups.idxOf name, { a with modeNames := (uses ++ [name]).eraseDups }) := by
  unfold modeIndex
  rw [h, eraseDups_snoc]
  by_cases hx : name ∈ uses
  · have hx' : name ∈ uses.eraseDups := List.mem_eraseDups.2 hx
    rw [if_pos hx]
    have hf : uses.eraseDups.findIdx? (· == name) = some (uses.eraseDups.idxOf name) := by
      rw [List.findIdx?_eq_some_iff_findIdx_eq]
      exact ⟨List.idxOf_lt_length_of_mem hx', rfl⟩
    rw [hf, ← h]
  · have hx' : name ∉ uses.eraseDups := fun hm => hx (List.mem_eraseDups.1 hm)
    rw [if_neg hx, List.idxOf_append_of_notMem hx']
    have hf : uses.eraseDups.findIdx? (· == name) = none := by
      rw [List.findIdx?_eq_none_iff]
      intro y hy
      rw [beq_eq_false_iff_ne]
      exact fun he => hx' (he ▸ hy)
    rw [hf]
    simp

namespace Assembled

/-- more names are used -/
theorem use (h : Assembled alphabet k table uses a) (more : List String) :
    Assembled alphabet k table (uses ++ more) { a with modeNames := (uses ++ more).eraseDups } := by
  have hidx {x : String} (hx : x ∈ uses) : (uses ++ more).eraseDups.idxOf x = uses.eraseDups.idxOf x :=
    idxOf_eraseDups_append hx
  exact
    { ruled := by
        refine h.ruled.congr fun mode v t => exists_congr fun x => and_congr_right fun hx => ?_
        rw [hidx (h.used x (List.mem_of_getElem? hx)).1]
      alphabetSize_eq := h.alphabetSize_eq
      errorState_eq := h.errorState_eq
      modeNames_eq := rfl
      tokens_eq := by
        rw [h.tokens_eq]
        exact List.map_congr_left fun x hx => by rw [hidx (h.used x hx).2]
      used := fun x hx => (h.used x hx).imp (List.mem_append_left _) (List.mem_append_left _)
      declared := by
        intro x hx
        rw [hidx (h.used x hx).1]
        exact h.declared x hx
      startMode_eq := h.startMode_eq }

theorem getElem?_snoc_eq_some_iff {α : Type} {l : List α} {x y : α} {i : Nat} :
    (l ++ [x])[i]? = some y ↔ l[i]? = some y ∨ i = l.length ∧ y = x := by
  rcases Nat.lt_trichotomy i l.length with hi | rfl | hi
  · rw [List.getElem?_append_left hi]
    exact ⟨Or.inl, fun h => h.resolve_right fun ⟨he, _⟩ => by omega⟩
  · rw [List.getElem?_append_right (Nat.le_refl _)]
    simp [eq_comm]
  · rw [List.getElem?_append_right (Nat.le_of_lt hi), List.getElem?_eq_none (Nat.le_of_lt hi),
      List.getElem?_eq_none (by simp; omega)]
    simp
    omega

/-- the automaton of one more rule, whose mode has been declared -/
theorem snoc (h : Assembled alphabet k table uses a) {r : Rule Regex} {S : Nat} {nfa : Automaton} (hname : name ∈ uses)
    (hnext : r.next ∈ uses) (hS : (uses.eraseDups.idxOf name, S) ∈ a.modeStates)
    (hadd : Automaton.Added alphabet a.nfa nfa S r.expr table.length) :
    Assembled alphabet k (table ++ [(name, r)]) uses
      { a with nfa := nfa, tokens := a.tokens ++ [{ name := r.name, mode := uses.eraseDups.idxOf r.next }] } where
  ruled := by
    refine (h.ruled.add hadd hS).congr fun mode v t => ?_
    simp only [getElem?_snoc_eq_some_iff]
    constructor
    · rintro (⟨x, hx, hm, hs⟩ | ⟨rfl, rfl, hs⟩)
      · exact ⟨x, Or.inl hx, hm, hs⟩
      · exact ⟨(name, r), Or.inr ⟨rfl, rfl⟩, rfl, hs⟩
    · rintro ⟨x, hx | ⟨rfl, rfl⟩, hm, hs⟩
      · exact Or.inl ⟨x, hx, hm, hs⟩
      · exact Or.inr ⟨hm.symm, rfl, hs⟩
  alphabetSize_eq := hadd.alphabetSize.trans h.alphabetSize_eq
  errorState_eq := hadd.errorState.trans h.errorState_eq
  modeNames_eq := h.modeNames_eq
  tokens_eq := by simp only [h.tokens_eq, List.map_append, List.map_cons, List.map_nil]
  used := List.forall_mem_append.2 ⟨h.used, List.forall_mem_singleton.2 ⟨hname, hnext⟩⟩
  declared := List.forall_mem_append.2 ⟨h.declared, List.forall_mem_singleton.2 ⟨S, hS⟩⟩
  startMode_eq := h.startMode_eq

/-- a rule is added to a mode that has been declared -/
theorem addRule (h : Assembled alphabet k table uses a) {r : Rule Regex}
    (hr : r.expr.TiledBy alphabet) {S : Nat} (hname : name ∈ uses)
    (hS : (uses.eraseDups.idxOf name, S) ∈ a.modeStates) :
    ∃ a', Assembly.addRule alphabet S a r = .ok a' ∧ a'.modeStates = a.modeStates ∧
      Assembled alphabet k (table ++ [(name, r)]) (uses ++ [r.next]) a' := by
  have hlen : a.tokens.length = table.length := by rw [h.tokens_eq, List.length_map]
  obtain ⟨m1, last, m2, h1, h2, hadd⟩ := Automaton.exists_added hr (h.ruled.mode_lt hS).2.1 table.length
  have hindex := modeIndex_eq (a := { a with nfa := m2.accept last (some table.length) }) h.modeNames_eq r.next
  have hS' : ((uses ++ [r.next]).eraseDups.idxOf name, S) ∈ a.modeStates := by rwa [idxOf_eraseDups_append hname]
  have hnext : r.next ∈ uses ++ [r.next] := List.mem_append_right _ (List.mem_singleton_self _)
  refine ⟨{ a with
      nfa := m2.accept last (some table.length)
      modeNames := (uses ++ [r.next]).eraseDups
      tokens := a.tokens ++ [{ name := r.name, mode := (uses ++ [r.next]).eraseDups.idxOf r.next }] }, ?_, rfl,
    (h.use [r.next]).snoc (List.mem_append_left _ hname) hnext hS' hadd⟩
  simp only [Assembly.addRule, bind, Except.bind, h1, h2, hlen, hindex]
  rfl

/-- the rules of a part of a mode are added -/
theorem addRules (h : Assembled alphabet k table uses a) {rules : List (Rule Regex)}
    (hr : ∀ r ∈ rules, r.expr.TiledBy alphabet) {S : Nat} (hname : name ∈ uses)
    (hS : (uses.eraseDups.idxOf name, S) ∈ a.modeStates) :
    ∃ a', rules.foldlM (Assembly.addRule alphabet S) a = .ok a' ∧
      Assembled alphabet k (table ++ rules.map (name, ·)) (uses ++ rules.map Rule.next) a' := by
  induction rules generalizing a table uses with
  | nil => exact ⟨a, rfl, by simpa using h⟩
  | cons r rules ih =>
    obtain ⟨a1, h1, hstates, hA⟩ := h.addRule (hr r List.mem_cons_self) hname hS
    obtain ⟨a', h2, hA'⟩ := ih hA (fun r' hr' => hr r' (List.mem_cons_of_mem r hr')) (List.mem_append_left _ hname)
      (by rwa [hstates, idxOf_eraseDups_append hname])
    refine ⟨a', ?_, by simpa using hA'⟩
    rw [List.foldlM_cons, h1]
    exact h2

/-- the state of a mode is there, or it is added -/
theorem modeState (h : Assembled alphabet k table uses a) (hname : name ∈ uses) (hk : uses.eraseDups.length ≤ k) :
    ∃ S a', a.modeState (uses.eraseDups.idxOf name) = (S, a') ∧ a'.nfa.start < a'.nfa.stateCount ∧
      (uses.eraseDups.idxOf name, S) ∈ a'.modeStates ∧
      Assembled alphabet k table uses
        { a' with nfa := a'.nfa.addEdge a'.nfa.start (.symbol (uses.eraseDups.idxOf name)) S } := by
  unfold Assembly.modeState
  cases hf : a.modeStates.find? (·.1 == uses.eraseDups.idxOf name) with
  | some x =>
    obtain ⟨mode, S⟩ := x
    obtain rfl : mode = uses.eraseDups.idxOf name := by simpa using List.find?_some hf
    have hS := List.mem_of_find?_eq_some hf
    refine ⟨S, a, rfl, by rw [h.ruled.start_eq]; exact h.ruled.stateCount_pos, hS, ?_⟩
    have hagain := h.ruled.again hS
    rw [← h.ruled.start_eq] at hagain
    exact { h with ruled := hagain, alphabetSize_eq := h.alphabetSize_eq, errorState_eq := h.errorState_eq }
  | none =>
    have hnew (S : Nat) : (uses.eraseDups.idxOf name, S) ∉ a.modeStates := fun hS => by
      have := List.find?_eq_none.1 hf _ hS
      simp at this
    have hlt : uses.eraseDups.idxOf name < a.nfa.alphabetSize :=
      h.alphabetSize_eq.symm ▸ (List.idxOf_lt_length_of_mem (List.mem_eraseDups.2 hname)).trans_le hk
    have hfinds (v : List Nat) (t : Nat) : ¬∃ x : String × Rule Regex, table[t]? = some x ∧
        uses.eraseDups.idxOf x.1 = uses.eraseDups.idxOf name ∧ x.2.expr.Spells alphabet v := by
      rintro ⟨x, hx, he, -⟩
      obtain ⟨S, hS⟩ := h.declared x (List.mem_of_getElem? hx)
      exact hnew S (he ▸ hS)
    have hdeclare := h.ruled.declare hnew hlt hfinds
    have hstart : a.nfa.addState.start = 0 := h.ruled.start_eq
    rw [← hstart] at hdeclare
    refine ⟨_, _, rfl, ?_, List.mem_append_right _ (List.mem_singleton_self _), ?_⟩
    · rw [Automaton.stateCount_addState, hstart]
      exact Nat.succ_pos _
    · exact { h with
        ruled := hdeclare
        alphabetSize_eq := h.alphabetSize_eq
        errorState_eq := h.errorState_eq
        declared := fun x hx => (h.declared x hx).imp fun _ hS => List.mem_append_left _ hS }

/-- a part of a mode is added -/
theorem addMode (h : Assembled alphabet k table uses a) {m : Mode Regex}
    (hr : ∀ r ∈ m.rules, r.expr.TiledBy alphabet) (hk : (uses ++ [m.name]).eraseDups.length ≤ k) :
    ∃ a', Assembly.addMode alphabet a m = .ok a' ∧
      Assembled alphabet k (table ++ m.rules.map (m.name, ·)) (uses ++ m.uses) a' := by
  have hname : m.name ∈ uses ++ [m.name] := List.mem_append_right _ (List.mem_singleton_self _)
  obtain ⟨S, a1, hstate, hstart, hS, hA⟩ := (h.use [m.name]).modeState hname hk
  obtain ⟨a', hrules, hA'⟩ := hA.addRules hr hname hS
  refine ⟨a', ?_, by simpa [Mode.uses] using hA'⟩
  simp only [Assembly.addMode, modeIndex_eq h.modeNames_eq, hstate, Automaton.connect_eq_ok hstart, bind, Except.bind]
  exact hrules

/-- where there is room for the names of some modes, there is room for the name of the first and for what it uses -/
theorem names_le_of_cons {m : Mode Regex} {modes : List (Mode Regex)}
    (hk : (uses ++ (m :: modes).flatMap Mode.uses).eraseDups.length ≤ k) :
    (uses ++ [m.name]).eraseDups.length ≤ k ∧ (uses ++ m.uses ++ modes.flatMap Mode.uses).eraseDups.length ≤ k := by
  rw [List.flatMap_cons, ← List.append_assoc] at hk
  refine ⟨(length_eraseDups_le fun x hx => ?_).trans hk, hk⟩
  rcases List.mem_append.1 hx with hx | hx
  · exact List.mem_append_left _ (List.mem_append_left _ hx)
  · exact List.mem_append_left _ (List.mem_append_right _ (by simp_all [Mode.uses]))

/-- all parts of modes are added -/
theorem addModes (h : Assembled alphabet k table uses a) {modes : List (Mode Regex)}
    (hr : ∀ m ∈ modes, ∀ r ∈ m.rules, r.expr.TiledBy alphabet)
    (hk : (uses ++ modes.flatMap Mode.uses).eraseDups.length ≤ k) :
    ∃ a', modes.foldlM (Assembly.addMode alphabet) a = .ok a' ∧
      Assembled alphabet k (table ++ modes.flatMap fun m => m.rules.map (m.name, ·)) (uses ++ modes.flatMap Mode.uses)
        a' := by
  induction modes generalizing a table uses with
  | nil => exact ⟨a, rfl, by simpa using h⟩
  | cons m modes ih =>
    obtain ⟨hname, hk⟩ := names_le_of_cons hk
    obtain ⟨a1, h1, hA⟩ := h.addMode (hr m List.mem_cons_self) hname
    obtain ⟨a', h2, hA'⟩ := ih hA (fun m' hm' => hr m' (List.mem_cons_of_mem m hm')) hk
    refine ⟨a', ?_, by simpa using hA'⟩
    rw [List.foldlM_cons, h1]
    exact h2

end Assembled

/-! ## Descriptions -/

variable {d : Description Regex}

theorem modeError?_eq_none_iff : d.modeError? = none ↔
    d.modes ≠ [] ∧ (∀ r ∈ d.rules, r.next ∈ d.modeNames) ∧ ∀ s, d.startMode = some s → s ∈ d.modeNames := by
  unfold Description.modeError?
  cases hm : d.modes with
  | nil => simp
  | cons m rest =>
    have hfirst : d.firstUndefined? = none ↔ ∀ r ∈ d.rules, r.next ∈ d.modeNames := by
      simp [Description.firstUndefined?]
    simp only [List.isEmpty_cons, Bool.false_eq_true, if_false, ne_eq, reduceCtorEq, not_false_eq_true, true_and]
    rw [← hfirst]
    cases hu : d.firstUndefined? with
    | some r => simp
    | none => cases d.startMode <;> simp

/-- where the modes fit together, every name that is used is that of a mode -/
theorem uses_subset (h : d.modeError? = none) : d.uses ⊆ d.modeNames := by
  obtain ⟨-, hnext, hstart⟩ := modeError?_eq_none_iff.1 h
  intro x hx
  rcases List.mem_append.1 hx with hx | hx
  · obtain ⟨m, hm, hx⟩ := List.mem_flatMap.1 hx
    rcases List.mem_cons.1 hx with rfl | hx
    · exact List.mem_map_of_mem hm
    · obtain ⟨r, hr, rfl⟩ := List.mem_map.1 hx
      exact hnext r (List.mem_flatMap.2 ⟨m, hm, hr⟩)
  · exact hstart x (by simpa using hx)

theorem assembled_initial (d : Description Regex) (alphabet : Alphabet) :
    Assembled alphabet (max alphabet.size d.modeNames.eraseDups.length) [] [] (initial d alphabet) := by
  have hcount : (initial d alphabet).nfa.stateCount = 1 := rfl
  have hmoves {p q : Nat} {l : Label} : ¬(initial d alphabet).nfa.moves p l q := by
    intro hm
    obtain rfl : p = 0 := by
      have := Automaton.source_lt hm
      omega
    cases hm
  have htoken {q t : Nat} : (initial d alphabet).nfa.token? q ≠ some t := by
    intro ht
    obtain rfl : q = 0 := by
      have := Automaton.lt_of_token?_eq_some ht
      omega
    cases ht
  have haccept {q : Nat} : (initial d alphabet).nfa.isAccepting q ≠ true := by
    intro ha
    obtain rfl : q = 0 := by
      have := Automaton.lt_of_isAccepting ha
      omega
    cases ha
  have hedges (q : Nat) : (initial d alphabet).nfa.edges q = [] :=
    List.eq_nil_iff_forall_not_mem.2 fun (e : Edge) he => hmoves (p := q) (l := e.label) (q := e.target) he
  have hruled (finds : Nat → List Nat → Nat → Prop) : Ruled alphabet (initial d alphabet).nfa [] finds :=
    { start_eq := rfl
      stateCount_pos := by omega
      ascending := fun q => by
        rw [hedges]
        exact List.Pairwise.nil
      state_unique := nofun
      mode_unique := nofun
      mode_lt := nofun
      start_moves := iff_of_false hmoves fun ⟨_, _, hm⟩ => nomatch hm
      mode_moves := nofun
      body_moves := fun _ hm => absurd hm hmoves
      token_body := fun ht => absurd ht htoken
      accepting_iff := iff_of_false haccept fun ⟨_, ht⟩ => htoken ht
      finds_iff := nofun }
  exact ⟨hruled _, rfl, rfl, rfl, rfl, nofun, nofun, rfl⟩

theorem length_uses_le (h : d.modeError? = none) (alphabet : Alphabet) :
    d.uses.eraseDups.length ≤ max alphabet.size d.modeNames.eraseDups.length :=
  (length_eraseDups_le (uses_subset h)).trans (Nat.le_max_right _ _)

/-- **Assembly.** A description whose modes fit together has an automaton for all of its rules over every alphabet that tiles
them. The names and numbers of its modes and token types depend on the names in the description alone. -/
theorem exists_assembly_of_tiledBy (h : d.modeError? = none)
    (ht : ∀ r ∈ d.rules, r.expr.TiledBy alphabet) :
    ∃ a, ofDescription d alphabet = .ok { a with startMode := d.startMode.elim 0 d.modeNumber } ∧
      Assembled alphabet (max alphabet.size d.modeNames.eraseDups.length) d.table d.uses a := by
  have htiled := List.forall_mem_flatMap.1 ht
  have hk : ([] ++ d.modes.flatMap Mode.uses).eraseDups.length ≤ max alphabet.size d.modeNames.eraseDups.length :=
    (length_eraseDups_le (List.subset_append_left _ _)).trans (length_uses_le h _)
  obtain ⟨a, hfold, hA⟩ := (assembled_initial d alphabet).addModes htiled hk
  rw [List.nil_append, List.nil_append] at hA
  have hof : ofDescription d alphabet = .ok (a.chooseStart d.startMode) := by
    simp only [ofDescription, h, hfold]
  rw [hof]
  cases hs : d.startMode with
  | none =>
    have huses : d.uses = d.modes.flatMap Mode.uses := by simp [Description.uses, hs]
    refine ⟨a, ?_, huses ▸ hA⟩
    obtain ⟨nfa, modeNames, modeStates, tokens, startMode⟩ := a
    obtain rfl : startMode = 0 := hA.startMode_eq
    rfl
  | some name =>
    have huses : d.uses = d.modes.flatMap Mode.uses ++ [name] := by simp [Description.uses, hs]
    refine ⟨_, ?_, huses ▸ hA.use [name]⟩
    rw [chooseStart, modeIndex_eq hA.modeNames_eq, ← huses]
    rfl

/-- the alphabet of all intervals of the rules tiles them -/
theorem tiledBy_of_mem_rules {r : Rule Regex} (hr : r ∈ d.rules) : r.expr.TiledBy (.ofIntervals d.intervals) :=
  Regex.tiledBy_ofIntervals fun _ hi => List.mem_flatMap.2 ⟨r, hr, hi⟩

/-- so a description whose modes fit together has an automaton over it -/
theorem exists_assembly (h : d.modeError? = none) :
    ∃ a, ofDescription d (.ofIntervals d.intervals) = .ok { a with startMode := d.startMode.elim 0 d.modeNumber } ∧
      Assembled (.ofIntervals d.intervals) (max (Alphabet.ofIntervals d.intervals).size d.modeNames.eraseDups.length)
        d.table d.uses a :=
  exists_assembly_of_tiledBy h fun _ => tiledBy_of_mem_rules

end Assembly

end Munch
