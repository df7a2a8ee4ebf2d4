/-
What the text of a graph says about the automaton, whatever writer writes it.

Of a writer nothing is used but its contract, `Writer.Follows`: nodes are numbered as they come, a label stands between
quotes as it is, and a statement is a line that holds its texts in the order in which they were given. How the parts of a
line are set off is a `Layout`, and any will do.

Arcs name their targets by the numbers of states, nodes are named by their writer. Since states are drawn in the order of
their numbers, both are one name (`drawStates_eq`). The text is then read in three passes. It falls apart into lines,
because a line holds no line break but its last character; the lines fall apart into groups, one for each state, because
only the lines of arcs hold an arrow; and a line falls apart into names, labels and marks, because a number ends where its
digits end and no mark holds what separates marks. The labels of the arcs out of one state are never the same for two
symbols: an interval of the alphabet is known by where it begins.

Results:
- `append_inj_of_stops`, `flatten_inj_of_isLine`, `flatMap_cons_inj`: a text is cut into parts in one way only.
- `drawStates_eq`: the node of each state has the name by which arcs refer to it.
- `edgeLabel_injective`, `marks_inj`, `nodeText_inj`, `edgeText_injective`: a line tells what it was written for.
- `ofAutomaton_eq_iff`: two automata have one text if and only if nothing that is drawn tells them apart.
-/
import Mathlib.Tactic
import Munch.Graph
import Munch.Proofs.Alphabet.Symbols
import Munch.Proofs.Automaton.Run
import Munch.Proofs.Source.Reads

namespace Munch

/-! ## Parts of a text -/

section Parts

variable {α : Type}

/-- two lists are cut at the same place if both are cut where the elements with `p` end -/
theorem append_inj_of_stops {p : α → Prop} {xs ys s t : List α} (hx : ∀ c ∈ xs, p c) (hy : ∀ c ∈ ys, p c)
    (hs : ∀ c ∈ s.head?, ¬p c) (ht : ∀ c ∈ t.head?, ¬p c) (h : xs ++ s = ys ++ t) : xs = ys ∧ s = t := by
  induction xs generalizing ys with
  | nil =>
    cases ys with
    | nil => exact ⟨rfl, h⟩
    | cons y ys =>
      rw [List.nil_append] at h
      exact absurd (hy y List.mem_cons_self) (hs y (by rw [h]; rfl))
  | cons x xs ih =>
    cases ys with
    | nil =>
      rw [List.nil_append] at h
      exact absurd (hx x List.mem_cons_self) (ht x (by rw [← h]; rfl))
    | cons y ys =>
      obtain ⟨rfl, htail⟩ := List.cons.inj h
      obtain ⟨hx, hxs⟩ := List.forall_mem_cons.1 hx
      obtain ⟨-, hys⟩ := List.forall_mem_cons.1 hy
      obtain ⟨rfl, rfl⟩ := ih hxs hys htail
      exact ⟨rfl, rfl⟩

/-- groups that begin with an element with `p`, and hold no other, are found again in the list of all their elements -/
theorem flatMap_cons_inj {p : α → Prop} {gs hs : List (α × List α)}
    (hg : ∀ g ∈ gs, p g.1 ∧ ∀ x ∈ g.2, ¬p x) (hh : ∀ g ∈ hs, p g.1 ∧ ∀ x ∈ g.2, ¬p x)
    (h : (gs.flatMap fun g => g.1 :: g.2) = hs.flatMap fun g => g.1 :: g.2) : gs = hs := by
  -- what follows a group is nothing, or begins with an element with `p`
  have hstop {gs : List (α × List α)} (hg : ∀ g ∈ gs, p g.1 ∧ ∀ x ∈ g.2, ¬p x) :
      ∀ x ∈ (gs.flatMap fun g => g.1 :: g.2).head?, ¬¬p x := by
    cases gs with
    | nil => nofun
    | cons g gs =>
      intro x hx
      obtain rfl : g.1 = x := Option.some.inj hx
      exact not_not_intro (hg g List.mem_cons_self).1
  induction gs generalizing hs with
  | nil =>
    cases hs with
    | nil => rfl
    | cons => cases h
  | cons g gs ih =>
    cases hs with
    | nil => cases h
    | cons g' hs =>
      obtain ⟨hg0, hgs⟩ := List.forall_mem_cons.1 hg
      obtain ⟨hh0, hhs⟩ := List.forall_mem_cons.1 hh
      obtain ⟨hfirst, hrest⟩ := List.cons.inj h
      obtain ⟨hmembers, hrest⟩ := append_inj_of_stops hg0.2 hh0.2 (hstop hgs) (hstop hhs) hrest
      rw [Prod.ext hfirst hmembers, ih hgs hhs hrest]

/-- a line: its line break is its last character -/
def IsLine (l : List Char) : Prop :=
  ∃ text, l = text ++ ['\n'] ∧ '\n' ∉ text

/-- lines are found again in their text -/
theorem flatten_inj_of_isLine {xs ys : List (List Char)} (hx : ∀ l ∈ xs, IsLine l) (hy : ∀ l ∈ ys, IsLine l)
    (h : xs.flatten = ys.flatten) : xs = ys := by
  have hne {l : List Char} (hl : IsLine l) : l ≠ [] := by
    obtain ⟨text, rfl, -⟩ := hl
    exact List.concat_ne_nil _ _
  induction xs generalizing ys with
  | nil =>
    cases ys with
    | nil => rfl
    | cons y ys => exact absurd (List.append_eq_nil_iff.1 h.symm).1 (hne (hy y List.mem_cons_self))
  | cons x xs ih =>
    cases ys with
    | nil => exact absurd (List.append_eq_nil_iff.1 h).1 (hne (hx x List.mem_cons_self))
    | cons y ys =>
      obtain ⟨⟨text, rfl, htext⟩, hxs⟩ := List.forall_mem_cons.1 hx
      obtain ⟨⟨text', rfl, htext'⟩, hys⟩ := List.forall_mem_cons.1 hy
      simp only [List.flatten_cons, List.append_assoc, List.singleton_append] at h
      obtain ⟨rfl, hrest⟩ := append_inj_of_stops (p := (· ≠ '\n')) (fun c hc he => htext (he ▸ hc))
        (fun c hc he => htext' (he ▸ hc)) (by simp) (by simp) h
      rw [ih hxs hys (List.cons.inj hrest).2]

end Parts

/-! ## Numbers -/

namespace Numeral

open Munch.Source (isDigitOf toDigits_read withDigits)

variable {base n : Nat}

theorem isDigitOf_of_mem_toDigits (h1 : 1 < base) (hb : base ≤ 16) {c : Char} (hc : c ∈ Nat.toDigits base n) :
    isDigitOf base c = true :=
  (toDigits_read base n h1 hb).1 c hc

theorem not_mem_toDigits (h1 : 1 < base) (hb : base ≤ 16) {c : Char} (hc : isDigitOf base c = false) :
    c ∉ Nat.toDigits base n := by
  intro hmem
  rw [isDigitOf_of_mem_toDigits h1 hb hmem] at hc
  cases hc

theorem toDigits_injective (h1 : 1 < base) (hb : base ≤ 16) : Function.Injective (Nat.toDigits base) :=
  Function.LeftInverse.injective (g := withDigits base 0) fun n => (toDigits_read base n h1 hb).2

/-- a number ends where its digits end -/
theorem toDigits_append_inj (h1 : 1 < base) (hb : base ≤ 16) {k : Nat} {s t : List Char}
    (hs : ∀ c ∈ s.head?, isDigitOf base c = false) (ht : ∀ c ∈ t.head?, isDigitOf base c = false)
    (h : Nat.toDigits base n ++ s = Nat.toDigits base k ++ t) : n = k ∧ s = t := by
  have hstop {s : List Char} (hs : ∀ c ∈ s.head?, isDigitOf base c = false) :
      ∀ c ∈ s.head?, ¬isDigitOf base c = true := fun c hc => Bool.not_eq_true _ ▸ hs c hc
  obtain ⟨hdigits, hrest⟩ := append_inj_of_stops (fun _ hc => isDigitOf_of_mem_toDigits h1 hb hc)
    (fun _ hc => isDigitOf_of_mem_toDigits h1 hb hc) (hstop hs) (hstop ht) h
  exact ⟨toDigits_injective h1 hb hdigits, hrest⟩

theorem toList_decimal (n : Nat) : (decimal n).toList = Nat.toDigits 10 n :=
  String.toList_ofList

end Numeral

namespace Interval

open Munch.Source (isDigitOf)

/-- the text of an interval begins with its first code point -/
theorem exists_text (i : Interval) : ∃ rest, i.text.toList = '0' :: 'x' :: (Nat.toDigits 16 i.start ++ rest) ∧
    ∀ c ∈ rest.head?, isDigitOf 16 c = false := by
  unfold text
  split
  · exact ⟨[], by simp [Numeral.hex, Numeral.hexDigits], nofun⟩
  · refine ⟨'.' :: '.' :: (Numeral.hex i.stop).toList, by simp [Numeral.hex, Numeral.hexDigits], ?_⟩
    intro c hc
    obtain rfl : '.' = c := Option.some.inj hc
    rfl

theorem head?_text (i : Interval) : i.text.toList.head? = some '0' := by
  obtain ⟨rest, h, -⟩ := i.exists_text
  rw [h]
  rfl

theorem start_eq_of_text_eq {i j : Interval} (h : i.text = j.text) : i.start = j.start := by
  obtain ⟨s, hi, hs⟩ := i.exists_text
  obtain ⟨t, hj, ht⟩ := j.exists_text
  rw [h, hj] at hi
  simp only [List.cons.injEq, true_and] at hi
  exact (Numeral.toDigits_append_inj (by decide) (by decide) ht hs hi).1.symm

end Interval

namespace Graph

open Munch.Source (isDigitOf)
open Numeral (toList_decimal not_mem_toDigits toDigits_injective toDigits_append_inj)

variable {m m' : Automaton} {alphabet : Alphabet}

/-! ## Labels -/

/-- the start of an interval is the start of no other -/
theorem symbol_eq_of_start_eq (ha : alphabet.Ordered) {a b : Nat} {i j : Interval} (hi : alphabet.interval? a = some i)
    (hj : alphabet.interval? b = some j) (h : i.start = j.start) : a = b := by
  rcases Nat.lt_trichotomy a b with hab | rfl | hab
  · have := ha.stop_lt_start hi hj hab
    have := i.start_le_stop
    omega
  · rfl
  · have := ha.stop_lt_start hj hi hab
    have := j.start_le_stop
    omega

theorem decimal_append_inj {mark : String} {a b : Nat} (h : mark ++ Numeral.decimal a = mark ++ Numeral.decimal b) :
    a = b := by
  have hlist := congrArg String.toList h
  rw [String.toList_append, String.toList_append, toList_decimal, toList_decimal] at hlist
  exact toDigits_injective (by decide) (by decide) (List.append_cancel_left hlist)

/-- a symbol is known by what the arcs out of a state show -/
theorem edgeLabel_injective (ha : alphabet.Ordered) (m : Automaton) (q : Nat) :
    Function.Injective (edgeLabel m alphabet q) := by
  -- only the text of an interval begins with a zero
  have hclash {i : Interval} {text : String} (h : text.toList.head? ≠ some '0') : i.text ≠ text := by
    rintro rfl
    exact h i.head?_text
  have hepsilon (a : Nat) : edgeLabel m alphabet q (.symbol a) ≠ "ε" := by
    simp only [edgeLabel]
    split
    · intro h
      simpa using congrArg (fun t => t.toList.head?) h
    · split
      · exact hclash (by simp)
      · intro h
        simpa using congrArg (fun t => t.toList.head?) h
  have hsymbol {a b : Nat} (h : edgeLabel m alphabet q (.symbol a) = edgeLabel m alphabet q (.symbol b)) : a = b := by
    simp only [edgeLabel] at h
    split at h
    case isTrue => exact decimal_append_inj h
    case isFalse =>
      split at h
      case h_1 i hi =>
        split at h
        case h_1 j hj => exact symbol_eq_of_start_eq ha hi hj (Interval.start_eq_of_text_eq h)
        case h_2 => exact absurd h (hclash (by simp))
      case h_2 =>
        split at h
        case h_1 => exact absurd h.symm (hclash (by simp))
        case h_2 => exact decimal_append_inj h
  intro l l' h
  cases l with
  | epsilon =>
    cases l' with
    | epsilon => rfl
    | symbol b => exact absurd h.symm (hepsilon b)
  | symbol a =>
    cases l' with
    | epsilon => exact absurd h (hepsilon a)
    | symbol b => exact congrArg Label.symbol (hsymbol h)

/-! ## Writers -/

/-- how a writer sets the parts of a line off from each other -/
structure Layout where
  /-- before what a line is about -/
  indent : String
  /-- between the ends of an arc -/
  arrow : String
  /-- before the quotes of a label -/
  opening : String
  /-- at the beginning of each mark -/
  separator : Char
  /-- the rest of a mark -/
  mark : Mark → String
  /-- behind the last mark -/
  closing : String
  /-- a line is not broken -/
  oneLine : '\n' ≠ separator ∧ ∀ t ∈ [arrow, indent, opening, closing], '\n' ∉ t.toList
  /-- an arrow stands between the ends of an arc and nowhere else -/
  arrow_mem : '>' ∈ arrow.toList
  arrow_not_mem : '>' ≠ separator ∧ ∀ t ∈ [indent, opening, closing], '>' ∉ t.toList
  /-- marks are told apart, and none holds what begins the next one -/
  mark_injective : Function.Injective mark
  mark_plain : ∀ k, '\n' ∉ (mark k).toList ∧ '>' ∉ (mark k).toList ∧ separator ∉ (mark k).toList
  /-- what follows a name does not continue the number at its end -/
  opening_head : ∀ c ∈ opening.toList.head?, isDigitOf 10 c = false

namespace Layout

/-- what is said behind a name: the label as it is between quotes, and the marks in their order -/
def attributes (l : Layout) (label : String) (marks : List Mark) : List Char :=
  l.opening.toList ++ '"' :: label.toList ++ '"' :: (marks.flatMap fun k => l.separator :: (l.mark k).toList) ++
    l.closing.toList

variable {l : Layout} {label : String} {ks ks' : List Mark}

/-- marks are found again in what is said -/
theorem attributes_inj (h : l.attributes label ks = l.attributes label ks') : ks = ks' := by
  have hmarks : (ks.flatMap fun k => l.separator :: (l.mark k).toList) =
      ks'.flatMap fun k => l.separator :: (l.mark k).toList := by
    simp only [attributes, List.append_assoc, List.cons_append, List.append_cancel_left_eq, List.cons.injEq, true_and]
      at h
    exact List.append_cancel_right h
  let piece (k : Mark) : Char × List Char := (l.separator, (l.mark k).toList)
  have hpiece : Function.Injective piece := fun k k' hk =>
    l.mark_injective (String.toList_inj.1 (Prod.ext_iff.1 hk).2)
  have hfirst (ks : List Mark) : ∀ g ∈ ks.map piece, g.1 = l.separator ∧ ∀ c ∈ g.2, ¬c = l.separator := by
    intro g hg
    obtain ⟨k, -, rfl⟩ := List.mem_map.1 hg
    exact ⟨rfl, fun c hc he => (l.mark_plain k).2.2 (he ▸ hc)⟩
  refine hpiece.list_map (flatMap_cons_inj (p := (· = l.separator)) (hfirst ks) (hfirst ks') ?_)
  simpa only [List.flatMap_map, piece] using hmarks

theorem not_mem_attributes (l : Layout) (ks : List Mark) {c : Char} (hlabel : c ∉ label.toList) (hquote : c ≠ '"')
    (hseparator : c ≠ l.separator) (hlayout : ∀ t ∈ [l.opening, l.closing], c ∉ t.toList)
    (hmark : ∀ k, c ∉ (l.mark k).toList) : c ∉ l.attributes label ks := by
  have hopening := hlayout l.opening (by simp)
  have hclosing := hlayout l.closing (by simp)
  simp [attributes, hopening, hlabel, hquote, hseparator, hmark, hclosing]

theorem newline_not_mem_attributes (l : Layout) (ks : List Mark) (h : '\n' ∉ label.toList) :
    '\n' ∉ l.attributes label ks :=
  l.not_mem_attributes ks h (by decide) l.oneLine.1
    (fun t ht => l.oneLine.2 t (List.mem_cons_of_mem _ (List.mem_cons_of_mem _ ht))) fun k => (l.mark_plain k).1

theorem arrow_not_mem_attributes (l : Layout) (ks : List Mark) (h : '>' ∉ label.toList) :
    '>' ∉ l.attributes label ks :=
  l.not_mem_attributes ks h (by decide) l.arrow_not_mem.1
    (fun t ht => l.arrow_not_mem.2 t (List.mem_cons_of_mem _ ht)) fun k => (l.mark_plain k).2.1

end Layout

/-- what a writer promises: its nodes are numbered as they come, and each node and each arc is a line with its name, or the
names of its ends, its label and its marks, as they were given -/
structure Writer.Follows (w : Writer) (l : Layout) : Prop where
  autoName_eq : ∀ count, w.autoName count = "node_" ++ Numeral.decimal count
  write_node : ∀ name label marks, (w.write (.node name label marks)).toList =
    l.indent.toList ++ name.toList ++ l.attributes label marks ++ ['\n']
  write_arc : ∀ source target label, (w.write (.arc source target label)).toList =
    l.indent.toList ++ source.toList ++ l.arrow.toList ++ target.toList ++ l.attributes label [] ++ ['\n']

/-- the layout of `Writer.pretty` -/
def Writer.prettyLayout : Layout where
  indent := "  "
  arrow := " -> "
  opening := " [label="
  separator := ','
  mark k := " " ++ mark k
  closing := "];"
  oneLine := by decide
  arrow_mem := by decide
  arrow_not_mem := by decide
  mark_injective k k' := by cases k <;> cases k' <;> decide
  mark_plain := by
    intro k
    cases k <;> decide
  opening_head := by
    intro c hc
    obtain rfl : ' ' = c := by simpa using hc
    rfl

theorem Writer.follows_pretty : Writer.pretty.Follows Writer.prettyLayout where
  autoName_eq _ := rfl
  write_node name label marks := by
    simp [pretty, line, labelled, prettyLayout, Layout.attributes, String.toList_join, List.flatMap_map]
  write_arc source target label := by
    simp [pretty, line, labelled, prettyLayout, Layout.attributes]

/-! ## Lines -/

theorem marks_inj : ∀ {start accepting start' accepting' : Bool},
    marks start accepting = marks start' accepting' → start = start' ∧ accepting = accepting' := by
  decide

section Lines

variable {w : Writer} {l : Layout}

/-- the line of the node of a state, without its line break -/
def nodeText (l : Layout) (m : Automaton) (q : Nat) : List Char :=
  l.indent.toList ++ (node q).toList ++
    l.attributes (Numeral.decimal q) (marks (decide (q = m.start)) (m.isAccepting q))

/-- the line of the arc of an edge, without its line break -/
def edgeText (l : Layout) (m : Automaton) (alphabet : Alphabet) (q : Nat) (e : Edge) : List Char :=
  l.indent.toList ++ (node q).toList ++ l.arrow.toList ++ (node e.target).toList ++
    l.attributes (edgeLabel m alphabet q e.label) []

theorem not_mem_decimal {c : Char} (hc : isDigitOf 10 c = false) (q : Nat) : c ∉ (Numeral.decimal q).toList := by
  rw [toList_decimal]
  exact not_mem_toDigits (by decide) (by decide) hc

theorem not_mem_node {c : Char} (hc : isDigitOf 10 c = false) (h : c ∉ "node_".toList) (q : Nat) :
    c ∉ (node q).toList := by
  rw [node, String.toList_append, List.mem_append, not_or]
  exact ⟨h, not_mem_decimal hc q⟩

theorem newline_not_mem_edgeLabel (m : Automaton) (alphabet : Alphabet) (q : Nat) (a : Label) :
    '\n' ∉ (edgeLabel m alphabet q a).toList := by
  have hdecimal (a : Nat) : '\n' ∉ (Numeral.decimal a).toList := not_mem_decimal rfl a
  have hhex (a : Nat) : '\n' ∉ Nat.toDigits 16 a := not_mem_toDigits (by decide) (by decide) rfl
  cases a with
  | epsilon => simp [edgeLabel]
  | symbol a =>
    simp only [edgeLabel]
    split
    · simp [hdecimal]
    · split
      · simp only [Interval.text]
        split <;> simp [Numeral.hex, Numeral.hexDigits, hhex]
      · simp [hdecimal]

theorem isLine_nodeText (l : Layout) (m : Automaton) (q : Nat) : IsLine (nodeText l m q ++ ['\n']) := by
  refine ⟨nodeText l m q, rfl, ?_⟩
  have hnode : '\n' ∉ (node q).toList := not_mem_node rfl (by decide) q
  have hattributes := l.newline_not_mem_attributes (marks (decide (q = m.start)) (m.isAccepting q)) (not_mem_decimal rfl q)
  have hindent := l.oneLine.2 l.indent (by simp)
  simp [nodeText, hindent, hnode, hattributes]

theorem isLine_edgeText (l : Layout) (m : Automaton) (alphabet : Alphabet) (q : Nat) (e : Edge) :
    IsLine (edgeText l m alphabet q e ++ ['\n']) := by
  refine ⟨edgeText l m alphabet q e, rfl, ?_⟩
  have hnode (q : Nat) : '\n' ∉ (node q).toList := not_mem_node rfl (by decide) q
  have hattributes := l.newline_not_mem_attributes [] (newline_not_mem_edgeLabel m alphabet q e.label)
  have hindent := l.oneLine.2 l.indent (by simp)
  have harrow := l.oneLine.2 l.arrow (by simp)
  simp [edgeText, hindent, harrow, hnode, hattributes]

/-- only the line of an arc holds an arrow -/
theorem arrow_not_mem_nodeText (l : Layout) (m : Automaton) (q : Nat) : '>' ∉ nodeText l m q ++ ['\n'] := by
  have hnode : '>' ∉ (node q).toList := not_mem_node rfl (by decide) q
  have hattributes := l.arrow_not_mem_attributes (marks (decide (q = m.start)) (m.isAccepting q)) (not_mem_decimal rfl q)
  have hindent := l.arrow_not_mem.2 l.indent (by simp)
  simp [nodeText, hindent, hnode, hattributes]

theorem arrow_mem_edgeText (l : Layout) (m : Automaton) (alphabet : Alphabet) (q : Nat) (e : Edge) :
    '>' ∈ edgeText l m alphabet q e ++ ['\n'] := by
  simp [edgeText, l.arrow_mem]

/-- the line of a node tells whether it is the start, and whether it accepts -/
theorem nodeText_inj {q : Nat} (h : nodeText l m q = nodeText l m' q) :
    (q = m.start ↔ q = m'.start) ∧ m.isAccepting q = m'.isAccepting q := by
  obtain ⟨hstart, haccepting⟩ := marks_inj (Layout.attributes_inj (List.append_cancel_left h))
  exact ⟨decide_eq_decide.1 hstart, haccepting⟩

/-- the line of an arc tells its target, and what it reads -/
theorem edgeText_injective (ha : alphabet.Ordered) (l : Layout) (m : Automaton) (q : Nat) :
    Function.Injective (edgeText l m alphabet q) := by
  intro e e' h
  unfold edgeText node Layout.attributes at h
  simp only [String.toList_append, toList_decimal, List.append_assoc, List.append_cancel_left_eq] at h
  -- the number of the target ends where what stands before the label begins
  have hstop (s : List Char) : ∀ c ∈ (l.opening.toList ++ '"' :: s).head?, isDigitOf 10 c = false := by
    intro c hc
    rw [List.head?_append, Option.mem_def, Option.or_eq_some_iff] at hc
    rcases hc with hc | ⟨-, hc⟩
    · exact l.opening_head c hc
    · obtain rfl : '"' = c := Option.some.inj hc
      rfl
  obtain ⟨htarget, hrest⟩ := toDigits_append_inj (by decide) (by decide) (hstop _) (hstop _) h
  have hlabel := String.toList_inj.1 (List.append_cancel_right (List.cons.inj (List.append_cancel_left hrest)).2)
  obtain ⟨a, t⟩ := e
  obtain ⟨a', t'⟩ := e'
  obtain rfl : t = t' := htarget
  obtain rfl : a = a' := edgeLabel_injective ha m q hlabel
  rfl

/-! ## Graphs -/

/-- the lines of a state: that of its node, and those of the arcs that leave it -/
def group (l : Layout) (m : Automaton) (alphabet : Alphabet) (q : Nat) : List Char × List (List Char) :=
  (nodeText l m q ++ ['\n'], (m.edges q).map fun e => edgeText l m alphabet q e ++ ['\n'])

/-- the lines of all states -/
def lines (l : Layout) (m : Automaton) (alphabet : Alphabet) : List (List Char) :=
  ((List.range m.stateCount).map (group l m alphabet)).flatMap fun g => g.1 :: g.2

/-- states that are drawn in the order of their numbers have nodes with the names by which arcs refer to them -/
theorem drawStates_eq (hw : w.Follows l) (m : Automaton) (alphabet : Alphabet) (stateLabel : Nat → String) (n count : Nat) :
    drawStates w m alphabet stateLabel count (List.range' count n) =
      (List.range' count n).flatMap fun q => drawState m alphabet stateLabel (node q) q := by
  induction n generalizing count with
  | zero => rfl
  | succ n ih => rw [List.range'_succ, drawStates, ih, List.flatMap_cons, hw.autoName_eq, node]

/-- what is written of a state -/
theorem flatMap_drawState (hw : w.Follows l) (m : Automaton) (alphabet : Alphabet) (q : Nat) :
    ((drawState m alphabet Numeral.decimal (node q) q).flatMap fun s => (w.write s).toList) =
      ((group l m alphabet q).1 :: (group l m alphabet q).2).flatten := by
  simp only [drawState, group, List.flatMap_cons, List.flatMap_map, hw.write_node, hw.write_arc,
    List.flatten_eq_flatMap, nodeText, edgeText, id]

/-- between two texts that depend on the title alone stand the lines of all states -/
theorem toList_ofAutomaton (hw : w.Follows l) (m : Automaton) (title : String) (alphabet : Alphabet) :
    (ofAutomaton m title alphabet w).toList =
      (w.opening ++ w.write (.title title) ++ w.write .leftToRight).toList ++ (lines l m alphabet).flatten ++
        w.closing.toList := by
  have hstates : (drawStates w m alphabet Numeral.decimal 0 (List.range m.stateCount)).flatMap
      (fun s => (w.write s).toList) = (lines l m alphabet).flatten := by
    rw [List.range_eq_range', drawStates_eq hw, List.flatMap_assoc, lines, List.flatMap_map, List.range_eq_range']
    simp only [flatMap_drawState hw, List.flatten_eq_flatMap, List.flatMap_assoc]
  rw [← hstates]
  simp only [ofAutomaton, render, Writer.text, String.toList_append, String.toList_join, List.map_cons, List.flatMap_cons,
    List.flatMap_map, List.append_assoc]

theorem isLine_of_mem_lines {t : List Char} (h : t ∈ lines l m alphabet) : IsLine t := by
  simp only [lines, group, List.mem_flatMap, List.mem_map, List.mem_range] at h
  obtain ⟨-, ⟨q, -, rfl⟩, ht⟩ := h
  dsimp only at ht
  rcases List.mem_cons.1 ht with rfl | ht
  · exact isLine_nodeText l m q
  · obtain ⟨e, -, rfl⟩ := List.mem_map.1 ht
    exact isLine_edgeText l m alphabet q e

/-- only the first line of a group holds no arrow -/
theorem group_head {g : List Char × List (List Char)} (h : g ∈ (List.range m.stateCount).map (group l m alphabet)) :
    '>' ∉ g.1 ∧ ∀ t ∈ g.2, ¬('>' ∉ t) := by
  obtain ⟨q, -, rfl⟩ := List.mem_map.1 h
  dsimp only [group]
  refine ⟨arrow_not_mem_nodeText l m q, ?_⟩
  intro t ht
  obtain ⟨e, -, rfl⟩ := List.mem_map.1 ht
  exact not_not_intro (arrow_mem_edgeText l m alphabet q e)

/-- the text tells the number of states and the lines of each -/
theorem group_eq_of_ofAutomaton_eq (hw : w.Follows l) {title : String}
    (h : ofAutomaton m title alphabet w = ofAutomaton m' title alphabet w) :
    m.stateCount = m'.stateCount ∧ ∀ q < m.stateCount, group l m alphabet q = group l m' alphabet q := by
  have hlist := congrArg String.toList h
  rw [toList_ofAutomaton hw, toList_ofAutomaton hw] at hlist
  have hlines : lines l m alphabet = lines l m' alphabet :=
    flatten_inj_of_isLine (fun _ => isLine_of_mem_lines) (fun _ => isLine_of_mem_lines)
      (List.append_cancel_left (List.append_cancel_right hlist))
  have hgroups := flatMap_cons_inj (p := fun t => '>' ∉ t) (fun _ => group_head) (fun _ => group_head) hlines
  have hcount : m.stateCount = m'.stateCount := by
    simpa using congrArg List.length hgroups
  refine ⟨hcount, ?_⟩
  intro q hq
  rw [← hcount] at hgroups
  exact List.map_inj_left.1 hgroups q (List.mem_range.2 hq)

/-- of the automaton what an arc shows depends only on whether it leaves the start -/
theorem edgeLabel_eq_of_start_eq (h : m.start = m'.start) (alphabet : Alphabet) (q : Nat) :
    edgeLabel m alphabet q = edgeLabel m' alphabet q := by
  funext a
  cases a <;> simp only [edgeLabel, h]

/-- two automata that nothing of what is drawn tells apart -/
structure SameGraph (m m' : Automaton) : Prop where
  stateCount_eq : m.stateCount = m'.stateCount
  start_eq : m.start = m'.start
  isAccepting_eq : ∀ q, m.isAccepting q = m'.isAccepting q
  edges_eq : ∀ q, m.edges q = m'.edges q

theorem SameGraph.ofAutomaton_eq (h : SameGraph m m') (title : String) (alphabet : Alphabet) (w : Writer) :
    ofAutomaton m title alphabet w = ofAutomaton m' title alphabet w := by
  have hstate : drawState m alphabet Numeral.decimal = drawState m' alphabet Numeral.decimal := by
    funext name q
    simp only [drawState, h.start_eq, h.isAccepting_eq, h.edges_eq, edgeLabel_eq_of_start_eq h.start_eq]
  have hstates (states : List Nat) (count : Nat) : drawStates w m alphabet Numeral.decimal count states =
      drawStates w m' alphabet Numeral.decimal count states := by
    induction states generalizing count with
    | nil => rfl
    | cons q states ih => rw [drawStates, drawStates, ih, hstate]
  rw [ofAutomaton, ofAutomaton, render, render, h.stateCount_eq, hstates]

end Lines

/-- **A graph loses nothing.** Let the start of an automaton be one of its states, and let a writer number the nodes as they
come and write statements in their order, each with its label between quotes as it is. Over the symbols of any intervals and
under any title, the automaton has the same text as another one if and only if they have the same number of states, the same
start and the same accepting states, and each state has the same edges: moves without input, several moves on one symbol,
and moves on symbols for which there is no interval are all told apart. -/
theorem ofAutomaton_eq_iff {w : Writer} {l : Layout} (hw : w.Follows l) (hs : m.start < m.stateCount) (title : String)
    (is : List Interval) :
    ofAutomaton m title (.ofIntervals is) w = ofAutomaton m' title (.ofIntervals is) w ↔ SameGraph m m' := by
  refine ⟨fun h => ?_, fun h => h.ofAutomaton_eq title _ w⟩
  obtain ⟨hcount, hgroup⟩ := group_eq_of_ofAutomaton_eq hw h
  simp only [group, Prod.mk.injEq, List.append_cancel_right_eq] at hgroup
  have hnode {q : Nat} (hq : q < m.stateCount) := nodeText_inj (hgroup q hq).1
  have hstart : m.start = m'.start := (hnode hs).1.1 rfl
  refine ⟨hcount, hstart, ?_, ?_⟩
  · intro q
    by_cases hq : q < m.stateCount
    · exact (hnode hq).2
    · rw [Automaton.isAccepting_eq_false (Nat.not_lt.1 hq), Automaton.isAccepting_eq_false (hcount ▸ Nat.not_lt.1 hq)]
  · intro q
    by_cases hq : q < m.stateCount
    · have hinj : Function.Injective fun e => edgeText l m (.ofIntervals is) q e ++ ['\n'] := fun e e' hee =>
        edgeText_injective (Alphabet.ordered_ofIntervals is) l m q (List.append_cancel_right hee)
      have hmap := (hgroup q hq).2
      simp only [edgeText, ← edgeLabel_eq_of_start_eq hstart] at hmap
      exact hinj.list_map hmap
    · rw [Automaton.edges_eq_nil hq, Automaton.edges_eq_nil (hcount ▸ hq)]

/-- arcs of each kind: a mode, a move without input, two moves on the letters, and a move on a symbol without an interval -/
def arcs (target : Nat) : Automaton :=
  { alphabetSize := 2
    states := #[{ edges := [⟨.symbol 0, 1⟩] },
      { edges := [⟨.epsilon, 2⟩, ⟨.symbol 0, 0⟩, ⟨.symbol 0, target⟩, ⟨.symbol 1, 2⟩] },
      { accepting := true }] }

/-- another target of one of the moves is seen -/
theorem ofAutomaton_eq_iff_arcs : Writer.pretty.Follows Writer.prettyLayout ∧ (arcs 2).start < (arcs 2).stateCount ∧
    ofAutomaton (arcs 2) "arcs" (.ofIntervals [⟨97, 122, by decide⟩]) .pretty ≠
      ofAutomaton (arcs 1) "arcs" (.ofIntervals [⟨97, 122, by decide⟩]) .pretty := by
  have hs : (arcs 2).start < (arcs 2).stateCount := by decide
  refine ⟨Writer.follows_pretty, hs, fun h => ?_⟩
  have hedges := ((ofAutomaton_eq_iff Writer.follows_pretty hs "arcs" [⟨97, 122, by decide⟩]).1 h).edges_eq 1
  exact absurd hedges (by decide)

end Graph

end Munch
