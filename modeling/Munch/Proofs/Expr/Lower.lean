/-
Making a rule of an expression keeps what the expression means.

`Lacks` says of a node, its parts apart, that no rule can have it: a condition on the place in the text, bytes that are no
text, a set with a byte that is no ASCII character. Nothing else stands in the way of a rule, and the counts of a
repetition are in order in every expression that a pattern can be read as.

Results:
- `Outcome`: lowering gives a rule with the meaning asked for, or refuses the first node that lacks something.
- `Outcome.map`, `Outcome.bind`: the two ways in which the parts of an expression are put together.
- `map_ends_intervals_setRegex`, `texts_setRegex`: a set becomes intervals without a loss.
- `lowers`, `lowersAll`: what lowering comes to, by induction on the expression.
- `toRegex_exact`: there is a rule iff no node lacks anything, and it has the texts that the expression stands for.
-/
import Mathlib.Tactic
import Munch.Proofs.Expr.Language

namespace Munch.Expr

/-! ## What no rule can have -/

mutual

/-- an expression and its parts, from the outside and from the left -/
def nodes : Expr → List Expr
  | repetition least most greedy body => repetition least most greedy body :: nodes body
  | capture index name body => capture index name body :: nodes body
  | sequence items => sequence items :: nodesAll items
  | choice branches => choice branches :: nodesAll branches
  | empty => [empty]
  | text bs => [text bs]
  | characters s => [characters s]
  | bytes s => [bytes s]
  | look l => [look l]

/-- the nodes of all expressions of a list -/
def nodesAll : List Expr → List Expr
  | [] => []
  | e :: rest => nodes e ++ nodesAll rest

end

/-- what keeps a node, its parts apart, from being a rule -/
inductive Lacks : Expr → Unsupported → Prop where
  /-- bytes that are no text -/
  | text {bs : List UInt8} (h : ∀ t, utf8 t ≠ bs) : Lacks (text bs) (.text bs)
  /-- a byte that is no ASCII character -/
  | bytes {s : RangeSet} {r : Range} (hr : r ∈ s.ranges) (h : 0x7F < r.high) : Lacks (bytes s) (.byteClass s)
  /-- a condition on the place in the text -/
  | look (l : Look) : Lacks (look l) (.assertion l)

/-- nothing keeps the node from being a rule -/
def Supported (e : Expr) : Prop :=
  ∀ u, ¬ e.Lacks u

/-- `u` is what the first node lacks that lacks something -/
def FirstLack (nodes : List Expr) (u : Unsupported) : Prop :=
  ∃ before node after, nodes = before ++ node :: after ∧ (∀ n ∈ before, n.Supported) ∧ node.Lacks u

/-- the counts of all repetitions are in order -/
def Counted (nodes : List Expr) : Prop :=
  ∀ least m greedy body, repetition least (some m) greedy body ∈ nodes → least ≤ m

variable {ns ms : List Expr} {u : Unsupported}

theorem Counted.left (h : Counted (ns ++ ms)) : Counted ns :=
  fun l m g b hb => h l m g b (List.mem_append_left ms hb)

theorem Counted.right (h : Counted (ns ++ ms)) : Counted ms :=
  fun l m g b hb => h l m g b (List.mem_append_right ns hb)

theorem Counted.tail {e : Expr} (h : Counted (e :: ns)) : Counted ns :=
  fun l m g b hb => h l m g b (List.mem_cons_of_mem e hb)

theorem FirstLack.append_right (h : FirstLack ns u) (ms : List Expr) : FirstLack (ns ++ ms) u := by
  obtain ⟨before, node, after, rfl, hb, hn⟩ := h
  exact ⟨before, node, after ++ ms, by simp, hb, hn⟩

theorem FirstLack.append_left (hs : ∀ n ∈ ns, n.Supported) (h : FirstLack ms u) : FirstLack (ns ++ ms) u := by
  obtain ⟨before, node, after, rfl, hb, hn⟩ := h
  refine ⟨ns ++ before, node, after, by simp, ?_, hn⟩
  intro n hmem
  rcases List.mem_append.1 hmem with hmem | hmem
  · exact hs n hmem
  · exact hb n hmem

theorem FirstLack.singleton {e : Expr} (h : e.Lacks u) : FirstLack [e] u :=
  ⟨[], e, [], rfl, by simp, h⟩

theorem FirstLack.not_supported (h : FirstLack ns u) : ¬ ∀ n ∈ ns, n.Supported := by
  obtain ⟨before, node, after, rfl, -, hn⟩ := h
  intro hs
  exact hs node (by simp) u hn

/-! ## What lowering comes to -/

/-- lowering gives what is asked for, or refuses the first node that lacks something -/
inductive Outcome {α : Type} (nodes : List Expr) (Meant : α → Prop) : Except Refusal α → Prop where
  | lowered {a : α} (hs : ∀ n ∈ nodes, n.Supported) (ha : Meant a) : Outcome nodes Meant (.ok a)
  | refused {u : Unsupported} (h : FirstLack nodes u) : Outcome nodes Meant (.error (.unsupported u))

variable {α β : Type} {P : α → Prop} {Q : β → Prop} {x : Except Refusal α}

theorem Outcome.map {f : α → β} (h : Outcome ns P x) (hf : ∀ a, P a → Q (f a)) : Outcome ns Q (x.map f) := by
  cases h with
  | lowered hs ha => exact .lowered hs (hf _ ha)
  | refused h => exact .refused h

theorem Outcome.bind {f : α → Except Refusal β} (h : Outcome ns P x) (hf : ∀ a, P a → Outcome ms Q (f a)) :
    Outcome (ns ++ ms) Q (x >>= f) := by
  cases h with
  | refused h => exact .refused (h.append_right ms)
  | @lowered a hs ha =>
    have hb := hf a ha
    change Outcome (ns ++ ms) Q (f a)
    generalize f a = y at hb ⊢
    cases hb with
    | refused h => exact .refused (h.append_left hs)
    | lowered hs' hb => exact .lowered (fun n hn => (List.mem_append.1 hn).elim (hs n) (hs' n)) hb

/-- a node around the parts that lacks nothing changes nothing -/
theorem Outcome.around {e : Expr} (he : e.Supported) (h : Outcome ns P x) : Outcome (e :: ns) P x := by
  have hs : ∀ n ∈ [e], n.Supported := by
    intro n hn
    rwa [List.mem_singleton.1 hn]
  cases h with
  | refused h => exact .refused (h.append_left hs)
  | lowered hs' ha => exact .lowered (fun n hn => (List.mem_cons.1 hn).elim (fun h => h ▸ he) (hs' n)) ha

theorem Outcome.single {e : Expr} {a : α} (he : e.Supported) (ha : P a) : Outcome [e] P (.ok a) :=
  .around he (.lowered (by simp) ha)

/-! ## The forms of expressions -/

variable (looks : Look → Language UInt8)

/-- what lowering an expression comes to -/
abbrev Lowers (e : Expr) : Prop :=
  Outcome e.nodes (fun r => r.texts = e.language looks) e.toRegex

/-- what lowering the expressions of a list comes to -/
abbrev LowersAll (es : List Expr) : Prop :=
  Outcome (nodesAll es) (fun rs => rs.map Regex.texts = languages looks es) (toRegexes es)

variable {looks}

theorem lowers_empty : Lowers looks empty :=
  .single (fun _ h => nomatch h) Regex.texts_empty

theorem lowers_text (bs : List UInt8) : Lowers looks (text bs) := by
  unfold Lowers
  rw [toRegex]
  split
  next cs hcs =>
    obtain rfl := characters?_eq_some_iff.1 hcs
    refine .single ?_ (Regex.texts_literal cs)
    rintro _ ⟨h⟩
    exact h cs rfl
  next hcs => exact .refused (.singleton (.text (characters?_eq_none_iff.1 hcs)))

/-- a set becomes intervals range by range -/
theorem map_ends_intervals_setRegex (s : RangeSet) :
    (setRegex s).intervals.map Interval.ends = s.ranges.map fun r => (r.low, r.high) := by
  rw [setRegex, Regex.intervals, List.map_map]
  rfl

/-- the intervals of a set have the numbers of the set -/
theorem exists_contains_iff {s : RangeSet} {n : Nat} :
    (∃ i ∈ (setRegex s).intervals, i.contains n = true) ↔ s.Has n := by
  have hends := map_ends_intervals_setRegex s
  calc (∃ i ∈ (setRegex s).intervals, i.contains n = true)
      ↔ ∃ x ∈ (setRegex s).intervals.map Interval.ends, x.1 ≤ n ∧ n ≤ x.2 := by
        simp [Interval.contains_iff, Interval.ends]
    _ ↔ s.Has n := by
        rw [hends]
        simp [RangeSet.Has]

theorem texts_setRegex (s : RangeSet) :
    (setRegex s).texts = {w | ∃ c : Char, s.Has c.toNat ∧ w = String.utf8EncodeChar c} := by
  rw [setRegex, Regex.texts_set]
  simp only [← exists_contains_iff]
  rfl

theorem lowers_characters (s : RangeSet) : Lowers looks (characters s) :=
  .single (fun _ h => nomatch h) (texts_setRegex s)

theorem isAscii_iff {s : RangeSet} : s.isAscii = true ↔ ∀ r ∈ s.ranges, r.high ≤ 0x7F := by
  simp [RangeSet.isAscii]

/-- one ASCII character is one byte -/
theorem texts_setRegex_of_isAscii {s : RangeSet} (h : s.isAscii = true) :
    (setRegex s).texts = {w | ∃ b : UInt8, s.Has b.toNat ∧ w = [b]} := by
  have hle : ∀ n, s.Has n → n ≤ 0x7F := by
    rintro n ⟨r, hr, -, hn⟩
    exact Nat.le_trans hn (isAscii_iff.1 h r hr)
  rw [texts_setRegex]
  ext w
  constructor
  · rintro ⟨c, hc, rfl⟩
    have hlt : c.toNat < UInt8.size := Nat.lt_of_le_of_lt (hle _ hc) (by decide)
    refine ⟨c.toNat.toUInt8, ?_, utf8EncodeChar_of_le (hle _ hc)⟩
    rwa [UInt8.toNat_ofNat_of_lt' hlt]
  · rintro ⟨b, hb, rfl⟩
    have hv := toNat_ofNat_of_le (hle _ hb)
    refine ⟨Char.ofNat b.toNat, by rwa [hv], ?_⟩
    rw [utf8EncodeChar_of_le (by rw [hv]; exact hle _ hb), hv]
    simp

theorem lowers_bytes (s : RangeSet) : Lowers looks (bytes s) := by
  unfold Lowers
  rw [toRegex]
  split_ifs with h
  · refine .single ?_ (texts_setRegex_of_isAscii h)
    intro u hu
    cases hu with
    | bytes hr hlt => exact absurd (isAscii_iff.1 h _ hr) (Nat.not_le.2 hlt)
  · rw [isAscii_iff] at h
    push Not at h
    obtain ⟨r, hr, hlt⟩ := h
    exact .refused (.singleton (.bytes hr hlt))

theorem lowers_look (l : Look) : Lowers looks (look l) :=
  .refused (.singleton (.look l))

theorem lowers_repetition {least : Nat} {most : Option Nat} {greedy : Bool} {body : Expr}
    (hm : ∀ m, most = some m → least ≤ m) (h : Lowers looks body) :
    Lowers looks (repetition least most greedy body) := by
  have hstep : ∀ r : Regex, r.texts = body.language looks →
      Outcome [] (fun r => r.texts = repeated least most (body.language looks))
        ((unfold least most r).mapError .fault) := by
    intro r hr
    obtain ⟨r', hu, ht⟩ := Regex.texts_unfold r hm
    rw [hu]
    exact .lowered (by simp) (by rw [ht, hr])
  have ho := h.bind hstep
  rw [List.append_nil] at ho
  exact .around (fun _ h => nomatch h) ho

theorem lowers_capture {index : Nat} {name : Option (List Char)} {body : Expr} (h : Lowers looks body) :
    Lowers looks (capture index name body) :=
  .around (fun _ h => nomatch h) h

theorem lowers_sequence {items : List Expr} (h : LowersAll looks items) : Lowers looks (sequence items) := by
  refine .around (fun _ h => nomatch h) (h.map ?_)
  intro rs hrs
  rw [Regex.texts_catAll, hrs, language]

theorem lowers_choice {branches : List Expr} (h : LowersAll looks branches) : Lowers looks (choice branches) := by
  refine .around (fun _ h => nomatch h) (h.map ?_)
  intro rs hrs
  rw [Regex.texts_altAll, hrs, language]

theorem lowersAll_nil : LowersAll looks [] :=
  .lowered (fun _ hn => nomatch hn) rfl

theorem lowersAll_cons {e : Expr} {rest : List Expr} (h : Lowers looks e) (hs : LowersAll looks rest) :
    LowersAll looks (e :: rest) := by
  refine h.bind ?_
  intro r hr
  refine hs.map ?_
  intro rs hrs
  rw [List.map_cons, hr, hrs, languages]

mutual

theorem lowers : ∀ e : Expr, Counted e.nodes → Lowers looks e
  | empty, _ => lowers_empty
  | text bs, _ => lowers_text bs
  | characters s, _ => lowers_characters s
  | bytes s, _ => lowers_bytes s
  | look l, _ => lowers_look l
  | repetition least most greedy body, hc => by
    refine lowers_repetition ?_ (lowers body hc.tail)
    rintro m rfl
    exact hc least m greedy body List.mem_cons_self
  | capture _ _ body, hc => lowers_capture (lowers body hc.tail)
  | sequence items, hc => lowers_sequence (lowersAll items hc.tail)
  | choice branches, hc => lowers_choice (lowersAll branches hc.tail)

theorem lowersAll : ∀ es : List Expr, Counted (nodesAll es) → LowersAll looks es
  | [], _ => lowersAll_nil
  | e :: rest, hc => lowersAll_cons (lowers e hc.left) (lowersAll rest hc.right)

end

/-! ## Lowering is exact -/

/-- An expression whose counts are in order is made a rule iff no node lacks anything; otherwise what the first such node
lacks is refused. The rule matches a text iff the UTF-8 form of the text is among the byte strings that the expression
stands for, which are all of this form, and its intervals have their ends in order. -/
theorem toRegex_exact (looks : Look → Language UInt8) {e : Expr} (hc : Counted e.nodes) :
    ((∃ r, e.toRegex = .ok r) ↔ ∀ n ∈ e.nodes, n.Supported) ∧
      (∀ refusal, e.toRegex = .error refusal → ∃ u, refusal = .unsupported u ∧ FirstLack e.nodes u) ∧
      ∀ r, e.toRegex = .ok r →
        (∀ t : List Char, r.Matches (t.map Char.toNat) ↔ utf8 t ∈ e.language looks) ∧
        (∀ w ∈ e.language looks, ∃ t, utf8 t = w) ∧
        ∀ i ∈ r.intervals, i.start ≤ i.stop := by
  have h : Lowers looks e := lowers e hc
  unfold Lowers at h
  generalize e.toRegex = x at h ⊢
  cases h with
  | refused h =>
    refine ⟨?_, ?_, ?_⟩
    · refine ⟨?_, fun hs => absurd hs h.not_supported⟩
      rintro ⟨r, ⟨⟩⟩
    · rintro _ ⟨⟩
      exact ⟨_, rfl, h⟩
    · rintro _ ⟨⟩
  | @lowered r hs ht =>
    refine ⟨⟨fun _ => hs, fun _ => ⟨r, rfl⟩⟩, ?_, ?_⟩
    · rintro _ ⟨⟩
    · rintro _ ⟨⟩
      rw [← ht]
      exact ⟨fun t => Regex.utf8_mem_texts.symm, fun w ⟨t, hw, _⟩ => ⟨t, hw⟩, fun i _ => i.start_le_stop⟩

/-- one to three letters `a` or digits, as few as possible -/
def shortCode : Expr :=
  repetition 1 (some 3) false (choice [text [0x61], bytes ⟨[⟨0x30, 0x39, by decide⟩]⟩])

theorem toRegex_exact_shortCode :
    Counted shortCode.nodes ∧ ∃ r, shortCode.toRegex = .ok r ∧ r.Matches (['a', '7'].map Char.toNat) := by
  have hc : Counted shortCode.nodes := by
    intro least m greedy body h
    simp only [shortCode, nodes, nodesAll, List.append_nil, List.cons_append, List.nil_append, List.mem_cons,
      repetition.injEq, Option.some.injEq, reduceCtorEq, or_false, List.not_mem_nil] at h
    omega
  obtain ⟨-, -, hm⟩ := toRegex_exact (fun _ => 0) hc
  refine ⟨hc, _, rfl, ?_⟩
  rw [(hm _ rfl).1]
  refine ⟨2, by omega, by simp, Language.mem_pow.2 ⟨[[0x61], [0x37]], rfl, rfl, ?_⟩⟩
  intro y hy
  simp only [languages, language, List.sum_cons, Language.mem_add]
  rcases List.mem_cons.1 hy with rfl | hy
  · exact Or.inl rfl
  · obtain rfl := List.mem_singleton.1 hy
    exact Or.inr (Or.inl ⟨0x37, ⟨⟨0x30, 0x39, by decide⟩, by decide⟩, rfl⟩)

end Munch.Expr
