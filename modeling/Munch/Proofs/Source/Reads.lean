/-
What the readers of source texts promise.

`Reads P r text a` says that the reader `r` takes `text` for `a` in front of every text that has `P`, and that blanks and
comments before it make no difference. So what is read of a text follows from what is read of its parts.

Results:
- `Reads.bind`, `Reads.andThen`, `Reads.lead`, `Reads.trail`: readers one after the other read texts one after the other,
  with any blanks between them.
- `reads_words`, `reads_decimal`, `reads_hex`, `reads_bool`, `reads_option`, `reads_quoted`: the smallest parts of a source
  text are read as what they were written for.
- `Listed.elements`, `length_of_elements`: the elements of a list are read if each of them is, and only as many as asked for.
-/
import Mathlib.Tactic
import Munch.Proofs.Source.Reader

namespace Munch.Source

/-! ## Blanks -/

/-- text that makes no difference to what is read behind it -/
def Blank (gap : List Char) : Prop :=
  ∀ text, skip 0 (gap ++ text) = skip 0 text

theorem Blank.nil : Blank [] :=
  fun _ => rfl

theorem Blank.append {g h : List Char} (hg : Blank g) (hh : Blank h) : Blank (g ++ h) := by
  intro text
  rw [List.append_assoc, hg, hh]

theorem skip_cons {c : Char} (hc : c ≠ '/') (text : List Char) :
    skip 0 (c :: text) = if c.isWhitespace then skip 0 text else c :: text := by
  rw [skip]
  rintro _ rfl
  exact absurd rfl hc

theorem Blank.cons {c : Char} {gap : List Char} (hc : c.isWhitespace = true) (hg : Blank gap) : Blank (c :: gap) := by
  have hne : c ≠ '/' := by
    rintro rfl
    cases hc
  intro text
  rw [List.cons_append, skip_cons hne, if_pos hc, hg]

theorem blank_of_isWhitespace {g : List Char} (h : g.all Char.isWhitespace = true) : Blank g := by
  induction g with
  | nil => exact .nil
  | cons c g ih =>
    rw [List.all_cons, Bool.and_eq_true] at h
    exact .cons h.1 (ih h.2)

theorem blank_space : Blank [' '] :=
  .cons rfl .nil

theorem blank_newline : Blank ['\n'] :=
  .cons rfl .nil

theorem skip_comment {text : List Char} (rest : List Char) (h : ∀ c ∈ text, c ≠ '*' ∧ c ≠ '/') :
    skip 1 (text ++ '*' :: '/' :: rest) = skip 0 rest := by
  induction text with
  | nil => rfl
  | cons c text ih =>
    obtain ⟨hs, hb⟩ := h c List.mem_cons_self
    rw [List.cons_append, skip, ih fun c hc => h c (List.mem_cons_of_mem _ hc)]
    · rintro _ rfl
      exact absurd rfl hs
    · rintro _ rfl
      exact absurd rfl hb

/-- a comment without stars and slashes in it is a blank -/
theorem blank_comment {text : List Char} (h : ∀ c ∈ text, c ≠ '*' ∧ c ≠ '/') :
    Blank ('/' :: '*' :: (text ++ ['*', '/'])) := by
  intro rest
  rw [List.cons_append, List.cons_append, List.append_assoc, skip]
  exact skip_comment rest h

/-- the text begins neither with a blank nor with a comment -/
def Solid (text : List Char) : Prop :=
  ∃ c rest, text = c :: rest ∧ c.isWhitespace = false ∧ c ≠ '/'

theorem Solid.skip {text : List Char} (h : Solid text) (rest : List Char) : skip 0 (text ++ rest) = text ++ rest := by
  obtain ⟨c, text, rfl, hw, hc⟩ := h
  rw [List.cons_append, skip_cons hc, hw]
  exact if_neg Bool.false_ne_true

/-! ## What readers promise -/

variable {α β : Type}

/-- In front of all that has `P`, and behind blanks, the reader takes the text for `a`; it may leave blanks at the end of
the text. -/
def Reads (P : List Char → Prop) (r : Reader α) (text : List Char) (a : α) : Prop :=
  ∀ gap rest, Blank gap → P rest → ∃ left, Blank left ∧ r (gap ++ (text ++ rest)) = some (a, left ++ rest)

/-- behind blanks, the reader does not take the text -/
def Rejects (r : Reader α) (text : List Char) : Prop :=
  ∀ gap rest, Blank gap → r (gap ++ (text ++ rest)) = none

/-- any text -/
def Anything (_ : List Char) : Prop :=
  True

/-- what may stand behind a number -/
def Ends (text : List Char) : Prop :=
  ∃ c rest, text = c :: rest ∧ c ∈ [',', ';', ')', ']']

variable {P Q : List Char → Prop} {r : Reader α} {text u gap : List Char} {a : α} {b : β}

theorem Reads.pure (a : α) : Reads P (pure a) [] a :=
  fun gap _ hg _ => ⟨gap, hg, rfl⟩

/-- readers one after the other read texts one after the other -/
theorem Reads.bind {f : α → Reader β} (h : Reads P r text a) (hf : Reads Q (f a) u b)
    (hP : ∀ rest, Q rest → P (u ++ rest)) : Reads Q (r >>= f) (text ++ u) b := by
  intro gap rest hg hr
  obtain ⟨left, hl, hread⟩ := h gap (u ++ rest) hg (hP rest hr)
  obtain ⟨left', hl', hread'⟩ := hf left rest hl hr
  refine ⟨left', hl', ?_⟩
  rw [List.append_assoc]
  change (r _).bind (fun p => f p.1 p.2) = _
  rw [hread]
  exact hread'

/-- readers one after the other, where the first does not mind what comes behind its text -/
theorem Reads.andThen {f : α → Reader β} (h : Reads Anything r text a) (hf : Reads Q (f a) u b) :
    Reads Q (r >>= f) (text ++ u) b :=
  h.bind hf fun _ _ => trivial

theorem Reads.bind_pure {f : α → β} (h : Reads P r text a) : Reads P (do let a ← r; return f a) text (f a) := by
  have hlast : Reads P (return f a) [] (f a) := .pure (f a)
  have hread : Reads P (do let a ← r; return f a) (text ++ []) (f a) := h.bind hlast fun _ hr => hr
  rwa [List.append_nil] at hread

theorem Reads.of_eq (h : Reads P r text a) (hu : u = text) : Reads P r u a := by
  rwa [hu]

theorem Reads.anywhere (h : Reads Anything r text a) : Reads P r text a :=
  fun gap rest hg _ => h gap rest hg trivial

theorem Reads.lead (hg : Blank gap) (h : Reads P r text a) : Reads P r (gap ++ text) a := by
  intro g rest hg' hr
  obtain ⟨left, hl, hread⟩ := h (g ++ gap) rest (hg'.append hg) hr
  refine ⟨left, hl, ?_⟩
  rwa [List.append_assoc, ← List.append_assoc g]

theorem Reads.trail (h : Reads Anything r text a) (hg : Blank gap) : Reads Anything r (text ++ gap) a := by
  intro g rest hg' hr
  obtain ⟨left, hl, hread⟩ := h g (gap ++ rest) hg' trivial
  refine ⟨left ++ gap, hl.append hg, ?_⟩
  rwa [List.append_assoc, List.append_assoc]

theorem Reads.orElse_left {r' : Reader α} (h : Reads P r text a) : Reads P (r <|> r') text a := by
  intro gap rest hg hr
  obtain ⟨left, hl, hread⟩ := h gap rest hg hr
  refine ⟨left, hl, ?_⟩
  change (r _).orElse (fun _ => r' _) = _
  rw [hread]
  rfl

theorem Reads.orElse_right {r' : Reader α} (hr : Rejects r text) (h : Reads P r' text a) :
    Reads P (r <|> r') text a := by
  intro gap rest hg hrest
  obtain ⟨left, hl, hread⟩ := h gap rest hg hrest
  refine ⟨left, hl, ?_⟩
  change (r _).orElse (fun _ => r' _) = _
  rw [hr gap rest hg]
  exact hread

theorem Rejects.bind {f : α → Reader β} (h : Rejects r text) : Rejects (r >>= f) text := by
  intro gap rest hg
  change (r _).bind (fun p => f p.1 p.2) = _
  rw [h gap rest hg]
  rfl

/-! ## Words -/

theorem exactly_append (w : String) (rest : List Char) : exactly w (w.toList ++ rest) = some ((), rest) := by
  simp [exactly]

theorem word_append {w : String} (hw : Solid w.toList) (hg : Blank gap) (rest : List Char) :
    word w (gap ++ (w.toList ++ rest)) = some ((), rest) := by
  rw [word, hg, hw.skip]
  exact exactly_append w rest

/-- whether a word begins neither with a blank nor with a comment -/
def solid (w : String) : Bool :=
  w.toList.head?.any fun c => !c.isWhitespace && c != '/'

theorem solid_iff {w : String} : solid w = true ↔ Solid w.toList := by
  unfold solid Solid
  cases w.toList with
  | nil => simp
  | cons c rest => simp

theorem reads_word {w : String} (hw : solid w = true) : Reads Anything (word w) w.toList () :=
  fun _ rest hg _ => ⟨[], .nil, word_append (solid_iff.1 hw) hg rest⟩

/-- a word behind which nothing more is read -/
theorem reads_last {w : String} (hw : solid w = true) (a : α) :
    Reads Anything (do word w; return a) w.toList a :=
  (reads_word hw).bind_pure

/-- a word is rejected where the text begins with another letter -/
theorem rejects_word {w : String} {c : Char} (hs : Solid (c :: text)) (hne : w.toList.head? ≠ some c)
    (hw : w.toList ≠ []) : Rejects (word w) (c :: text) := by
  obtain ⟨d, ds, hd⟩ := List.exists_cons_of_ne_nil hw
  have hdc : d ≠ c := by
    rintro rfl
    exact hne (by rw [hd]; rfl)
  intro gap rest hg
  rw [word, hg, hs.skip, exactly, hd]
  simp [hdc]

/-- words with blanks behind them -/
theorem reads_words (parts : List (String × String))
    (h : (parts.all fun p => solid p.1 && p.2.toList.all Char.isWhitespace) = true) :
    Reads Anything (words (parts.map Prod.fst)) (parts.flatMap fun p => p.1.toList ++ p.2.toList) () := by
  induction parts with
  | nil => exact .pure ()
  | cons p parts ih =>
    rw [List.all_cons, Bool.and_eq_true, Bool.and_eq_true] at h
    have hword := (reads_word h.1.1).trail (blank_of_isWhitespace h.1.2)
    exact hword.andThen (ih h.2)

/-! ## Numbers -/

theorem hexValue?_digitChar : ∀ d < 16, Numeral.hexValue? (Nat.digitChar d) = some d := by
  decide

theorem isDigitOf_iff {base : Nat} {c : Char} :
    isDigitOf base c = true ↔ ∃ d, Numeral.hexValue? c = some d ∧ d < base := by
  simp [isDigitOf, Option.any_eq_true]

theorem isDigitOf_digitChar {base d : Nat} (hb : base ≤ 16) (hd : d < base) : isDigitOf base (Nat.digitChar d) = true :=
  isDigitOf_iff.2 ⟨d, hexValue?_digitChar d (Nat.lt_of_lt_of_le hd hb), hd⟩

theorem withDigits_append (base n : Nat) (ds es : List Char) :
    withDigits base n (ds ++ es) = withDigits base (withDigits base n ds) es :=
  List.foldl_append

/-- the digits of a number are digits, and give the number back -/
theorem toDigits_read (base n : Nat) (h1 : 1 < base) (hb : base ≤ 16) :
    (∀ c ∈ Nat.toDigits base n, isDigitOf base c = true) ∧ withDigits base 0 (Nat.toDigits base n) = n := by
  have hone : ∀ m d, d < base → withDigits base m [Nat.digitChar d] = base * m + d := by
    intro m d hd
    simp [withDigits, hexValue?_digitChar d (by omega)]
  induction n using Nat.strong_induction_on with
  | _ n ih =>
    by_cases hn : n < base
    · rw [Nat.toDigits_of_lt_base hn]
      refine ⟨?_, by rw [hone 0 n hn, mul_zero, zero_add]⟩
      intro c hc
      rw [List.mem_singleton.1 hc]
      exact isDigitOf_digitChar hb hn
    · have hmod : n % base < base := Nat.mod_lt n (by omega)
      obtain ⟨hd, hv⟩ := ih (n / base) (Nat.div_lt_self (by omega) h1)
      rw [Nat.toDigits_of_base_le h1 (Nat.not_lt.1 hn)]
      constructor
      · intro c hc
        rcases List.mem_append.1 hc with hc | hc
        · exact hd c hc
        · rw [List.mem_singleton.1 hc]
          exact isDigitOf_digitChar hb hmod
      · rw [withDigits_append, hv, hone _ _ hmod, Nat.div_add_mod]

/-- a digit is neither a blank nor a part of a mark -/
theorem isDigitOf_ne {base : Nat} {c : Char} (h : isDigitOf base c = true) :
    c.isWhitespace = false ∧ c ≠ '/' ∧ c ≠ '*' ∧ c ≠ 'x' := by
  have hne : ∀ d, Numeral.hexValue? d = none → c ≠ d := by
    rintro d hd rfl
    rw [isDigitOf, hd] at h
    cases h
  refine ⟨?_, hne '/' rfl, hne '*' rfl, hne 'x' rfl⟩
  simp [Char.isWhitespace, hne ' ' rfl, hne '\t' rfl, hne '\r' rfl, hne '\n' rfl]

theorem Ends.not_isDigitOf {rest : List Char} (h : Ends rest) (base : Nat) :
    rest.takeWhile (isDigitOf base) = [] ∧ rest.dropWhile (isDigitOf base) = rest := by
  obtain ⟨c, rest, rfl, hc⟩ := h
  have hd : Numeral.hexValue? c = none := by
    simp only [List.mem_cons, List.not_mem_nil, or_false] at hc
    rcases hc with rfl | rfl | rfl | rfl <;> rfl
  have hb : isDigitOf base c = false := by rw [isDigitOf, hd]; rfl
  simp [hb]

theorem digits_append {base : Nat} {ds rest : List Char} (hne : ds ≠ []) (hds : ∀ c ∈ ds, isDigitOf base c = true)
    (hr : Ends rest) : digits base (ds ++ rest) = some (withDigits base 0 ds, rest) := by
  obtain ⟨ht, hd⟩ := hr.not_isDigitOf base
  simp only [digits, List.takeWhile_append_of_pos hds, List.dropWhile_append_of_pos hds, ht, hd, List.append_nil,
    List.isEmpty_iff, if_neg hne]

/-- no number begins with the mark of hexadecimal numbers -/
theorem not_marked {ds rest : List Char} (hds : ∀ c ∈ ds, isDigitOf 10 c = true) (hr : Ends rest) :
    ¬ ['0', 'x'].isPrefixOf (ds ++ rest) = true := by
  obtain ⟨e, rest, rfl, he⟩ := hr
  intro h
  obtain ⟨t, ht⟩ := List.isPrefixOf_iff_prefix.1 h
  -- the mark is two characters long: both are digits, or the second or first stands behind the number
  rcases ds with - | ⟨c, - | ⟨d, ds⟩⟩
  · obtain rfl := (List.cons.inj ht).1
    revert he
    decide
  · obtain rfl := (List.cons.inj (List.cons.inj ht).2).1
    revert he
    decide
  · have hx : 'x' = d := (List.cons.inj (List.cons.inj ht).2).1
    have hd : isDigitOf 10 d = true := hds d (by simp)
    exact (isDigitOf_ne hd).2.2.2 hx.symm

theorem solid_of_isDigitOf {base : Nat} {ds : List Char} (hne : ds ≠ []) (hds : ∀ c ∈ ds, isDigitOf base c = true) :
    Solid ds := by
  obtain ⟨c, cs, rfl⟩ := List.exists_cons_of_ne_nil hne
  obtain ⟨hw, hb, -⟩ := isDigitOf_ne (hds c List.mem_cons_self)
  exact ⟨c, cs, rfl, hw, hb⟩

/-- decimal numbers are read as what they were written for -/
theorem reads_decimal (n : Nat) : Reads Ends natural (Numeral.decimal n).toList n := by
  obtain ⟨hds, hv⟩ := toDigits_read 10 n (by decide) (by decide)
  have hne : Nat.toDigits 10 n ≠ [] := Nat.toDigits_ne_nil
  intro gap rest hg hr
  refine ⟨[], .nil, ?_⟩
  rw [Numeral.decimal, String.toList_ofList, natural, hg, (solid_of_isDigitOf hne hds).skip]
  simp only [if_neg (not_marked hds hr), digits_append hne hds hr, hv, List.nil_append]

/-- hexadecimal numbers are read as what they were written for -/
theorem reads_hex (n : Nat) : Reads Ends natural (Numeral.hex n).toList n := by
  obtain ⟨hds, hv⟩ := toDigits_read 16 n (by decide) (by decide)
  have hne : Nat.toDigits 16 n ≠ [] := Nat.toDigits_ne_nil
  have hs : Solid ('0' :: 'x' :: Nat.toDigits 16 n) := ⟨'0', _, rfl, rfl, by decide⟩
  intro gap rest hg hr
  refine ⟨[], .nil, ?_⟩
  rw [Numeral.hex, String.toList_ofList, Numeral.hexDigits, natural, hg, hs.skip]
  have hd := digits_append hne hds hr
  rw [hv] at hd
  exact hd

/-! ## Truth values and numbers that may be missing -/

theorem reads_bool (b : Bool) : Reads Anything boolean (bool b).toList b := by
  cases b with
  | true => exact .orElse_left (reads_last rfl true)
  | false =>
    have hr : Rejects (word "true") "false".toList :=
      rejects_word ⟨'f', _, rfl, rfl, by decide⟩ (by decide) (by decide)
    exact .orElse_right hr.bind (reads_last rfl false)

theorem reads_option (n : Option Nat) : Reads Anything optional (option n).toList n := by
  cases n with
  | none => exact .orElse_left (reads_last rfl none)
  | some n =>
    have htext : (option (some n)).toList = "Some(".toList ++ ((Numeral.decimal n).toList ++ ")".toList) := by
      simp [option]
    have hopen : Reads Anything (words ["Some", "("]) "Some(".toList () :=
      reads_words [("Some", ""), ("(", "")] rfl
    have hnumber : Reads Anything (do let n ← natural; word ")"; return some n)
        ((Numeral.decimal n).toList ++ ")".toList) (some n) :=
      (reads_decimal n).bind (reads_last rfl (some n)) fun rest _ => ⟨')', rest, rfl, by decide⟩
    have hr : Rejects (word "None") (option (some n)).toList := by
      rw [htext]
      exact rejects_word ⟨'S', _, rfl, rfl, by decide⟩ (by decide) (by decide)
    refine .orElse_right hr.bind ?_
    rw [htext]
    exact hopen.andThen hnumber

/-! ## Quoted text -/

/-- the digits of the number of a character, up to the brace -/
theorem body_number {ds : List Char} (hds : ∀ c ∈ ds, isDigitOf 16 c = true) (count value : Nat) (rest : List Char) :
    body (.number count value) (ds ++ rest) = body (.number (count + ds.length) (withDigits 16 value ds)) rest := by
  induction ds generalizing count value with
  | nil => rfl
  | cons c ds ih =>
    have hc : isDigitOf 16 c = true := hds c List.mem_cons_self
    obtain ⟨d, hd, -⟩ := isDigitOf_iff.1 hc
    have hne : c ≠ '}' := by
      rintro rfl
      cases hd
    rw [List.cons_append, body, if_neg hne, hd, Option.bind_some, ih fun c hc => hds c (List.mem_cons_of_mem _ hc)]
    simp [withDigits, hd, Nat.add_assoc, Nat.add_comm 1]

theorem body_byNumber (c : Char) (rest : List Char) :
    body .plain (Quoted.byNumber c ++ rest) = (body .plain rest).map (push c) := by
  obtain ⟨hds, hv⟩ := toDigits_read 16 c.toNat (by decide) (by decide)
  have hpos : 0 < (Nat.toDigits 16 c.toNat).length := Nat.length_toDigits_pos
  have hvalid : c.toNat.isValidChar := c.valid
  have hlen : (Nat.toDigits 16 c.toNat).length ≤ 6 := by
    rw [Nat.length_toDigits_le_iff (by decide) (by decide)]
    rcases hvalid with hlt | ⟨-, hlt⟩
    · omega
    · omega
  have hopen : body .plain (Quoted.byNumber c ++ rest) =
      body (.number 0 0) (Nat.toDigits 16 c.toNat ++ '}' :: rest) := by
    simp [Quoted.byNumber, Numeral.hexDigits, body]
  rw [hopen, body_number hds, hv, Nat.zero_add, body, if_pos rfl, if_pos ⟨hpos, hlen, hvalid⟩, Char.ofNat_toNat]

/-- a character is read as what it was escaped for -/
theorem body_escape (c : Char) (rest : List Char) :
    body .plain (Quoted.escape '"' c ++ rest) = (body .plain rest).map (push c) := by
  unfold Quoted.escape
  split_ifs with h0 ht hn hr hb hq hu
  · rw [h0]; rfl
  · rw [ht]; rfl
  · rw [hn]; rfl
  · rw [hr]; rfl
  · rw [hb]; rfl
  · rw [hq]; rfl
  · exact body_byNumber c rest
  · rw [List.singleton_append, body, if_neg hq, if_neg hb, if_neg hr]

theorem body_escaped (cs : List Char) (rest : List Char) :
    body .plain (cs.flatMap (Quoted.escape '"') ++ '"' :: rest) = some (cs, rest) := by
  induction cs with
  | nil => rfl
  | cons c cs ih =>
    rw [List.flatMap_cons, List.append_assoc, body_escape, ih]
    rfl

/-- a text is read as what it was quoted for, whatever characters it has -/
theorem reads_quoted (s : String) : Reads Anything quoted (Quoted.string s).toList s := by
  intro gap rest hg _
  refine ⟨[], .nil, ?_⟩
  have hs : Solid "\"".toList := ⟨'"', _, rfl, rfl, by decide⟩
  have htext : (Quoted.string s).toList ++ rest =
      "\"".toList ++ (s.toList.flatMap (Quoted.escape '"') ++ '"' :: rest) := by
    simp [Quoted.string]
  rw [htext]
  change (word "\"" _).bind _ = _
  rw [word_append hs hg]
  change (body .plain _).map _ = _
  rw [body_escaped]
  simp

/-! ## Lists -/

variable {item : Reader α} {as bs : List α}

theorem reads_comma : Reads Anything comma? [','] true :=
  .orElse_left (reads_last rfl true)

/-- before the closing bracket there is no comma -/
theorem reads_no_comma : Reads (fun rest => ∃ tail, rest = ']' :: tail) comma? [] false := by
  have hr : Rejects (word ",") "]".toList := rejects_word ⟨']', _, rfl, rfl, by decide⟩ (by decide) (by decide)
  rintro gap _ hg ⟨tail, rfl⟩
  refine ⟨gap, hg, ?_⟩
  have hnone := hr.bind (f := fun _ => pure true) gap tail hg
  change (Option.orElse _ fun _ => some (false, gap ++ ']' :: tail)) = _
  exact congrArg (Option.orElse · fun _ => some (false, gap ++ ']' :: tail)) hnone

/-- the elements as they are written, each read by the same reader: with a comma behind each of them, which may be left out
behind the last -/
inductive Listed (item : Reader α) : List α → List Char → Prop where
  | nil : Listed item [] []
  | gap {gap u : List Char} {as : List α} (hg : Blank gap) (h : Listed item as u) : Listed item as (gap ++ u)
  | last {text : List Char} {a : α} (h : Reads Ends item text a) : Listed item [a] text
  | cons {text u : List Char} {a : α} {as : List α} (h : Reads Ends item text a) (hs : Listed item as u) :
      Listed item (a :: as) (text ++ ',' :: u)

theorem Listed.of_eq (h : Listed item as text) (hu : u = text) : Listed item as u := by
  rwa [hu]

/-- the elements of a list are read if each of them is -/
theorem Listed.elements (h : Listed item as u) :
    Reads Anything (elements item as.length) (u ++ [']']) as := by
  induction h with
  | nil => exact reads_last rfl []
  | gap hg _ ih =>
    rw [List.append_assoc]
    exact .lead hg ih
  | last h =>
    refine h.bind ?_ fun rest _ => ⟨']', rest, rfl, by decide⟩
    exact reads_no_comma.bind (reads_last (w := "]") rfl [_]) fun rest _ => ⟨rest, rfl⟩
  | @cons text u a as h _ ih =>
    have hrest : Reads Anything (do let as ← Source.elements item as.length; return a :: as) (u ++ [']']) (a :: as) :=
      ih.bind_pure
    rw [List.append_assoc]
    exact h.bind (reads_comma.andThen hrest) fun rest _ => ⟨',', _, rfl, by decide⟩

/-- the value of a reader behind another comes from a value of the first -/
theorem exists_of_bind_eq_some {f : α → Reader β} {rest : List Char} (h : (r >>= f) text = some (b, rest)) :
    ∃ a left, r text = some (a, left) ∧ f a left = some (b, rest) := by
  change (r text).bind (fun p => f p.1 p.2) = _ at h
  obtain ⟨p, hr, hf⟩ := Option.bind_eq_some_iff.1 h
  exact ⟨p.1, p.2, hr, hf⟩

/-- a list is read only if it has the number of elements asked for -/
theorem length_of_elements {n : Nat} {rest : List Char} (h : elements item n text = some (as, rest)) : as.length = n := by
  induction n generalizing text as with
  | zero =>
    obtain ⟨-, left, -, h⟩ := exists_of_bind_eq_some h
    cases h
    rfl
  | succ n ih =>
    obtain ⟨a, left, -, h⟩ := exists_of_bind_eq_some h
    obtain ⟨more, left', -, h⟩ := exists_of_bind_eq_some h
    rcases more with - | -
    · rcases n with - | n
      · obtain ⟨-, left'', -, h⟩ := exists_of_bind_eq_some h
        cases h
        rfl
      · cases h
    · obtain ⟨as', left'', hs, h⟩ := exists_of_bind_eq_some h
      cases h
      rw [List.length_cons, ih hs]

end Munch.Source
