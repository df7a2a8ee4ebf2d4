/-
The byte strings that expressions and rules stand for.

An expression may hold bytes that are no characters, so its meaning is a set of byte strings (`Expr.language`): a text is
its own bytes, a character is its UTF-8 form, and sequences, choices and repetitions are products, sums and powers. A rule
matches words of code points; `Regex.texts` is the set of the UTF-8 forms of the texts it matches.

Results:
- `characters?_eq_some_iff`, `utf8_injective`: bytes are read as the one text whose UTF-8 form they are.
- `texts_set` .. `texts_opt`, `texts_catAll`, `texts_altAll`, `texts_literal`: the texts of each form of rule.
- `texts_unfold`: the written out repetition has the texts of the repetition.
-/
import Mathlib.Tactic
import Mathlib.Computability.Language
import Munch.Expr.Lower
import Munch.Proofs.Language

namespace Munch

open Computability

/-! ## Texts as bytes -/

/-- the UTF-8 form of a text -/
def utf8 (text : List Char) : List UInt8 :=
  text.flatMap String.utf8EncodeChar

@[simp] theorem utf8_nil : utf8 [] = [] :=
  rfl

@[simp] theorem utf8_singleton (c : Char) : utf8 [c] = String.utf8EncodeChar c := by
  simp [utf8]

@[simp] theorem utf8_append (s t : List Char) : utf8 (s ++ t) = utf8 s ++ utf8 t :=
  List.flatMap_append

theorem toByteArray_utf8 (text : List Char) : (utf8 text).toByteArray = text.utf8Encode :=
  rfl

theorem mk_toArray (bytes : List UInt8) : ByteArray.mk bytes.toArray = bytes.toByteArray :=
  ByteArray.ext List.data_toByteArray.symm

/-- bytes are read as the text whose UTF-8 form they are -/
theorem Expr.characters?_eq_some_iff {bytes : List UInt8} {text : List Char} :
    Expr.characters? bytes = some text ↔ utf8 text = bytes := by
  unfold Expr.characters?
  rw [mk_toArray]
  constructor
  · intro h
    obtain ⟨cs, hd, rfl⟩ := Option.map_eq_some_iff.1 h
    have hs : bytes.toByteArray.utf8Decode?.isSome = true := by rw [hd]; rfl
    have hcs : bytes.toByteArray.utf8Decode?.get hs = cs := Option.get_of_eq_some hs hd
    have he := ByteArray.utf8Encode_get_utf8Decode? (b := bytes.toByteArray) (h := hs)
    rw [hcs] at he
    exact List.toByteArray_inj.1 he
  · rintro rfl
    rw [toByteArray_utf8, List.utf8Decode?_utf8Encode]
    rfl

/-- bytes that are read as no text are the UTF-8 form of none -/
theorem Expr.characters?_eq_none_iff {bytes : List UInt8} :
    Expr.characters? bytes = none ↔ ∀ text, utf8 text ≠ bytes := by
  rw [Option.eq_none_iff_forall_ne_some]
  exact forall_congr' fun text => not_congr characters?_eq_some_iff

theorem utf8_injective : Function.Injective utf8 := by
  intro s t h
  have hs : Expr.characters? (utf8 t) = some s := Expr.characters?_eq_some_iff.2 h
  have ht : Expr.characters? (utf8 t) = some t := Expr.characters?_eq_some_iff.2 rfl
  exact Option.some.inj (hs.symm.trans ht)

theorem toNat_ofNat_of_le {n : Nat} (h : n ≤ 0x7F) : (Char.ofNat n).toNat = n := by
  have hvalid : n.isValidChar := .inl (by omega)
  rw [Char.ofNat, dif_pos hvalid]
  rfl

/-- the UTF-8 form of an ASCII character is its number -/
theorem utf8EncodeChar_of_le {c : Char} (h : c.toNat ≤ 0x7F) : String.utf8EncodeChar c = [c.toNat.toUInt8] := by
  have hs : c.utf8Size = 1 := Char.utf8Size_eq_one_iff.2 h
  exact String.utf8EncodeChar_eq_singleton hs

/-! ## Expressions -/

/-- whether a number is in one of the ranges of a set -/
def RangeSet.Has (s : RangeSet) (n : Nat) : Prop :=
  ∃ r ∈ s.ranges, r.low ≤ n ∧ n ≤ r.high

/-- at least `least` and at most `most` words of a language, one after the other -/
def repeated (least : Nat) (most : Option Nat) (l : Language UInt8) : Language UInt8 :=
  {w | ∃ n, least ≤ n ∧ (∀ m, most = some m → n ≤ m) ∧ w ∈ l ^ n}

namespace Expr

mutual

/-- the byte strings that an expression stands for, where `looks` says so of the conditions -/
def language (looks : Look → Language UInt8) : Expr → Language UInt8
  | empty => 1
  | text bs => {bs}
  | characters s => {w | ∃ c : Char, s.Has c.toNat ∧ w = String.utf8EncodeChar c}
  | bytes s => {w | ∃ b : UInt8, s.Has b.toNat ∧ w = [b]}
  | look l => looks l
  | repetition least most _ body => repeated least most (language looks body)
  | capture _ _ body => language looks body
  | sequence items => (languages looks items).prod
  | choice branches => (languages looks branches).sum

/-- the languages of the expressions of a list -/
def languages (looks : Look → Language UInt8) : List Expr → List (Language UInt8)
  | [] => []
  | e :: rest => language looks e :: languages looks rest

end

end Expr

/-! ## Rules -/

namespace Regex

/-- the UTF-8 forms of the texts that a rule matches -/
def texts (r : Regex) : Language UInt8 :=
  {w | ∃ t : List Char, utf8 t = w ∧ r.Matches (t.map Char.toNat)}

theorem mem_texts {r : Regex} {w : List UInt8} :
    w ∈ r.texts ↔ ∃ t : List Char, utf8 t = w ∧ r.Matches (t.map Char.toNat) :=
  Iff.rfl

/-- a text is matched if its UTF-8 form is among those of the texts matched -/
theorem utf8_mem_texts {r : Regex} {t : List Char} : utf8 t ∈ r.texts ↔ r.Matches (t.map Char.toNat) := by
  constructor
  · rintro ⟨s, hs, h⟩
    rwa [utf8_injective hs] at h
  · intro h
    exact ⟨t, rfl, h⟩

theorem texts_set (is : List Interval) :
    (set is).texts = {w | ∃ c : Char, (∃ i ∈ is, i.contains c.toNat = true) ∧ w = String.utf8EncodeChar c} := by
  ext w
  constructor
  · rintro ⟨t, rfl, h⟩
    obtain ⟨n, ht, hn⟩ := lang_set_iff.1 h
    obtain ⟨c, rfl, rfl⟩ := List.map_eq_singleton_iff.1 ht
    exact ⟨c, hn, utf8_singleton c⟩
  · rintro ⟨c, hc, rfl⟩
    exact ⟨[c], utf8_singleton c, .set hc⟩

theorem texts_cat (a b : Regex) : (cat a b).texts = a.texts * b.texts := by
  ext w
  rw [Language.mem_mul]
  constructor
  · rintro ⟨t, rfl, h⟩
    obtain ⟨u, v, ht, hu, hv⟩ := lang_cat_iff.1 h
    obtain ⟨s, s', rfl, rfl, rfl⟩ := List.map_eq_append_iff.1 ht
    exact ⟨utf8 s, ⟨s, rfl, hu⟩, utf8 s', ⟨s', rfl, hv⟩, (utf8_append s s').symm⟩
  · rintro ⟨_, ⟨s, rfl, hs⟩, _, ⟨s', rfl, hs'⟩, rfl⟩
    refine ⟨s ++ s', utf8_append s s', ?_⟩
    rw [List.map_append]
    exact .cat hs hs'

theorem texts_alt (a b : Regex) : (alt a b).texts = a.texts + b.texts := by
  ext w
  simp only [Language.mem_add, mem_texts, Matches, lang_alt_iff, and_or_left, exists_or]

theorem texts_opt (a : Regex) : (opt a).texts = 1 + a.texts := by
  ext w
  simp only [Language.mem_add, Language.mem_one, mem_texts, Matches, lang_opt_iff, List.map_eq_nil_iff, and_or_left,
    exists_or, exists_eq_right, utf8_nil]
  exact or_congr_left eq_comm

theorem texts_plus (a : Regex) : (plus a).texts = a.texts * (star a).texts := by
  rw [← texts_cat]
  ext w
  simp only [mem_texts, Matches, lang_cat_iff, lang_plus_iff]

theorem texts_star_eq (a : Regex) : (star a).texts = 1 + a.texts * (star a).texts := by
  rw [← texts_plus, ← texts_opt]
  ext w
  simp only [mem_texts, Matches, lang_star_iff, lang_opt_iff]

/-- repetitions of a matched text are made of matched texts -/
theorem utf8_mem_kstar {a b : Regex} {w : List Nat} (h : b.Matches w) (hb : b = star a) {t : List Char}
    (ht : w = t.map Char.toNat) : utf8 t ∈ a.texts∗ := by
  induction h generalizing t with
  | starNil =>
    obtain rfl := List.map_eq_nil_iff.1 ht.symm
    exact Language.nil_mem_kstar _
  | starCons hu hv _ ihv =>
    obtain ⟨s, s', rfl, rfl, rfl⟩ := List.map_eq_append_iff.1 ht.symm
    cases hb
    rw [utf8_append, ← Language.one_add_self_mul_kstar_eq_kstar]
    exact Or.inr (Language.append_mem_mul ⟨s, rfl, hu⟩ (ihv rfl rfl))
  | _ => cases hb

theorem texts_star (a : Regex) : (star a).texts = a.texts∗ := by
  apply le_antisymm
  · rintro w ⟨t, rfl, h⟩
    exact utf8_mem_kstar h rfl rfl
  · have he := texts_star_eq a
    have hone : 1 ≤ (star a).texts := by
      rw [he]
      exact le_self_add
    have hmul : a.texts * (star a).texts ≤ (star a).texts := by
      conv_rhs => rw [he]
      exact le_add_self
    exact kstar_le_of_mul_le_right hone hmul

theorem texts_set_nil : (set []).texts = 0 := by
  rw [texts_set]
  simp
  rfl

theorem texts_empty : empty.texts = 1 := by
  rw [empty, texts_opt, texts_set_nil, add_zero]

theorem texts_catAll (rs : List Regex) : (catAll rs).texts = (rs.map texts).prod := by
  have hfold : ∀ (rs : List Regex) (r : Regex), (rs.foldl cat r).texts = r.texts * (rs.map texts).prod := by
    intro rs
    induction rs with
    | nil => simp
    | cons s rs ih =>
      intro r
      rw [List.foldl_cons, ih, texts_cat, mul_assoc, List.map_cons, List.prod_cons]
  cases rs with
  | nil => exact texts_empty
  | cons r rs => rw [catAll, hfold, List.map_cons, List.prod_cons]

theorem texts_altAll (rs : List Regex) : (altAll rs).texts = (rs.map texts).sum := by
  have hfold : ∀ (rs : List Regex) (r : Regex), (rs.foldl alt r).texts = r.texts + (rs.map texts).sum := by
    intro rs
    induction rs with
    | nil => simp
    | cons s rs ih =>
      intro r
      rw [List.foldl_cons, ih, texts_alt, add_assoc, List.map_cons, List.sum_cons]
  cases rs with
  | nil => exact texts_set_nil
  | cons r rs => rw [altAll, hfold, List.map_cons, List.sum_cons]

theorem contains_single_iff {c d : Char} : (Interval.single c).contains d.toNat = true ↔ d = c := by
  rw [Interval.contains_iff]
  change c.toNat ≤ d.toNat ∧ d.toNat ≤ c.toNat ↔ d = c
  constructor
  · rintro ⟨h, h'⟩
    exact Char.toNat_inj.1 (Nat.le_antisymm h' h)
  · rintro rfl
    exact ⟨Nat.le_refl _, Nat.le_refl _⟩

theorem texts_char (c : Char) : (char c).texts = {String.utf8EncodeChar c} := by
  rw [char, texts_set]
  ext w
  simp only [List.mem_singleton, exists_eq_left, contains_single_iff]
  exact Iff.rfl

theorem texts_literal (text : List Char) : (literal text).texts = {utf8 text} := by
  rw [literal, texts_catAll, List.map_map]
  induction text with
  | nil => rfl
  | cons c cs ih =>
    rw [List.map_cons, List.prod_cons, ih, Function.comp_apply, texts_char]
    exact Set.image2_singleton

/-! ## Repetitions -/

variable {l : Language UInt8} {w : List UInt8}

/-- up to `k` words of a language -/
theorem mem_one_add_pow {k : Nat} : w ∈ (1 + l) ^ k ↔ ∃ j ≤ k, w ∈ l ^ j := by
  induction k generalizing w with
  | zero => simp
  | succ k ih =>
    rw [pow_succ, mul_add, mul_one, Language.mem_add, ih, Language.mem_mul]
    constructor
    · rintro (⟨j, hj, hw⟩ | ⟨u, hu, v, hv, rfl⟩)
      · exact ⟨j, Nat.le_succ_of_le hj, hw⟩
      · obtain ⟨j, hj, hu⟩ := ih.1 hu
        refine ⟨j + 1, Nat.succ_le_succ hj, ?_⟩
        rw [pow_succ]
        exact Language.append_mem_mul hu hv
    · rintro ⟨j, hj, hw⟩
      rcases Nat.lt_or_eq_of_le hj with hj | rfl
      · exact Or.inl ⟨j, Nat.le_of_lt_succ hj, hw⟩
      · rw [pow_succ, Language.mem_mul] at hw
        obtain ⟨u, hu, v, hv, rfl⟩ := hw
        exact Or.inr ⟨u, ih.2 ⟨k, le_rfl, hu⟩, v, hv, rfl⟩

/-- `n` words of a language and then any number of them -/
theorem pow_mul_kstar (n : Nat) : l ^ n * l∗ = repeated n none l := by
  ext w
  rw [Language.kstar_eq_iSup_pow, Language.mul_iSup, Language.mem_iSup]
  constructor
  · rintro ⟨i, hw⟩
    rw [← pow_add] at hw
    exact ⟨n + i, Nat.le_add_right n i, by simp, hw⟩
  · rintro ⟨k, hk, -, hw⟩
    refine ⟨k - n, ?_⟩
    rwa [← pow_add, Nat.add_sub_cancel' hk]

/-- `n` words of a language and then up to `m - n` of them -/
theorem pow_mul_one_add_pow {n m : Nat} (h : n ≤ m) : l ^ n * (1 + l) ^ (m - n) = repeated n (some m) l := by
  ext w
  rw [Language.mem_mul]
  constructor
  · rintro ⟨u, hu, v, hv, rfl⟩
    obtain ⟨j, hj, hv⟩ := mem_one_add_pow.1 hv
    refine ⟨n + j, Nat.le_add_right n j, ?_, ?_⟩
    · rintro _ ⟨⟩
      omega
    · rw [pow_add]
      exact Language.append_mem_mul hu hv
  · rintro ⟨k, hk, hkm, hw⟩
    have hkm : k ≤ m := hkm m rfl
    rw [← Nat.add_sub_cancel' hk, pow_add, Language.mem_mul] at hw
    obtain ⟨u, hu, v, hv, rfl⟩ := hw
    exact ⟨u, hu, v, mem_one_add_pow.2 ⟨k - n, by omega, hv⟩, rfl⟩

theorem prod_map_texts_replicate (n : Nat) (r : Regex) : ((List.replicate n r).map texts).prod = r.texts ^ n := by
  rw [List.map_replicate, List.prod_replicate]

/-- the written out repetition has the texts of the repetition -/
theorem texts_unfold {least : Nat} {most : Option Nat} (body : Regex) (h : ∀ m, most = some m → least ≤ m) :
    ∃ r, Expr.unfold least most body = .ok r ∧ r.texts = repeated least most body.texts := by
  rcases most with - | m
  · rcases least with - | n
    · refine ⟨_, rfl, ?_⟩
      rw [texts_catAll, List.map_singleton, List.prod_singleton, texts_star, ← pow_mul_kstar, pow_zero, one_mul]
    · refine ⟨_, rfl, ?_⟩
      rw [texts_catAll, List.map_append, List.prod_append, prod_map_texts_replicate, List.map_singleton,
        List.prod_singleton, texts_plus, texts_star, ← mul_assoc, ← pow_succ, pow_mul_kstar]
  · have hm : least ≤ m := h m rfl
    refine ⟨_, if_pos hm, ?_⟩
    rw [texts_catAll, List.map_append, List.prod_append, prod_map_texts_replicate, prod_map_texts_replicate, texts_opt,
      pow_mul_one_add_pow hm]

end Regex

end Munch
