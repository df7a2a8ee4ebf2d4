/-
The words that regular expressions match.

`Regex.Lang atom` is the language of an expression over any letters: the parameter says which letters a set of intervals
has. With code points as letters that is `Regex.Matches`, the meaning of the rules of a lexer; with the symbols of an
alphabet it is `Regex.Spells`, what an automaton for the expression reads.

Results:
- `lang_set_iff` .. `lang_opt_iff`: the words of each form of expression.
- `lang_map_iff`: where the letters of two languages correspond, so do the words.
-/
import Mathlib.Tactic
import Munch.Alphabet.Basic
import Munch.Regex

namespace Munch

namespace Regex

/-- the words over the letters `σ` that an expression stands for, where `atom is c` says that the set `is` has `c` -/
inductive Lang {σ : Type} (atom : List Interval → σ → Prop) : Regex → List σ → Prop where
  | set {is : List Interval} {c : σ} (h : atom is c) : Lang atom (set is) [c]
  | cat {a b : Regex} {u v : List σ} (hu : Lang atom a u) (hv : Lang atom b v) : Lang atom (cat a b) (u ++ v)
  | altLeft {a b : Regex} {w : List σ} (h : Lang atom a w) : Lang atom (alt a b) w
  | altRight {a b : Regex} {w : List σ} (h : Lang atom b w) : Lang atom (alt a b) w
  | starNil {a : Regex} : Lang atom (star a) []
  | starCons {a : Regex} {u v : List σ} (hu : Lang atom a u) (hv : Lang atom (star a) v) : Lang atom (star a) (u ++ v)
  | plus {a : Regex} {u v : List σ} (hu : Lang atom a u) (hv : Lang atom (star a) v) : Lang atom (plus a) (u ++ v)
  | optNil {a : Regex} : Lang atom (opt a) []
  | opt {a : Regex} {w : List σ} (h : Lang atom a w) : Lang atom (opt a) w

/-- the words of code points that an expression matches -/
def Matches (r : Regex) (w : List Nat) : Prop :=
  Lang (fun is c => ∃ i ∈ is, i.contains c = true) r w

/-- the words of symbols that an expression stands for over an alphabet: a set has the symbols that make up one of its
intervals -/
def Spells (alphabet : Alphabet) (r : Regex) (w : List Nat) : Prop :=
  Lang (fun is s => ∃ i ∈ is, ∃ symbols, alphabet.symbolsOf i = .ok symbols ∧ s ∈ symbols) r w

/-! ## The words of each form of expression -/

variable {σ τ : Type} {atom : List Interval → σ → Prop}

theorem lang_set_iff {is : List Interval} {w : List σ} : Lang atom (set is) w ↔ ∃ c, w = [c] ∧ atom is c := by
  constructor
  · intro h
    cases h with
    | set h => exact ⟨_, rfl, h⟩
  · rintro ⟨c, rfl, h⟩
    exact .set h

theorem lang_cat_iff {a b : Regex} {w : List σ} :
    Lang atom (cat a b) w ↔ ∃ u v, w = u ++ v ∧ Lang atom a u ∧ Lang atom b v := by
  constructor
  · intro h
    cases h with
    | cat hu hv => exact ⟨_, _, rfl, hu, hv⟩
  · rintro ⟨u, v, rfl, hu, hv⟩
    exact .cat hu hv

theorem lang_alt_iff {a b : Regex} {w : List σ} : Lang atom (alt a b) w ↔ Lang atom a w ∨ Lang atom b w := by
  constructor
  · intro h
    cases h with
    | altLeft h => exact Or.inl h
    | altRight h => exact Or.inr h
  · rintro (h | h)
    · exact .altLeft h
    · exact .altRight h

theorem lang_plus_iff {a : Regex} {w : List σ} :
    Lang atom (plus a) w ↔ ∃ u v, w = u ++ v ∧ Lang atom a u ∧ Lang atom (star a) v := by
  constructor
  · intro h
    cases h with
    | plus hu hv => exact ⟨_, _, rfl, hu, hv⟩
  · rintro ⟨u, v, rfl, hu, hv⟩
    exact .plus hu hv

/-- any number of repetitions are none or at least one -/
theorem lang_star_iff {a : Regex} {w : List σ} : Lang atom (star a) w ↔ w = [] ∨ Lang atom (plus a) w := by
  constructor
  · intro h
    cases h with
    | starNil => exact Or.inl rfl
    | starCons hu hv => exact Or.inr (.plus hu hv)
  · rintro (rfl | h)
    · exact .starNil
    · obtain ⟨u, v, rfl, hu, hv⟩ := lang_plus_iff.1 h
      exact .starCons hu hv

theorem lang_opt_iff {a : Regex} {w : List σ} : Lang atom (opt a) w ↔ w = [] ∨ Lang atom a w := by
  constructor
  · intro h
    cases h with
    | optNil => exact Or.inl rfl
    | opt h => exact Or.inr h
  · rintro (rfl | h)
    · exact .optNil
    · exact .opt h

/-! ## Letters that correspond -/

variable {atom' : List Interval → τ → Prop}

/-- the sets of intervals in an expression, from left to right -/
def sets : Regex → List (List Interval)
  | set is => [is]
  | cat a b => a.sets ++ b.sets
  | alt a b => a.sets ++ b.sets
  | star a => a.sets
  | plus a => a.sets
  | opt a => a.sets

theorem intervals_eq_flatten_sets (r : Regex) : r.intervals = r.sets.flatten := by
  induction r with
  | set is => simp [intervals, sets]
  | cat a b iha ihb => simp [intervals, sets, iha, ihb]
  | alt a b iha ihb => simp [intervals, sets, iha, ihb]
  | star a ih => simpa [intervals, sets] using ih
  | plus a ih => simpa [intervals, sets] using ih
  | opt a ih => simpa [intervals, sets] using ih

/-- each letter of a word belongs to one of the sets -/
theorem Lang.exists_atom {r : Regex} {w : List σ} (h : Lang atom r w) {c : σ} (hc : c ∈ w) :
    ∃ is ∈ r.sets, atom is c := by
  induction h with
  | @set is c' h =>
    obtain rfl := List.mem_singleton.1 hc
    exact ⟨is, by simp [sets], h⟩
  | cat _ _ ihu ihv =>
    rcases List.mem_append.1 hc with hc | hc
    · obtain ⟨is, hi, h⟩ := ihu hc
      exact ⟨is, by simp [sets, hi], h⟩
    · obtain ⟨is, hi, h⟩ := ihv hc
      exact ⟨is, by simp [sets, hi], h⟩
  | altLeft _ ih =>
    obtain ⟨is, hi, h⟩ := ih hc
    exact ⟨is, by simp [sets, hi], h⟩
  | altRight _ ih =>
    obtain ⟨is, hi, h⟩ := ih hc
    exact ⟨is, by simp [sets, hi], h⟩
  | starNil => cases hc
  | starCons _ _ ihu ihv => exact (List.mem_append.1 hc).elim ihu ihv
  | plus _ _ ihu ihv => exact (List.mem_append.1 hc).elim ihu ihv
  | optNil => cases hc
  | opt _ ih => exact ih hc

theorem Lang.map {r : Regex} {w : List σ} (h : Lang atom r w) {f : σ → τ}
    (hf : ∀ is ∈ r.sets, ∀ c ∈ w, atom is c → atom' is (f c)) : Lang atom' r (w.map f) := by
  induction h with
  | set h => exact .set (hf _ (by simp [sets]) _ (by simp) h)
  | cat _ _ ihu ihv =>
    rw [List.map_append]
    exact .cat (ihu fun is hi c hc => hf is (by simp [sets, hi]) c (by simp [hc]))
      (ihv fun is hi c hc => hf is (by simp [sets, hi]) c (by simp [hc]))
  | altLeft _ ih => exact .altLeft (ih fun is hi c hc => hf is (by simp [sets, hi]) c hc)
  | altRight _ ih => exact .altRight (ih fun is hi c hc => hf is (by simp [sets, hi]) c hc)
  | starNil => exact .starNil
  | starCons _ _ ihu ihv =>
    rw [List.map_append]
    exact .starCons (ihu fun is hi c hc => hf is hi c (by simp [hc])) (ihv fun is hi c hc => hf is hi c (by simp [hc]))
  | plus _ _ ihu ihv =>
    rw [List.map_append]
    exact .plus (ihu fun is hi c hc => hf is hi c (by simp [hc])) (ihv fun is hi c hc => hf is hi c (by simp [hc]))
  | optNil => exact .optNil
  | opt _ ih => exact .opt (ih hf)

theorem Lang.of_map {r : Regex} {f : σ → τ} {w' : List τ} (h : Lang atom' r w') {w : List σ} (hw : w' = w.map f)
    (hf : ∀ is ∈ r.sets, ∀ c ∈ w, atom' is (f c) → atom is c) : Lang atom r w := by
  induction h generalizing w with
  | set h =>
    obtain ⟨c, rfl, rfl⟩ := List.map_eq_singleton_iff.1 hw.symm
    exact .set (hf _ (by simp [sets]) _ (by simp) h)
  | cat _ _ ihu ihv =>
    obtain ⟨u, v, rfl, hu, hv⟩ := List.map_eq_append_iff.1 hw.symm
    exact .cat (ihu hu.symm fun is hi c hc => hf is (by simp [sets, hi]) c (by simp [hc]))
      (ihv hv.symm fun is hi c hc => hf is (by simp [sets, hi]) c (by simp [hc]))
  | altLeft _ ih => exact .altLeft (ih hw fun is hi c hc => hf is (by simp [sets, hi]) c hc)
  | altRight _ ih => exact .altRight (ih hw fun is hi c hc => hf is (by simp [sets, hi]) c hc)
  | starNil =>
    obtain rfl := List.map_eq_nil_iff.1 hw.symm
    exact .starNil
  | starCons _ _ ihu ihv =>
    obtain ⟨u, v, rfl, hu, hv⟩ := List.map_eq_append_iff.1 hw.symm
    exact .starCons (ihu hu.symm fun is hi c hc => hf is hi c (by simp [hc]))
      (ihv hv.symm fun is hi c hc => hf is hi c (by simp [hc]))
  | plus _ _ ihu ihv =>
    obtain ⟨u, v, rfl, hu, hv⟩ := List.map_eq_append_iff.1 hw.symm
    exact .plus (ihu hu.symm fun is hi c hc => hf is hi c (by simp [hc]))
      (ihv hv.symm fun is hi c hc => hf is hi c (by simp [hc]))
  | optNil =>
    obtain rfl := List.map_eq_nil_iff.1 hw.symm
    exact .optNil
  | opt _ ih => exact .opt (ih hw hf)

/-- where the letters of two languages correspond, so do the words -/
theorem lang_map_iff {r : Regex} {w : List σ} {f : σ → τ}
    (hf : ∀ is ∈ r.sets, ∀ c ∈ w, atom is c ↔ atom' is (f c)) : Lang atom r w ↔ Lang atom' r (w.map f) :=
  ⟨fun h => h.map fun is hi c hc => (hf is hi c hc).1, fun h => h.of_map rfl fun is hi c hc => (hf is hi c hc).2⟩

end Regex

end Munch
