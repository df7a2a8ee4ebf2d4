/-
Places in a text.

A text can be cut between two characters, and a place is given by the number of bytes in front of it. `Cursor.At` says that
the place of a scan is such a place of the text, and that what follows there is what the scan has still to read.

Results:
- `dropBytes?_append`, `slice?_append`: what is behind a prefix, and a piece in the middle.
- `At.append`, `At.slice?`: the place behind a piece of what follows, and the piece itself.
- `At.rest_eq_nil_iff`: nothing follows at the end of the text only.
-/
import Mathlib.Tactic
import Munch.Proofs.Lexer.Scan

namespace Munch

/-! ## Pieces of a text -/

namespace ByteSpan

variable {u : List Char}

theorem byteLength_cons (c : Char) (u : List Char) : byteLength (c :: u) = c.utf8Size + byteLength u := by
  simp [byteLength]

theorem byteLength_append (u v : List Char) : byteLength (u ++ v) = byteLength u + byteLength v := by
  simp [byteLength]

theorem byteLength_pos (h : u ≠ []) : 0 < byteLength u := by
  obtain ⟨c, u, rfl⟩ := List.exists_cons_of_ne_nil h
  have hpos := c.utf8Size_pos
  rw [byteLength_cons]
  omega

theorem dropBytes?_zero (text : List Char) : dropBytes? 0 text = some text := by
  cases text <;> rfl

theorem takeBytes?_zero (text : List Char) : takeBytes? 0 text = some [] := by
  cases text <;> rfl

theorem dropBytes?_append (u v : List Char) : dropBytes? (byteLength u) (u ++ v) = some v := by
  induction u with
  | nil => exact dropBytes?_zero v
  | cons c u ih =>
    have hpos := c.utf8Size_pos
    rw [byteLength_cons, List.cons_append, dropBytes?, if_neg (by omega), if_pos (Nat.le_add_right _ _),
      Nat.add_sub_cancel_left, ih]

theorem takeBytes?_append (p v : List Char) : takeBytes? (byteLength p) (p ++ v) = some p := by
  induction p with
  | nil => exact takeBytes?_zero v
  | cons c p ih =>
    have hpos := c.utf8Size_pos
    rw [byteLength_cons, List.cons_append, takeBytes?, if_neg (by omega), if_pos (Nat.le_add_right _ _),
      Nat.add_sub_cancel_left, ih]
    rfl

/-- a piece of a text is cut out by the bytes in front of it and its own -/
theorem slice?_append (u p v : List Char) :
    slice? ⟨byteLength u, byteLength u + byteLength p⟩ (u ++ (p ++ v)) = some p := by
  have hlength : ByteSpan.length ⟨byteLength u, byteLength u + byteLength p⟩ = byteLength p := by
    simp [ByteSpan.length]
  rw [slice?, if_pos (Nat.le_add_right _ _), dropBytes?_append, Option.bind_some, hlength, takeBytes?_append]

end ByteSpan

/-! ## The places of a scan -/

/-- a place in a text: what follows is what the bytes before it leave of the text -/
structure Cursor.At (text : List Char) (c : Cursor) : Prop where
  exists_prefix : ∃ u, text = u ++ c.rest ∧ c.position = byteLength u

theorem Cursor.at_ofText (text : List Char) : (Cursor.ofText text).At text :=
  ⟨[], rfl, rfl⟩

/-- the text can be cut at the place -/
theorem Cursor.At.dropBytes? {text : List Char} {c : Cursor} (h : c.At text) :
    ByteSpan.dropBytes? c.position text = some c.rest := by
  obtain ⟨u, hu, hposition⟩ := h.exists_prefix
  rw [hposition, hu]
  exact ByteSpan.dropBytes?_append u c.rest

namespace Cursor.At

variable {text p v : List Char} {c : Cursor}

/-- the place behind a piece of what follows -/
theorem append (h : c.At text) (hrest : c.rest = p ++ v) :
    Cursor.At text { rest := v, position := c.position + byteLength p } := by
  obtain ⟨u, hu, hposition⟩ := h.exists_prefix
  exact ⟨u ++ p, by rw [hu, hrest, List.append_assoc], by rw [hposition, ByteSpan.byteLength_append]⟩

/-- the same place, where the scan has stopped -/
theorem fail (h : c.At text) : Cursor.At text { c with failed := true } :=
  ⟨h.exists_prefix⟩

/-- a piece of what follows is cut out of the text -/
theorem slice? (h : c.At text) (hrest : c.rest = p ++ v) :
    ByteSpan.slice? ⟨c.position, c.position + byteLength p⟩ text = some p := by
  obtain ⟨u, hu, hposition⟩ := h.exists_prefix
  rw [hposition, hu, hrest]
  exact ByteSpan.slice?_append u p v

theorem position_add (h : c.At text) : c.position + byteLength c.rest = byteLength text := by
  obtain ⟨u, hu, hposition⟩ := h.exists_prefix
  rw [hposition, hu, ByteSpan.byteLength_append]

theorem position_le (h : c.At text) : c.position ≤ byteLength text :=
  Nat.le.intro h.position_add

theorem position_lt (h : c.At text) (hrest : c.rest ≠ []) : c.position < byteLength text := by
  have hpos := ByteSpan.byteLength_pos hrest
  have hadd := h.position_add
  omega

theorem rest_eq_nil_iff (h : c.At text) : c.position = byteLength text ↔ c.rest = [] := by
  constructor
  · intro hend
    by_contra hrest
    exact (h.position_lt hrest).ne hend
  · intro hrest
    rw [← h.position_add, hrest]
    rfl

end Cursor.At

end Munch
