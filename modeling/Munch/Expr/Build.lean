/-
The functions that build expressions in simple form.

Each of them gives an expression that means what its arguments say: `ofText` a text, `ofCharacters` and `ofBytes` one
element of a set, `ofRepetition` a repetition, `ofSequence` one thing after the other and `ofChoice` one of several.
-/
import Munch.Expr.Basic

namespace Munch.Expr

/-- a text; the one without bytes is the empty word -/
def ofText (bytes : List UInt8) : Expr :=
  if bytes.isEmpty then empty else text bytes

/-- nothing at all -/
def never : Expr :=
  bytes .empty

/-- one character of a set; a set of one character is a text -/
def ofCharacters (set : RangeSet) : Expr :=
  if set.ranges.isEmpty then never
  else
    match set.single? with
    | some n => text (String.utf8EncodeChar (Char.ofNat n))
    | none => characters set

/-- one byte of a set; a set of one byte is a text -/
def ofBytes (set : RangeSet) : Expr :=
  match set.single? with
  | some n => text [n.toUInt8]
  | none => bytes set

/-- between `least` and `most` repetitions; what matches only the empty word is repeated once at most -/
def ofRepetition (least : Nat) (most : Option Nat) (greedy : Bool) (body : Expr) : Expr :=
  let (least, most) :=
    if body.longest? = some 0 then (min least 1, some (most.elim 1 (min · 1))) else (least, most)
  if least = 0 ∧ most = some 0 then empty
  else if least = 1 ∧ most = some 1 then body
  else repetition least most greedy body

/-- the items of a sequence, those of an item that is a sequence in its place -/
def flatItems (items : List Expr) : List Expr :=
  items.flatMap fun
    | sequence inner => inner
    | e => [e]

/-- the items with neighbouring texts joined and empty words left out, where `before` is the text in front of them -/
def joinTexts (before : List UInt8) : List Expr → List Expr
  | [] => if before.isEmpty then [] else [text before]
  | text bs :: rest => joinTexts (before ++ bs) rest
  | empty :: rest => joinTexts before rest
  | e :: rest => (if before.isEmpty then [] else [text before]) ++ e :: joinTexts [] rest

/-- one thing after the other -/
def ofSequence (items : List Expr) : Expr :=
  match joinTexts [] (flatItems items) with
  | [] => empty
  | [e] => e
  | es => sequence es

/-- the branches of a choice, those of a branch that is a choice in its place -/
def flatBranches (branches : List Expr) : List Expr :=
  branches.flatMap fun
    | choice inner => inner
    | e => [e]

/-- the only character of a text -/
def onlyCharacter? : Expr → Option Nat
  | text bs =>
    match (ByteArray.mk bs.toArray).utf8Decode? with
    | some cs => if cs.size = 1 then (cs[0]?).map Char.toNat else none
    | none => none
  | _ => none

/-- the only byte of a text -/
def onlyByte? : Expr → Option Nat
  | text [b] => some b.toNat
  | _ => none

/-- the set of an expression that is one, as a set of characters -/
def characterSet? : Expr → Option RangeSet
  | characters s => some s
  | bytes s => if s.isAscii then some s else none
  | _ => none

/-- the set of an expression that is one, as a set of bytes -/
def byteSet? : Expr → Option RangeSet
  | characters s => if s.isAscii then some s else none
  | bytes s => some s
  | _ => none

/-- a choice between single elements or sets as one set, if it can be written as one -/
def asSet? (branches : List Expr) : Option Expr :=
  match branches.mapM onlyCharacter? with
  | some cs => some (ofCharacters (.ofPairs (cs.map fun c => (c, c))))
  | none =>
    match branches.mapM onlyByte? with
    | some bs => some (ofBytes (.ofPairs (bs.map fun b => (b, b))))
    | none =>
      match branches.mapM characterSet? with
      | some sets => some (ofCharacters (sets.foldl RangeSet.union .empty))
      | none => (branches.mapM byteSet?).map fun sets => ofBytes (sets.foldl RangeSet.union .empty)

/-- the items of an expression that is a sequence -/
def itemsOf : Expr → List Expr
  | sequence items => items
  | _ => []

/-- the longest beginning of the first list that is written alike in the second -/
def commonStart : List Expr → List Expr → List Expr
  | a :: as, b :: bs => if a.same b then a :: commonStart as bs else []
  | _, _ => []

/-- the items with which all branches begin -/
def sharedStart : List Expr → List Expr
  | [] => []
  | e :: rest => rest.foldl (fun start b => commonStart start b.itemsOf) e.itemsOf

/-- one of several; items with which all branches begin come first, and the choice is between what follows them. Each
round shortens the branches, so `rounds` need not exceed their number of nodes -/
def choiceWithin : Nat → List Expr → Expr
  | 0, branches => choice branches
  | rounds + 1, branches =>
    match flatBranches branches with
    | [] => never
    | [e] => e
    | es =>
      match asSet? es with
      | some e => e
      | none =>
        let start := sharedStart es
        if start.isEmpty then choice es
        else
          let rests := es.map fun e => ofSequence (e.itemsOf.drop start.length)
          ofSequence (start ++ [choiceWithin rounds rests])

/-- one of several -/
def ofChoice (branches : List Expr) : Expr :=
  choiceWithin (nodeCounts branches + 1) branches

end Munch.Expr
