/-
Natural numbers as text: decimal, and hexadecimal with the mark `0x` in front or without it.
-/

namespace Munch.Numeral

/-- the decimal digits of `n`, most significant first -/
def decimal (n : Nat) : String :=
  String.ofList (Nat.toDigits 10 n)

/-- the hexadecimal digits of `n` in lower case, without a mark -/
def hexDigits (n : Nat) : List Char :=
  Nat.toDigits 16 n

/-- `n` in hexadecimal behind the mark `0x` -/
def hex (n : Nat) : String :=
  String.ofList ('0' :: 'x' :: hexDigits n)

/-- the value of a hexadecimal digit -/
def hexValue? (c : Char) : Option Nat :=
  if '0' ≤ c ∧ c ≤ '9' then some (c.toNat - '0'.toNat)
  else if 'a' ≤ c ∧ c ≤ 'f' then some (c.toNat - 'a'.toNat + 10)
  else if 'A' ≤ c ∧ c ≤ 'F' then some (c.toNat - 'A'.toNat + 10)
  else none

end Munch.Numeral
