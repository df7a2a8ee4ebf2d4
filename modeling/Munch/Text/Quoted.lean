/-
Quoted text.

A character is written as itself if it has a visible form of its own and is not needed to write others. Some control
characters have a letter behind a backslash, and all others are written by number, in hexadecimal between braces.
-/
import Munch.Text.Numeral
import Munch.Unicode.Unshown

namespace Munch.Quoted

/-- a character by its number -/
def byNumber (c : Char) : List Char :=
  ['\\', 'u', '{'] ++ Numeral.hexDigits c.toNat ++ ['}']

/-- a character inside the given quotes -/
def escape (quote c : Char) : List Char :=
  if c = '\x00' then ['\\', '0']
  else if c = '\t' then ['\\', 't']
  else if c = '\n' then ['\\', 'n']
  else if c = '\r' then ['\\', 'r']
  else if c = '\\' then ['\\', '\\']
  else if c = quote then ['\\', quote]
  else if Unicode.unshown.has c then byNumber c
  else [c]

/-- a character in single quotes -/
def char (c : Char) : String :=
  String.ofList ('\'' :: escape '\'' c ++ ['\''])

/-- a text in double quotes -/
def string (s : String) : String :=
  String.ofList ('"' :: s.toList.flatMap (escape '"') ++ ['"'])

/-- a character where only printable ASCII is written as itself and both quotes are escaped -/
def asciiEscape (c : Char) : List Char :=
  if c = '\t' then ['\\', 't']
  else if c = '\n' then ['\\', 'n']
  else if c = '\r' then ['\\', 'r']
  else if c = '\\' ∨ c = '\'' ∨ c = '"' then ['\\', c]
  else if 0x20 ≤ c.toNat ∧ c.toNat ≤ 0x7E then [c]
  else byNumber c

/-- a text where only printable ASCII is written as itself and both quotes are escaped -/
def ascii (s : String) : String :=
  String.ofList (s.toList.flatMap asciiEscape)

end Munch.Quoted
