/-
Letters and numbers that a later version of the standard took into use.

Sets of properties are without them; names may hold them.
-/
import Munch.Unicode.HexText

namespace Munch.Unicode

/-- the letters that came into use later than the version of the other tables -/
def laterLetters : RangeSet :=
  .ofText "
  88F C5C CDC A7CE-A7CF A7D2 A7D4 A7F1 10940-10959 10EC5-10EC7 10EFA-10EFB 11B60-11B67 11DB0-11DDB 16EA0-16EB8
  16EBB-16ED3 16FF2-16FF6 187F8-187FF 18D09-18D1E 18D80-18DF2 1E6C0-1E6DE 1E6E0-1E6F5 1E6FE-1E6FF 2B73A-2B73F
  2CEA2-2CEAD 323B0-33479"

/-- the signs for numbers that came into use later than the version of the other tables -/
def laterNumbers : RangeSet :=
  .ofText "11DE0-11DE9 16FF4-16FF6"

end Munch.Unicode
