/-
The characters of names in formal languages.
-/
import Munch.Unicode.Category

namespace Munch.Unicode

/-- the characters that may begin a name, beside letters -/
def otherIdStart : RangeSet :=
  .ofText "1885-1886 2118 212E 309B-309C"

/-- the characters that may stand in a name, beside letters, marks and digits -/
def otherIdContinue : RangeSet :=
  .ofText "B7 387 1369-1371 19DA 200C-200D 30FB FF65"

/-- the characters that are kept for operators and brackets; code points that are not in use are among them -/
def patternSyntax : RangeSet :=
  .ofText "
  21-2F 3A-40 5B-5E 60 7B-7E A1-A7 A9 AB-AC AE B0-B1 B6 BB BF D7 F7 2010-2027 2030-203E 2041-2053 2055-205E
  2190-245F 2500-2775 2794-2BFF 2E00-2E7F 3001-3003 3008-3020 3030 FD3E-FD3F FE45-FE46"

/-- the blanks between the parts of a formal text -/
def patternWhiteSpace : RangeSet :=
  .ofText "9-D 20 85 200E-200F 2028-2029"

/-- the signs of mathematics that may begin a name in some languages -/
def idCompatMathStart : RangeSet :=
  .ofText "2202 2207 221E 1D6C1 1D6DB 1D6FB 1D715 1D735 1D74F 1D76F 1D789 1D7A9 1D7C3"

/-- the signs of mathematics that may stand in a name in some languages -/
def idCompatMathContinue : RangeSet :=
  idCompatMathStart.union (.ofText "B2-B3 B9 2070 2074-207E 2080-208E")

/-- the characters that may begin a name -/
def idStart : RangeSet :=
  (RangeSet.unionAll [letter, letterNumber, otherIdStart]).minus .characters
    (patternSyntax.union patternWhiteSpace)

/-- the characters that may stand in a name -/
def idContinue : RangeSet :=
  .unionAll [idStart, nonspacingMark, spacingMark, decimalNumber, connectorPunctuation, otherIdContinue]

/-- the letters that would end a name if they were written in another way -/
def unstable : RangeSet :=
  .ofText "37A 309B-309C FC5E-FC63 FDFA-FDFB FE70 FE72 FE74 FE76 FE78 FE7A FE7C FE7E"

/-- the characters that may begin a name however it is written -/
def xidStart : RangeSet :=
  idStart.minus .characters (unstable.union (.ofText "E33 EB3 FF9E-FF9F"))

/-- the characters that may stand in a name however it is written -/
def xidContinue : RangeSet :=
  idContinue.minus .characters unstable

end Munch.Unicode
