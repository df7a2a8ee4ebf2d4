/-
The parts that characters play where a text is cut: into units that are seen as one, into words, and into sentences.
-/
import Munch.Unicode.Flag

namespace Munch.Unicode

/-- the characters that extend the one before them to a unit that is seen as one -/
def graphemeExtending : RangeSet :=
  graphemeExtend.union emojiModifier

/-- the marks with a place of their own that do not belong to the character before them -/
def graphemeApart : RangeSet :=
  .ofText "
    102B-102C 1038 1062-1064 1067-106D 1083 1087-108C 108F 109A-109C 1A61 1A63-1A64 AA7B AA7D 11720-11721"

/-- the syllables of Hangul that end with a vowel -/
def hangulOpen : RangeSet :=
  .ofPairs ((List.range 399).map fun k => (0xAC00 + 28 * k, 0xAC00 + 28 * k))

/-- the syllables of Hangul that end with a consonant -/
def hangulClosed : RangeSet :=
  .ofPairs ((List.range 399).map fun k => (0xAC01 + 28 * k, 0xAC1B + 28 * k))

/-- the parts that characters play where a text is cut into units that are seen as one, by their names -/
def graphemeBreaks : List NamedSet := [
  ⟨["control", "cn"],
    (RangeSet.unionAll [lineSeparator, paragraphSeparator, control, format, unassigned.meet defaultIgnorable]).minus
      .characters (.unionAll [.ofText "A D 200C-200D", prependedConcatenationMark, graphemeExtend])⟩,
  ⟨["cr"], .single 0xD⟩,
  ⟨["extend", "ex"], graphemeExtending⟩,
  ⟨["l"], .ofText "1100-115F A960-A97C"⟩,
  ⟨["lf"], .single 0xA⟩,
  ⟨["lv"], hangulOpen⟩,
  ⟨["lvt"], hangulClosed⟩,
  ⟨["prepend", "pp"], .unionAll [prependedConcatenationMark,
    .ofText "D4E 111C2-111C3 113D1 1193F 11941 11A3A 11A84-11A89 11D46 11F02"]⟩,
  ⟨["regionalindicator", "ri"], regionalIndicator⟩,
  ⟨["spacingmark", "sm"],
    (spacingMark.minus .characters (graphemeExtending.union graphemeApart)).union (.ofText "E33 EB3")⟩,
  ⟨["t"], .ofText "11A8-11FF D7CB-D7FB"⟩,
  ⟨["v"], .ofText "1160-11A7 D7B0-D7C6 16D63 16D67-16D6A"⟩,
  ⟨["zwj"], .single 0x200D⟩]

/-- the characters that extend the word before them -/
def wordExtending : RangeSet :=
  .unionAll [graphemeExtend, spacingMark, emojiModifier]

/-- the letters of Hebrew -/
def hebrewLetter : RangeSet :=
  .ofText "5D0-5EA 5EF-5F2 FB1D FB1F-FB28 FB2A-FB36 FB38-FB3C FB3E FB40-FB41 FB43-FB44 FB46-FB4F"

/-- the letters and signs of Katakana -/
def katakanaWord : RangeSet :=
  .ofText "
    3031-3035 309B-309C 30A0-30FA 30FC-30FF 31F0-31FF 32D0-32FE 3300-3357 FF66-FF9D 1AFF0-1AFF3 1AFF5-1AFFB
    1AFFD-1AFFE 1B000 1B120-1B122 1B155 1B164-1B167"

/-- the letters of scripts that are written without blanks between the words -/
def unspaced : RangeSet :=
  .ofText "
    E01-E30 E32-E33 E40-E46 E81-E82 E84 E86-E8A E8C-EA3 EA5 EA7-EB0 EB2-EB3 EBD EC0-EC4 EC6 EDC-EDF 1000-102A 103F
    1050-1055 105A-105D 1061 1065-1066 106E-1070 1075-1081 108E 1780-17B3 17D7 17DC 1950-196D 1970-1974 1980-19AB
    19B0-19C9 1A20-1A54 1AA7 3041-3096 309D-309F A9E0-A9E4 A9E6-A9EF A9FA-A9FE AA60-AA76 AA7A AA7E-AAAF AAB1
    AAB5-AAB6 AAB9-AABD AAC0 AAC2 AADB-AADD 11700-1171A 11740-11746 1B001-1B11F 1B132 1B150-1B152"

/-- the letters of words, and the signs that count as such -/
def wordLetter : RangeSet :=
  (alphabetic.minus .characters (.unionAll [ideographic, wordExtending, katakanaWord, hebrewLetter, unspaced])).union
    (.ofText "
      2C2-2C5 2D2-2D7 2DE-2DF 2E5-2EB 2ED 2EF-2FF 55A-55C 55E 58A 5F3 70F A708-A716 A720-A721 A789-A78A AB5B")

/-- the signs around digits that count as digits themselves -/
def digitSign : RangeSet :=
  prependedConcatenationMark.minus .characters (.single 0x70F)

/-- the characters that words and sentences keep but that are not shown -/
def tagCharacter : RangeSet :=
  .ofText "E0020-E007F"

/-- the parts that characters play where a text is cut into words, by their names -/
def wordBreaks : List NamedSet := [
  ⟨["aletter", "le"], wordLetter⟩,
  ⟨["cr"], .single 0xD⟩,
  ⟨["doublequote", "dq"], .single 0x22⟩,
  ⟨["extend"], wordExtending⟩,
  ⟨["extendnumlet", "ex"], .ofText "5F 202F 203F-2040 2054 FE33-FE34 FE4D-FE4F FF3F"⟩,
  ⟨["format", "fo"],
    format.minus .characters (.unionAll [.ofText "200B-200D", tagCharacter, prependedConcatenationMark])⟩,
  ⟨["hebrewletter", "hl"], hebrewLetter⟩,
  ⟨["katakana", "ka"], katakanaWord⟩,
  ⟨["lf"], .single 0xA⟩,
  ⟨["midletter", "ml"], .ofText "3A B7 387 55F 5F4 2027 FE13 FE55 FF1A"⟩,
  ⟨["midnum", "mn"], .ofText "2C 3B 37E 589 60C-60D 66C 7F8 2044 FE50 FE54 FF0C FF1B"⟩,
  ⟨["midnumlet", "mb"], .ofText "2E 2018-2019 2024 FE52 FF07 FF0E"⟩,
  ⟨["newline", "nl"], .ofText "B-C 85 2028-2029"⟩,
  ⟨["numeric", "nu"], .unionAll [decimalNumber, digitSign, .ofText "66B 19DA"]⟩,
  ⟨["regionalindicator", "ri"], regionalIndicator⟩,
  ⟨["singlequote", "sq"], .single 0x27⟩,
  ⟨["wsegspace"], .ofText "20 1680 2000-2006 2008-200A 205F 3000"⟩,
  ⟨["zwj"], .single 0x200D⟩]

/-- the characters that extend the sentence before them -/
def sentenceExtending : RangeSet :=
  .unionAll [graphemeExtend, spacingMark, .single 0x200D]

/-- the small letters of sentences; those of the Georgian script also begin one -/
def sentenceLower : RangeSet :=
  lowercase.minus .characters (graphemeExtend.union (.ofText "10D0-10FA 10FD-10FF"))

/-- the capital letters of sentences -/
def sentenceUpper : RangeSet :=
  (uppercase.union titlecaseLetter).minus .characters (.ofText "1C90-1CBA 1CBD-1CBF")

/-- the signs that may end a sentence -/
def sentenceStop : RangeSet :=
  .ofText "2E 2024 FE52 FF0E"

/-- the parts that characters play where a text is cut into sentences, by their names -/
def sentenceBreaks : List NamedSet := [
  ⟨["aterm", "at"], sentenceStop⟩,
  ⟨["close", "cl"], .unionAll [openPunctuation, closePunctuation, initialPunctuation, finalPunctuation,
    .ofText "22 27 275B-2760 2E00-2E01 2E06-2E08 2E0B 1F676-1F678"]⟩,
  ⟨["cr"], .single 0xD⟩,
  ⟨["extend", "ex"], sentenceExtending⟩,
  ⟨["format", "fo"], format.minus .characters (.unionAll [.ofText "200C-200D", tagCharacter, digitSign])⟩,
  ⟨["lf"], .single 0xA⟩,
  ⟨["lower", "lo"], sentenceLower⟩,
  ⟨["numeric", "nu"], .unionAll [decimalNumber, digitSign, .ofText "66B-66C 19DA"]⟩,
  ⟨["oletter", "le"],
    (alphabetic.minus .characters (.unionAll [sentenceExtending, sentenceLower, sentenceUpper])).union
      (.single 0x5F3)⟩,
  ⟨["scontinue", "sc"], .ofText "
    2C-2D 3A-3B 37E 55D 60C-60D 7F8 1802 1808 2013-2014 3001 FE10-FE11 FE13-FE14 FE31-FE32 FE50-FE51 FE54-FE55 FE58
    FE63 FF0C-FF0D FF1A-FF1B FF64"⟩,
  ⟨["sep", "se"], .ofText "85 2028-2029"⟩,
  ⟨["sp"], .ofText "9 B-C 20 A0 1680 2000-200A 202F 205F 3000"⟩,
  ⟨["sterm", "st"], sentenceTerminal.minus .characters sentenceStop⟩,
  ⟨["upper", "up"], sentenceUpper⟩]

end Munch.Unicode
