/-
The properties that a character has or has not.
-/
import Munch.Unicode.Emoji
import Munch.Unicode.Identifier
import Munch.Unicode.Letters
import Munch.Unicode.Marks
import Munch.Unicode.Signs

namespace Munch.Unicode

/-- the properties that a character has or has not, by their names -/
def flags : List NamedSet := [
  ⟨["asciihexdigit", "ahex"], asciiHexDigit⟩,
  ⟨["alphabetic", "alpha"], alphabetic⟩,
  ⟨["bidicontrol", "bidic"], bidiControl⟩,
  ⟨["bidimirrored", "bidim"], bidiMirrored⟩,
  ⟨["caseignorable", "ci"], caseIgnorable⟩,
  ⟨["cased"], cased⟩,
  ⟨["changeswhencasefolded", "cwcf"], changesWhenCasefolded⟩,
  ⟨["changeswhencasemapped", "cwcm"], changesWhenCasemapped⟩,
  ⟨["changeswhenlowercased", "cwl"], changesWhenLowercased⟩,
  ⟨["changeswhentitlecased", "cwt"], changesWhenTitlecased⟩,
  ⟨["changeswhenuppercased", "cwu"], changesWhenUppercased⟩,
  ⟨["dash"], dash⟩,
  ⟨["defaultignorablecodepoint", "di"], defaultIgnorable⟩,
  ⟨["deprecated", "dep"], deprecated⟩,
  ⟨["diacritic", "dia"], diacritic⟩,
  ⟨["emoji"], emoji⟩,
  ⟨["emojicomponent", "ecomp"], emojiComponent⟩,
  ⟨["emojimodifier", "emod"], emojiModifier⟩,
  ⟨["emojimodifierbase", "ebase"], emojiModifierBase⟩,
  ⟨["emojipresentation", "epres"], emojiPresentation⟩,
  ⟨["extendedpictographic", "extpict"], extendedPictographic⟩,
  ⟨["extender", "ext"], extender⟩,
  ⟨["graphemebase", "grbase"], graphemeBase⟩,
  ⟨["graphemeextend", "grext"], graphemeExtend⟩,
  ⟨["graphemelink", "grlink"], graphemeLink⟩,
  ⟨["hexdigit", "hex"], hexDigit⟩,
  ⟨["hyphen"], hyphen⟩,
  ⟨["idcompatmathcontinue"], idCompatMathContinue⟩,
  ⟨["idcompatmathstart"], idCompatMathStart⟩,
  ⟨["idcontinue", "idc"], idContinue⟩,
  ⟨["idstart", "ids"], idStart⟩,
  ⟨["ideographic", "ideo"], ideographic⟩,
  ⟨["idsbinaryoperator", "idsb"], idsBinaryOperator⟩,
  ⟨["idstrinaryoperator", "idst"], idsTrinaryOperator⟩,
  ⟨["idsunaryoperator", "idsu"], idsUnaryOperator⟩,
  ⟨["joincontrol", "joinc"], joinControl⟩,
  ⟨["logicalorderexception", "loe"], logicalOrderException⟩,
  ⟨["lowercase", "lower"], lowercase⟩,
  ⟨["math"], math⟩,
  ⟨["modifiercombiningmark", "mcm"], modifierCombiningMark⟩,
  ⟨["noncharactercodepoint", "nchar"], noncharacter⟩,
  ⟨["otheralphabetic", "oalpha"], otherAlphabetic⟩,
  ⟨["otherdefaultignorablecodepoint", "odi"], otherDefaultIgnorable⟩,
  ⟨["othergraphemeextend", "ogrext"], otherGraphemeExtend⟩,
  ⟨["otheridcontinue", "oidc"], otherIdContinue⟩,
  ⟨["otheridstart", "oids"], otherIdStart⟩,
  ⟨["otherlowercase", "olower"], otherLowercase⟩,
  ⟨["othermath", "omath"], otherMath⟩,
  ⟨["otheruppercase", "oupper"], otherUppercase⟩,
  ⟨["patternsyntax", "patsyn"], patternSyntax⟩,
  ⟨["patternwhitespace", "patws"], patternWhiteSpace⟩,
  ⟨["prependedconcatenationmark", "pcm"], prependedConcatenationMark⟩,
  ⟨["quotationmark", "qmark"], quotationMark⟩,
  ⟨["radical"], radical⟩,
  ⟨["regionalindicator", "ri"], regionalIndicator⟩,
  ⟨["sentenceterminal", "sterm"], sentenceTerminal⟩,
  ⟨["softdotted", "sd"], softDotted⟩,
  ⟨["terminalpunctuation", "term"], terminalPunctuation⟩,
  ⟨["unifiedideograph", "uideo"], unifiedIdeograph⟩,
  ⟨["uppercase", "upper"], uppercase⟩,
  ⟨["variationselector", "vs"], variationSelector⟩,
  ⟨["whitespace", "wspace", "space"], whiteSpace⟩,
  ⟨["xidcontinue", "xidc"], xidContinue⟩,
  ⟨["xidstart", "xids"], xidStart⟩]

end Munch.Unicode
