import Signpost.Unicode.Casing
import Signpost.Unicode.Identifier

/-!
# Properties that a character has or has not

Every property that goes by a name alone, as data. The names are those of the character tables.

Main fact: `mem_propertyNames`, no property is without a name.
-/

namespace Signpost.Unicode

/-- A property that a character has or has not. -/
inductive BinaryProperty
  | alphabetic | asciiHexDigit | bidiControl | bidiMirrored
  | caseIgnorable | cased | changesWhenCasefolded | changesWhenCasemapped
  | changesWhenLowercased | changesWhenTitlecased | changesWhenUppercased | dash
  | defaultIgnorable | deprecated | diacritic | emoji
  | emojiComponent | emojiModifier | emojiModifierBase | emojiPresentation
  | extendedPictographic | extender | graphemeBase | graphemeExtend
  | graphemeLink | hexDigit | hyphen | idCompatMathContinue
  | idCompatMathStart | idContinue | idStart | ideographic
  | idsBinaryOperator | idsTrinaryOperator | idsUnaryOperator | joinControl
  | logicalOrderException | lowercase | math | modifierCombiningMark
  | noncharacter | otherAlphabetic | otherDefaultIgnorable | otherGraphemeExtend
  | otherIdContinue | otherIdStart | otherLowercase | otherMath
  | otherUppercase | patternSyntax | patternWhiteSpace | prependedConcatenationMark
  | quotationMark | radical | regionalIndicator | sentenceTerminal
  | softDotted | terminalPunctuation | unifiedIdeograph | uppercase
  | variationSelector | whiteSpace | xidContinue | xidStart
deriving Repr, DecidableEq

def BinaryProperty.has : BinaryProperty → Char → Bool
  | alphabetic, c => isAlphabetic c
  | asciiHexDigit, c => isAsciiHexDigit c
  | bidiControl, c => isBidiControl c
  | bidiMirrored, c => isBidiMirrored c
  | caseIgnorable, c => isCaseIgnorable c
  | cased, c => isCased c
  | changesWhenCasefolded, c => Unicode.changesWhenCasefolded c
  | changesWhenCasemapped, c => Unicode.changesWhenCasemapped c
  | changesWhenLowercased, c => Unicode.changesWhenLowercased c
  | changesWhenTitlecased, c => Unicode.changesWhenTitlecased c
  | changesWhenUppercased, c => Unicode.changesWhenUppercased c
  | dash, c => isDash c
  | defaultIgnorable, c => isDefaultIgnorable c
  | deprecated, c => isDeprecated c
  | diacritic, c => isDiacritic c
  | emoji, c => isEmoji c
  | emojiComponent, c => isEmojiComponent c
  | emojiModifier, c => isEmojiModifier c
  | emojiModifierBase, c => inSpans c.toNat emojiModifierBases
  | emojiPresentation, c => inSpans c.toNat emojiPresentations
  | extendedPictographic, c => isExtendedPictographic c
  | extender, c => isExtender c
  | graphemeBase, c => isGraphemeBase c
  | graphemeExtend, c => isGraphemeExtend c
  | graphemeLink, c => isGraphemeLink c
  | hexDigit, c => isHexDigit c
  | hyphen, c => isHyphen c
  | idCompatMathContinue, c => isIdCompatMathContinue c
  | idCompatMathStart, c => isIdCompatMathStart c
  | idContinue, c => isIdContinue c
  | idStart, c => isIdStart c
  | ideographic, c => isIdeographic c
  | idsBinaryOperator, c => isIdsBinaryOperator c
  | idsTrinaryOperator, c => isIdsTrinaryOperator c
  | idsUnaryOperator, c => isIdsUnaryOperator c
  | joinControl, c => isJoinControl c
  | logicalOrderException, c => isLogicalOrderException c
  | lowercase, c => isLowercase c
  | math, c => isMath c
  | modifierCombiningMark, c => isModifierMark c
  | noncharacter, c => isNoncharacter c
  | otherAlphabetic, c => isOtherAlphabetic c
  | otherDefaultIgnorable, c => isOtherDefaultIgnorable c
  | otherGraphemeExtend, c => isOtherGraphemeExtend c
  | otherIdContinue, c => isOtherIdContinue c
  | otherIdStart, c => isOtherIdStart c
  | otherLowercase, c => inSpans c.toNat otherLowercases
  | otherMath, c => isOtherMath c
  | otherUppercase, c => inSpans c.toNat otherUppercases
  | patternSyntax, c => isPatternSyntax c
  | patternWhiteSpace, c => isPatternWhiteSpace c
  | prependedConcatenationMark, c => isPrependedMark c
  | quotationMark, c => isQuotationMark c
  | radical, c => isRadical c
  | regionalIndicator, c => isRegionalIndicator c
  | sentenceTerminal, c => isSentenceTerminal c
  | softDotted, c => isSoftDotted c
  | terminalPunctuation, c => isTerminalPunctuation c
  | unifiedIdeograph, c => isUnifiedIdeograph c
  | uppercase, c => isUppercase c
  | variationSelector, c => isVariationSelector c
  | whiteSpace, c => isWhiteSpace c
  | xidContinue, c => isXidContinue c
  | xidStart, c => isXidStart c

/-- The properties with their normalized names. -/
def propertyNames : List (BinaryProperty × List String) :=
  [(.alphabetic, ["alphabetic", "alpha"]), (.asciiHexDigit, ["asciihexdigit", "ahex"]),
   (.bidiControl, ["bidicontrol", "bidic"]), (.bidiMirrored, ["bidimirrored", "bidim"]),
   (.caseIgnorable, ["caseignorable", "ci"]), (.cased, ["cased"]),
   (.changesWhenCasefolded, ["changeswhencasefolded", "cwcf"]),
   (.changesWhenCasemapped, ["changeswhencasemapped", "cwcm"]),
   (.changesWhenLowercased, ["changeswhenlowercased", "cwl"]),
   (.changesWhenTitlecased, ["changeswhentitlecased", "cwt"]),
   (.changesWhenUppercased, ["changeswhenuppercased", "cwu"]), (.dash, ["dash"]),
   (.defaultIgnorable, ["defaultignorablecodepoint", "di"]), (.deprecated, ["deprecated", "dep"]),
   (.diacritic, ["diacritic", "dia"]), (.emoji, ["emoji"]),
   (.emojiComponent, ["emojicomponent", "ecomp"]), (.emojiModifier, ["emojimodifier", "emod"]),
   (.emojiModifierBase, ["emojimodifierbase", "ebase"]),
   (.emojiPresentation, ["emojipresentation", "epres"]),
   (.extendedPictographic, ["extendedpictographic", "extpict"]), (.extender, ["extender", "ext"]),
   (.graphemeBase, ["graphemebase", "grbase"]), (.graphemeExtend, ["graphemeextend", "grext"]),
   (.graphemeLink, ["graphemelink", "grlink"]), (.hexDigit, ["hexdigit", "hex"]),
   (.hyphen, ["hyphen"]), (.idCompatMathContinue, ["idcompatmathcontinue"]),
   (.idCompatMathStart, ["idcompatmathstart"]), (.idContinue, ["idcontinue", "idc"]),
   (.idStart, ["idstart", "ids"]), (.ideographic, ["ideographic", "ideo"]),
   (.idsBinaryOperator, ["idsbinaryoperator", "idsb"]),
   (.idsTrinaryOperator, ["idstrinaryoperator", "idst"]),
   (.idsUnaryOperator, ["idsunaryoperator", "idsu"]), (.joinControl, ["joincontrol", "joinc"]),
   (.logicalOrderException, ["logicalorderexception", "loe"]), (.lowercase, ["lowercase", "lower"]),
   (.math, ["math"]), (.modifierCombiningMark, ["modifiercombiningmark", "mcm"]),
   (.noncharacter, ["noncharactercodepoint", "nchar"]),
   (.otherAlphabetic, ["otheralphabetic", "oalpha"]),
   (.otherDefaultIgnorable, ["otherdefaultignorablecodepoint", "odi"]),
   (.otherGraphemeExtend, ["othergraphemeextend", "ogrext"]),
   (.otherIdContinue, ["otheridcontinue", "oidc"]), (.otherIdStart, ["otheridstart", "oids"]),
   (.otherLowercase, ["otherlowercase", "olower"]), (.otherMath, ["othermath", "omath"]),
   (.otherUppercase, ["otheruppercase", "oupper"]), (.patternSyntax, ["patternsyntax", "patsyn"]),
   (.patternWhiteSpace, ["patternwhitespace", "patws"]),
   (.prependedConcatenationMark, ["prependedconcatenationmark", "pcm"]),
   (.quotationMark, ["quotationmark", "qmark"]), (.radical, ["radical"]),
   (.regionalIndicator, ["regionalindicator", "ri"]),
   (.sentenceTerminal, ["sentenceterminal", "sterm"]), (.softDotted, ["softdotted", "sd"]),
   (.terminalPunctuation, ["terminalpunctuation", "term"]),
   (.unifiedIdeograph, ["unifiedideograph", "uideo"]), (.uppercase, ["uppercase", "upper"]),
   (.variationSelector, ["variationselector", "vs"]),
   (.whiteSpace, ["whitespace", "wspace", "space"]), (.xidContinue, ["xidcontinue", "xidc"]),
   (.xidStart, ["xidstart", "xids"])]

/-- Every property goes by some name. -/
theorem mem_propertyNames (p : BinaryProperty) : p ∈ propertyNames.map (·.1) := by
  cases p <;> decide

end Signpost.Unicode
