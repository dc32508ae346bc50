import Signpost.Unicode.Emoji
import Signpost.Unicode.Grapheme
import Signpost.Unicode.Script
import Signpost.Unicode.Sign
import Signpost.Unicode.Word

/-!
# Breaks

The classes by which text is broken into graphemes, words and sentences. A character has at most
one class of each kind, so each kind is a function of the character, in which the first case that
fits decides.
-/

namespace Signpost.Unicode

/-! ## Graphemes -/

inductive GraphemeBreak
  | cr | lf | control | extend | joiner | regionalIndicator | prepend | spacingMark
  /-- Leading consonants, vowels and trailing consonants of Korean syllables. -/
  | l | v | t
  /-- Korean syllables of a leading consonant and a vowel, without and with a trailing consonant. -/
  | lv | lvt
deriving Repr, DecidableEq

/-- Letters that belong to the grapheme behind them. -/
def otherPrepends : List Span := [
  ⟨0xD4E, 0xD4E, 1⟩, ⟨0x111C2, 0x111C3, 1⟩, ⟨0x113D1, 0x113D1, 1⟩, ⟨0x1193F, 0x1193F, 1⟩,
  ⟨0x11941, 0x11941, 1⟩, ⟨0x11A84, 0x11A89, 1⟩, ⟨0x11D46, 0x11D46, 1⟩, ⟨0x11F02, 0x11F02, 1⟩]

/-- Spacing marks that stand by themselves. -/
def looseSpacingMarks : List Span := [
  ⟨0x102B, 0x102C, 1⟩, ⟨0x1038, 0x1038, 1⟩, ⟨0x1062, 0x1064, 1⟩, ⟨0x1067, 0x106D, 1⟩,
  ⟨0x1083, 0x1083, 1⟩, ⟨0x1087, 0x108C, 1⟩, ⟨0x108F, 0x108F, 1⟩, ⟨0x109A, 0x109C, 1⟩,
  ⟨0x1A61, 0x1A61, 1⟩, ⟨0x1A63, 0x1A64, 1⟩, ⟨0xAA7B, 0xAA7B, 1⟩, ⟨0xAA7D, 0xAA7D, 1⟩,
  ⟨0x11720, 0x11721, 1⟩]

def koreanLeads : List Span := [⟨0x1100, 0x115F, 1⟩, ⟨0xA960, 0xA97C, 1⟩]

/-- Vowels of Korean, and of a script that is written in the same way. -/
def koreanVowels : List Span := [
  ⟨0x1160, 0x11A7, 1⟩, ⟨0xD7B0, 0xD7C6, 1⟩, ⟨0x16D63, 0x16D63, 1⟩, ⟨0x16D67, 0x16D6A, 1⟩]

def koreanTrails : List Span := [⟨0x11A8, 0x11FF, 1⟩, ⟨0xD7CB, 0xD7FB, 1⟩]

def graphemeBreak? (c : Char) : Option GraphemeBreak :=
  let n := c.toNat
  if n == 0xD then some .cr
  else if n == 0xA then some .lf
  else if n == 0x200D then some .joiner
  else if isGraphemeExtend c || isEmojiModifier c then some .extend
  else if isPrependedMark c || inSpans n otherPrepends then some .prepend
  else if [Category.cc, .cf, .zl, .zp].any (·.has c) then some .control
  else if !isAssigned c && isDefaultIgnorable c then some .control
  else if isRegionalIndicator c then some .regionalIndicator
  else if inSpans n koreanLeads then some .l
  else if inSpans n koreanVowels then some .v
  else if inSpans n koreanTrails then some .t
  else if 0xAC00 ≤ n && n ≤ 0xD7A3 then some (if (n - 0xAC00) % 28 = 0 then .lv else .lvt)
  -- two vowels that are letters by category
  else if n == 0xE33 || n == 0xEB3 then some .spacingMark
  else if Category.mc.has c && !inSpans n looseSpacingMarks then some .spacingMark
  else none

/-! ## Words -/

inductive WordBreak
  | cr | lf | newline | extend | joiner | regionalIndicator | format
  | katakana | hebrewLetter | aLetter
  | singleQuote | doubleQuote | midNumLet | midLetter | midNum
  | numeric | extendNumLet | wordSpace
deriving Repr, DecidableEq

/-- Signs that are used with Katakana and other scripts. -/
def otherKatakanas : List Span := [
  ⟨0x3031, 0x3035, 1⟩, ⟨0x309B, 0x309C, 1⟩, ⟨0x30A0, 0x30A0, 1⟩, ⟨0x30FC, 0x30FC, 1⟩,
  ⟨0xFF70, 0xFF70, 1⟩]

/-- Signs that act as letters in words. -/
def otherWordLetters : List Span := [
  ⟨0xB8, 0xB8, 1⟩, ⟨0x2C2, 0x2C5, 1⟩, ⟨0x2D2, 0x2D7, 1⟩, ⟨0x2DE, 0x2DF, 1⟩, ⟨0x2E5, 0x2EB, 1⟩,
  ⟨0x2ED, 0x2ED, 1⟩, ⟨0x2EF, 0x2FF, 1⟩, ⟨0x55A, 0x55C, 1⟩, ⟨0x55E, 0x55E, 1⟩, ⟨0x58A, 0x58A, 1⟩,
  ⟨0x5F3, 0x5F3, 1⟩, ⟨0x70F, 0x70F, 1⟩, ⟨0xA708, 0xA716, 1⟩, ⟨0xA720, 0xA721, 1⟩,
  ⟨0xA789, 0xA78A, 1⟩, ⟨0xAB5B, 0xAB5B, 1⟩]

/-- Letters of scripts that put no blanks between words. The spans run over their marks. -/
def unspacedLetters : List Span := [
  ⟨0xE01, 0xEDF, 1⟩, ⟨0x1000, 0x108E, 1⟩, ⟨0x1780, 0x17DC, 1⟩, ⟨0x1950, 0x19C9, 1⟩,
  ⟨0x1A20, 0x1AA7, 1⟩, ⟨0xA9E0, 0xA9FE, 1⟩, ⟨0xAA60, 0xAADD, 1⟩, ⟨0x11700, 0x11746, 1⟩]

/-- Signs that act as digits. -/
def otherNumerics : List Span := [
  ⟨0x600, 0x605, 1⟩, ⟨0x6DD, 0x6DD, 1⟩, ⟨0x890, 0x891, 1⟩, ⟨0x8E2, 0x8E2, 1⟩, ⟨0x19DA, 0x19DA, 1⟩,
  ⟨0x110BD, 0x110BD, 1⟩, ⟨0x110CD, 0x110CD, 1⟩]

/-- Signs between the digits of a number. -/
def midNums : List Span := [
  ⟨0x2C, 0x2C, 1⟩, ⟨0x3B, 0x3B, 1⟩, ⟨0x37E, 0x37E, 1⟩, ⟨0x589, 0x589, 1⟩, ⟨0x60C, 0x60D, 1⟩,
  ⟨0x66C, 0x66C, 1⟩, ⟨0x7F8, 0x7F8, 1⟩, ⟨0x2044, 0x2044, 1⟩, ⟨0xFE10, 0xFE10, 1⟩,
  ⟨0xFE14, 0xFE14, 1⟩, ⟨0xFE50, 0xFE50, 1⟩, ⟨0xFE54, 0xFE54, 1⟩, ⟨0xFF0C, 0xFF0C, 1⟩,
  ⟨0xFF1B, 0xFF1B, 1⟩]

/-- Signs between digits and between letters. -/
def midNumLets : List Span := [
  ⟨0x2E, 0x2E, 1⟩, ⟨0x2018, 0x2019, 1⟩, ⟨0x2024, 0x2024, 1⟩, ⟨0xFE52, 0xFE52, 1⟩,
  ⟨0xFF07, 0xFF07, 1⟩, ⟨0xFF0E, 0xFF0E, 1⟩]

/-- Signs between the letters of a word. -/
def midLetters : List Span := [
  ⟨0x3A, 0x3A, 1⟩, ⟨0xB7, 0xB7, 1⟩, ⟨0x387, 0x387, 1⟩, ⟨0x55F, 0x55F, 1⟩, ⟨0x5F4, 0x5F4, 1⟩,
  ⟨0x2027, 0x2027, 1⟩, ⟨0xFE13, 0xFE13, 1⟩, ⟨0xFE55, 0xFE55, 1⟩, ⟨0xFF1A, 0xFF1A, 1⟩]

/-- Digits of all scripts and the signs that act as digits. -/
def isNumeric (c : Char) : Bool := Category.nd.has c || inSpans c.toNat otherNumerics

/-- Letters of words in scripts that put blanks between words. -/
def isWordLetter (c : Char) : Bool :=
  inSpans c.toNat otherWordLetters
    || (isAlphabetic c && !isIdeographic c && !inScript "hiragana" c
      && !inSpans c.toNat unspacedLetters)

def wordBreak? (c : Char) : Option WordBreak :=
  let n := c.toNat
  if n == 0xD then some .cr
  else if n == 0xA then some .lf
  else if [0xB, 0xC, 0x85, 0x2028, 0x2029].contains n then some .newline
  else if n == 0x200D then some .joiner
  else if isGraphemeExtend c || Category.mc.has c || isEmojiModifier c then some .extend
  else if isRegionalIndicator c then some .regionalIndicator
  else if inScript "katakana" c || inSpans n otherKatakanas then some .katakana
  else if inScript "hebrew" c && Category.lo.has c then some .hebrewLetter
  else if isNumeric c || n == 0x66B then some .numeric
  else if isWordLetter c then some .aLetter
  else if Category.cf.has c && n != 0x200B then some .format
  else if n == 0x27 then some .singleQuote
  else if n == 0x22 then some .doubleQuote
  else if inSpans n midNumLets then some .midNumLet
  else if inSpans n midLetters then some .midLetter
  else if inSpans n midNums then some .midNum
  else if Category.pc.has c || n == 0x202F then some .extendNumLet
  -- blanks where a line can be broken
  else if Category.zs.has c && n != 0xA0 && n != 0x2007 then some .wordSpace
  else none

/-! ## Sentences -/

inductive SentenceBreak
  | cr | lf | sep | extend | format | sp
  | lower | upper | oLetter | numeric
  | aTerm | sTerm | sContinue | close
deriving Repr, DecidableEq

/-- Signs within a sentence. -/
def sentenceContinues : List Span := [
  ⟨0x2C, 0x2D, 1⟩, ⟨0x3A, 0x3B, 1⟩, ⟨0x37E, 0x37E, 1⟩, ⟨0x55D, 0x55D, 1⟩, ⟨0x60C, 0x60D, 1⟩,
  ⟨0x7F8, 0x7F8, 1⟩, ⟨0x1802, 0x1802, 1⟩, ⟨0x1808, 0x1808, 1⟩, ⟨0x2013, 0x2014, 1⟩,
  ⟨0x3001, 0x3001, 1⟩, ⟨0xFE10, 0xFE11, 1⟩, ⟨0xFE13, 0xFE14, 1⟩, ⟨0xFE31, 0xFE32, 1⟩,
  ⟨0xFE50, 0xFE51, 1⟩, ⟨0xFE54, 0xFE55, 1⟩, ⟨0xFE58, 0xFE58, 1⟩, ⟨0xFE63, 0xFE63, 1⟩,
  ⟨0xFF0C, 0xFF0D, 1⟩, ⟨0xFF1A, 0xFF1B, 1⟩, ⟨0xFF64, 0xFF64, 1⟩]

/-- Quotation marks of the categories of other punctuation and of symbols. -/
def otherSentenceCloses : List Span := [
  ⟨0x22, 0x22, 1⟩, ⟨0x27, 0x27, 1⟩, ⟨0x275B, 0x2760, 1⟩, ⟨0x2E00, 0x2E01, 1⟩, ⟨0x2E06, 0x2E08, 1⟩,
  ⟨0x2E0B, 0x2E0B, 1⟩, ⟨0x1F676, 0x1F678, 1⟩]

/-- The small and the capital letters of Georgian, which do not tell where a sentence begins. -/
def isPlainGeorgian (c : Char) : Bool :=
  inSpans c.toNat [⟨0x10D0, 0x10FA, 1⟩, ⟨0x10FD, 0x10FF, 1⟩, ⟨0x1C90, 0x1CBF, 1⟩]

def sentenceBreak? (c : Char) : Option SentenceBreak :=
  let n := c.toNat
  if n == 0xD then some .cr
  else if n == 0xA then some .lf
  else if [0x85, 0x2028, 0x2029].contains n then some .sep
  else if n == 0x200D || isGraphemeExtend c || Category.mc.has c then some .extend
  else if isWhiteSpace c then some .sp
  else if isLowercase c && !isPlainGeorgian c then some .lower
  else if (Category.lt.has c || isUppercase c) && !isPlainGeorgian c then some .upper
  else if isNumeric c || n == 0x66B || n == 0x66C then some .numeric
  else if isAlphabetic c || n == 0x5F3 then some .oLetter
  else if Category.cf.has c then some .format
  else if [0x2E, 0x2024, 0xFE52, 0xFF0E].contains n then some .aTerm
  else if isSentenceTerminal c then some .sTerm
  else if inSpans n sentenceContinues then some .sContinue
  else if [Category.ps, .pe, .pi, .pf].any (·.has c) || inSpans n otherSentenceCloses then
    some .close
  else none

end Signpost.Unicode
