import Signpost.Unicode.Break

/-!
# Changes of case

Which characters become others when a text is written in small letters, in capitals, with a capital
in front, or without regard to case.
-/

namespace Signpost.Unicode

/-! ## Tables -/

/-- Capitals that have no small letter. The spans run over other characters too. -/
def unpairedCapitals : List Span := [
  ⟨0x3D2, 0x3D4, 1⟩, ⟨0x2102, 0x2124, 1⟩, ⟨0x2128, 0x2128, 1⟩, ⟨0x212C, 0x2131, 1⟩,
  ⟨0x2133, 0x2145, 1⟩, ⟨0x1D400, 0x1D7CA, 1⟩, ⟨0x1F130, 0x1F189, 1⟩]

/-- Small letters that have no capital. The spans run over other characters too. -/
def unpairedSmalls : List Span := [
  ⟨0xAA, 0xAA, 1⟩, ⟨0xBA, 0xBA, 1⟩, ⟨0x138, 0x138, 1⟩, ⟨0x18D, 0x18D, 1⟩, ⟨0x1AA, 0x1AB, 1⟩,
  ⟨0x1BA, 0x1BA, 1⟩, ⟨0x1BE, 0x1BE, 1⟩, ⟨0x221, 0x221, 1⟩, ⟨0x234, 0x239, 1⟩, ⟨0x255, 0x255, 1⟩,
  ⟨0x258, 0x258, 1⟩, ⟨0x25A, 0x25A, 1⟩, ⟨0x25D, 0x25F, 1⟩, ⟨0x262, 0x262, 1⟩, ⟨0x267, 0x267, 1⟩,
  ⟨0x26D, 0x26E, 1⟩, ⟨0x270, 0x270, 1⟩, ⟨0x273, 0x274, 1⟩, ⟨0x276, 0x27C, 1⟩, ⟨0x27E, 0x27F, 1⟩,
  ⟨0x281, 0x281, 1⟩, ⟨0x284, 0x286, 1⟩, ⟨0x28D, 0x291, 1⟩, ⟨0x293, 0x29C, 1⟩, ⟨0x29F, 0x2E4, 1⟩,
  ⟨0x37A, 0x37A, 1⟩, ⟨0x3FC, 0x3FC, 1⟩, ⟨0x560, 0x560, 1⟩, ⟨0x588, 0x588, 1⟩, ⟨0x10FC, 0x10FC, 1⟩,
  ⟨0x1D00, 0x1D78, 1⟩, ⟨0x1D7A, 0x1D7C, 1⟩, ⟨0x1D7E, 0x1D8D, 1⟩, ⟨0x1D8F, 0x1DBF, 1⟩,
  ⟨0x1E9C, 0x1E9F, 1⟩, ⟨0x2071, 0x2149, 1⟩, ⟨0x2C71, 0x2C71, 1⟩, ⟨0x2C74, 0x2C74, 1⟩,
  ⟨0x2C77, 0x2C7D, 1⟩, ⟨0x2CE4, 0x2CE4, 1⟩, ⟨0xA69C, 0xA69D, 1⟩, ⟨0xA730, 0xA731, 1⟩,
  ⟨0xA770, 0xA778, 1⟩, ⟨0xA78E, 0xA78E, 1⟩, ⟨0xA795, 0xA795, 1⟩, ⟨0xA7AF, 0xA7AF, 1⟩,
  ⟨0xA7F1, 0xA7F4, 1⟩, ⟨0xA7F8, 0xAB52, 1⟩, ⟨0xAB54, 0xAB69, 1⟩, ⟨0x10780, 0x107BA, 1⟩,
  ⟨0x1D41A, 0x1E06D, 1⟩]

/-- Small letters that become others when case is disregarded. -/
def foldedSmalls : List Span := [
  ⟨0xB5, 0xB5, 1⟩, ⟨0xDF, 0xDF, 1⟩, ⟨0x149, 0x149, 1⟩, ⟨0x17F, 0x17F, 1⟩, ⟨0x345, 0x345, 1⟩,
  ⟨0x3C2, 0x3C2, 1⟩, ⟨0x3D0, 0x3D1, 1⟩, ⟨0x3D5, 0x3D6, 1⟩, ⟨0x3F0, 0x3F1, 1⟩, ⟨0x3F5, 0x3F5, 1⟩,
  ⟨0x587, 0x587, 1⟩, ⟨0x13F8, 0x13FD, 1⟩, ⟨0x1C80, 0x1C88, 1⟩, ⟨0x1E9A, 0x1E9B, 1⟩,
  ⟨0x1F80, 0x1F87, 1⟩, ⟨0x1F90, 0x1F97, 1⟩, ⟨0x1FA0, 0x1FA7, 1⟩, ⟨0x1FB2, 0x1FB4, 1⟩,
  ⟨0x1FB7, 0x1FB7, 1⟩, ⟨0x1FC2, 0x1FC4, 1⟩, ⟨0x1FC7, 0x1FC7, 1⟩, ⟨0x1FF2, 0x1FF4, 1⟩,
  ⟨0x1FF7, 0x1FF7, 1⟩, ⟨0xAB70, 0xABBF, 1⟩, ⟨0xFB00, 0xFB06, 1⟩, ⟨0xFB13, 0xFB17, 1⟩]

/-- Small letters whose dot goes when an accent is put on them. -/
def dotteds : List Span := [
  ⟨0x69, 0x6A, 1⟩, ⟨0x12F, 0x12F, 1⟩, ⟨0x249, 0x249, 1⟩, ⟨0x268, 0x268, 1⟩, ⟨0x29D, 0x29D, 1⟩,
  ⟨0x2B2, 0x2B2, 1⟩, ⟨0x3F3, 0x3F3, 1⟩, ⟨0x456, 0x456, 1⟩, ⟨0x458, 0x458, 1⟩, ⟨0x1D62, 0x1D62, 1⟩,
  ⟨0x1D96, 0x1D96, 1⟩, ⟨0x1DA4, 0x1DA4, 1⟩, ⟨0x1DA8, 0x1DA8, 1⟩, ⟨0x1E2D, 0x1E2D, 1⟩,
  ⟨0x1ECB, 0x1ECB, 1⟩, ⟨0x2071, 0x2071, 1⟩, ⟨0x2148, 0x2149, 1⟩, ⟨0x2C7C, 0x2C7C, 1⟩,
  ⟨0x1D422, 0x1D423, 1⟩, ⟨0x1D456, 0x1D457, 1⟩, ⟨0x1D48A, 0x1D48B, 1⟩, ⟨0x1D4BE, 0x1D4BF, 1⟩,
  ⟨0x1D4F2, 0x1D4F3, 1⟩, ⟨0x1D526, 0x1D527, 1⟩, ⟨0x1D55A, 0x1D55B, 1⟩, ⟨0x1D58E, 0x1D58F, 1⟩,
  ⟨0x1D5C2, 0x1D5C3, 1⟩, ⟨0x1D5F6, 0x1D5F7, 1⟩, ⟨0x1D62A, 0x1D62B, 1⟩, ⟨0x1D65E, 0x1D65F, 1⟩,
  ⟨0x1D692, 0x1D693, 1⟩, ⟨0x1DF1A, 0x1DF1A, 1⟩, ⟨0x1E04C, 0x1E04D, 1⟩, ⟨0x1E068, 0x1E068, 1⟩]

/-! ## Predicates -/

def changesWhenLowercased (c : Char) : Bool :=
  (isUppercase c || Category.lt.has c) && !inSpans c.toNat unpairedCapitals

def changesWhenUppercased (c : Char) : Bool :=
  (isLowercase c || Category.lt.has c) && !inSpans c.toNat unpairedSmalls

/-- Small letters have a capital, but those of Georgian keep their form at the front of a word. Four
capitals are made of two letters, of which the second becomes small. -/
def changesWhenTitlecased (c : Char) : Bool :=
  [0x1C4, 0x1C7, 0x1CA, 0x1F1].contains c.toNat
    || (changesWhenUppercased c && !Category.lt.has c && !isPlainGeorgian c)

/-- The capitals of Cherokee stand for both cases. -/
def changesWhenCasefolded (c : Char) : Bool :=
  (changesWhenLowercased c && !(0x13A0 ≤ c.toNat && c.toNat ≤ 0x13F5))
    || inSpans c.toNat foldedSmalls

def changesWhenCasemapped (c : Char) : Bool :=
  changesWhenLowercased c || changesWhenUppercased c || changesWhenTitlecased c

/-- What can stand within a word without ending it, so far as case goes. -/
def isCaseIgnorable (c : Char) : Bool :=
  [Category.mn, .me, .cf, .lm, .sk].any (·.has c)
    || [some .midLetter, some .midNumLet, some .singleQuote].contains (wordBreak? c)

def isSoftDotted (c : Char) : Bool := inSpans c.toNat dotteds

end Signpost.Unicode
