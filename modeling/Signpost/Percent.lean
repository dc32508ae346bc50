import Signpost.Text

/-!
# Percent-encoding

How a parameter value is written into a path. Every byte of it is encoded that is not unreserved,
and then the two separators are put back in the place of their codes, so that a value can span
several segments.
-/

namespace Signpost.Percent

/-- The characters that stand for themselves in every part of a link. -/
def isUnreserved (c : Char) : Bool :=
  c.isAlphanum || c == '-' || c == '_' || c == '.' || c == '~'

def hexDigit (n : Nat) : Char :=
  if n < 10 then Char.ofNat ('0'.toNat + n) else Char.ofNat ('A'.toNat + (n - 10))

/-- A byte as a percent sign and two digits. -/
def encodeByte (b : UInt8) : List Char := ['%', hexDigit (b.toNat / 16), hexDigit (b.toNat % 16)]

/-- A byte as it stands in a link. -/
def writeByte (b : UInt8) : List Char :=
  if isUnreserved (.ofUInt8 b) then [.ofUInt8 b] else encodeByte b

/-- A value as it stands in a part of a link that has no separators. -/
def encodeBytes (s : String) : List Char := s.toUTF8.data.toList.flatMap writeByte

/-- A value as it stands in a path. -/
def encode (s : String) : String :=
  String.ofList
    (Text.replace "%5C".toList ['\\'] (Text.replace "%2F".toList ['/'] (encodeBytes s)))

end Signpost.Percent
