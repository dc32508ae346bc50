import Signpost.Unicode.Age
import Signpost.Unicode.Binary
import Signpost.Unicode.ScriptExtension

/-!
# Properties

Every property of characters that a pattern can name, as data.
-/

namespace Signpost.Unicode

/-- A property of characters. -/
inductive Property
  | any
  | ascii
  | assigned
  | unassigned
  /-- Controls, format characters, private use and what is not assigned. -/
  | other
  | oneOf (categories : List Category)
  | word
  | binary (p : BinaryProperty)
  /-- The characters of a script, given by its normalized long name. -/
  | script (name : String)
  /-- The characters that are used with a script. -/
  | scriptExtension (name : String)
  /-- The characters that came in a version or before it. -/
  | age (v : Version)
  | graphemeBreak (k : GraphemeBreak)
  | wordBreak (k : WordBreak)
  | sentenceBreak (k : SentenceBreak)
deriving Repr, DecidableEq

def Property.has : Property → Char → Bool
  | any, _ => true
  | ascii, c => c.toNat < 128
  | assigned, c => isAssigned c
  | unassigned, c => !isAssigned c
  | other, c =>
    Category.cc.has c || Category.cf.has c || Category.co.has c || !isAssigned c
  | oneOf ks, c => ks.any (·.has c)
  | word, c => isWord c
  | binary p, c => p.has c
  | script name, c => inScript name c
  | scriptExtension name, c => isUsedInScript name c
  | age v, c => isOfAge v c
  | graphemeBreak k, c => graphemeBreak? c == some k
  | wordBreak k, c => wordBreak? c == some k
  | sentenceBreak k, c => sentenceBreak? c == some k

end Signpost.Unicode
