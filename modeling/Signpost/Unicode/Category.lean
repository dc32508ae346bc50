import Signpost.Unicode.Letter
import Signpost.Unicode.Mark
import Signpost.Unicode.Number
import Signpost.Unicode.Punctuation
import Signpost.Unicode.Symbol

/-!
# General categories

Every assigned character has exactly one general category, of which each has a two-letter code.
The constructors are those codes.
-/

namespace Signpost.Unicode

/-- A general category of assigned characters. -/
inductive Category
  | lu | ll | lt | lm | lo
  | mn | mc | me
  | nd | nl | no
  | pc | pd | ps | pe | pi | pf | po
  | sm | sc | sk | so
  | zs | zl | zp
  | cc | cf | co
deriving Repr, DecidableEq

namespace Category

def spans : Category → List Span
  | lu => uppercaseLetters
  | ll => lowercaseLetters
  | lt => titlecaseLetters
  | lm => modifierLetters
  | lo => otherLetters
  | mn => nonspacingMarks
  | mc => spacingMarks
  | me => enclosingMarks
  | nd => decimalDigits
  | nl => letterNumbers
  | no => otherNumbers
  | pc => connectors
  | pd => dashes
  | ps => openings
  | pe => closings
  | pi => initialQuotes
  | pf => finalQuotes
  | po => otherPunctuation
  | sm => mathSymbols
  | sc => currencySymbols
  | sk => modifierSymbols
  | so => otherSymbols
  | zs => spaceSeparators
  | zl => lineSeparators
  | zp => paragraphSeparators
  | cc => controls
  | cf => formats
  | co => privateUse

def has (k : Category) (c : Char) : Bool := inSpans c.toNat k.spans

def letters : List Category := [lu, ll, lt, lm, lo]

/-- The categories of letters that have case. -/
def casedLetters : List Category := [lu, ll, lt]

def marks : List Category := [mn, mc, me]

def numbers : List Category := [nd, nl, no]

def punctuation : List Category := [pc, pd, ps, pe, pi, pf, po]

def symbols : List Category := [sm, sc, sk, so]

def separators : List Category := [zs, zl, zp]

/-- Every category of assigned characters. -/
def assigned : List Category :=
  letters ++ marks ++ numbers ++ punctuation ++ symbols ++ separators ++ [cc, cf, co]

end Category

def isAssigned (c : Char) : Bool := Category.assigned.any (·.has c)

end Signpost.Unicode
