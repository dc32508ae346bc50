import Signpost.Regex.Basic
import Signpost.Text
import Signpost.Unicode.Name

/-!
# Escapes

What a backslash and the characters behind it stand for in the text of a pattern. A reader takes the
text that is left and gives back what it read with the rest, or `none` if the text is no pattern.
-/

namespace Signpost.Regex

/-- The switches that change how the text of a pattern is read. -/
structure Flags where
  ignoreCase : Bool := false
  multiLine : Bool := false
  dotAll : Bool := false
  /-- Exchanges the meaning of greedy and lazy repetitions. -/
  swapGreed : Bool := false
  unicode : Bool := true
  /-- Carriage returns end lines too. -/
  crlf : Bool := false
  /-- Blanks and comments in the pattern do not count. -/
  spaced : Bool := false
deriving Repr, DecidableEq

/-- Leaves out blanks and comments, which run from a number sign to the end of the line. -/
def dropBlanks (inComment : Bool) : List Char → List Char
  | [] => []
  | c :: cs =>
    if inComment then dropBlanks (c != '\n') cs
    else if Unicode.isWhiteSpace c then dropBlanks false cs
    else if c == '#' then dropBlanks true cs
    else c :: cs

/-- Leaves out blanks and comments where they do not count. -/
def Flags.skip (f : Flags) (cs : List Char) : List Char :=
  if f.spaced then dropBlanks false cs else cs

/-- Folds case where it does not count. -/
def Flags.foldCase (f : Flags) (s : CharSet) : CharSet :=
  if f.ignoreCase then if f.unicode then s.fold else s.foldAscii else s

/-- What an escape stands for. -/
inductive Atom
  | char (c : Char)
  | set (s : CharSet)
  | look (l : Look)
deriving Repr, DecidableEq

/-! ## Numbers -/

def hexValue? (c : Char) : Option Nat :=
  if '0' ≤ c ∧ c ≤ '9' then some (c.toNat - '0'.toNat)
  else if 'a' ≤ c ∧ c ≤ 'f' then some (c.toNat - 'a'.toNat + 10)
  else if 'A' ≤ c ∧ c ≤ 'F' then some (c.toNat - 'A'.toNat + 10)
  else none

/-- The character with a given number, unless the number is that of no character. -/
def charOfNat? (n : Nat) : Option Char :=
  if h : n.isValidChar then some (Char.ofNatAux n h) else none

/-- Reads exactly `count` hexadecimal digits onto the value of those before. -/
def readHexDigits (f : Flags) : (count value : Nat) → List Char → Option (Nat × List Char)
  | 0, value, cs => some (value, cs)
  | n + 1, value, cs =>
    match f.skip cs with
    | [] => none
    | c :: cs => do readHexDigits f n (16 * value + (← hexValue? c)) cs

/-- Reads the inside of braces: the characters up to the closing one, without blanks where those do
not count. The text begins behind the opening brace. -/
def readBraces (f : Flags) (cs : List Char) : Option (List Char × List Char) :=
  go false cs
where
  go (inComment : Bool) : List Char → Option (List Char × List Char)
    | [] => none
    | c :: cs =>
      if inComment then go (c != '\n') cs
      else if f.spaced && Unicode.isWhiteSpace c then go false cs
      else if f.spaced && c == '#' then go true cs
      else if c == '\x7d' then some ([], cs)
      else do
        let (inside, rest) ← go false cs
        some (c :: inside, rest)

/-- The value of some hexadecimal digits, of which there must be one at least. -/
def hexNumber? (digits : List Char) : Option Nat :=
  if digits.isEmpty then none
  else digits.foldlM (fun value c => do return 16 * value + (← hexValue? c)) 0

/-- Reads the digits of a character escape, of which there are `count` unless they stand in
braces. -/
def readHexChar (f : Flags) (count : Nat) (cs : List Char) : Option (Atom × List Char) :=
  match f.skip cs with
  | '\x7b' :: cs => do
    let (digits, rest) ← readBraces f cs
    let c ← charOfNat? (← hexNumber? digits)
    some (.char c, rest)
  | cs => do
    let (n, rest) ← readHexDigits f count 0 cs
    let c ← charOfNat? n
    -- two digits stand for one byte, and a byte beyond ASCII is no text without Unicode
    if count = 2 ∧ 128 ≤ n ∧ !f.unicode then none
    else some (.char c, rest)

/-! ## Classes -/

def asciiDigits : CharSet := .range '0' '9'

def asciiLetters : CharSet := .union (.range 'A' 'Z') (.range 'a' 'z')

def asciiBlanks : CharSet := .ofList ['\t', '\n', '\x0b', '\x0c', '\r', ' ']

def asciiWords : CharSet := .union (.union asciiLetters asciiDigits) (.single '_')

/-- The complement of a set. It holds bytes that are no text unless Unicode is on. -/
def Flags.negate? (f : Flags) (negated : Bool) (s : CharSet) : Option CharSet :=
  if negated then if f.unicode then some (.compl s) else none else some s

/-- Digits, blanks and word characters, by the letter of their escape. A capital letter stands for
all other characters. -/
def letterClass? (f : Flags) (letter : Char) : Option CharSet :=
  match letter with
  | 'd' => some (digits f)
  | 's' => some (blanks f)
  | 'w' => some (words f)
  | 'D' => f.negate? true (digits f)
  | 'S' => f.negate? true (blanks f)
  | 'W' => f.negate? true (words f)
  | _ => none
where
  digits (f : Flags) : CharSet :=
    if f.unicode then .property (.oneOf [.nd]) else asciiDigits
  blanks (f : Flags) : CharSet :=
    if f.unicode then .property (.binary .whiteSpace) else asciiBlanks
  words (f : Flags) : CharSet :=
    if f.unicode then .property .word else asciiWords

/-- The property named in braces, and whether the characters without it are meant. -/
def bracedProperty? (inside : List Char) : Option (Unicode.Property × Bool) :=
  match Text.splitOnce? ['!', '='] inside with
  | some (name, value) => (Unicode.Property.ofNameValue? name value).map (·, true)
  | none =>
    match (Text.splitOnce? [':'] inside).or (Text.splitOnce? ['='] inside) with
    | some (name, value) => (Unicode.Property.ofNameValue? name value).map (·, false)
    | none => (Unicode.Property.ofName? inside).map (·, false)

/-- Reads the name of a property: one letter, or a name in braces. -/
def readProperty (f : Flags) (negated : Bool) (cs : List Char) : Option (Atom × List Char) := do
  let (property, inverse, rest) ←
    match f.skip cs with
    | [] => none
    | '\x7b' :: cs => do
      let (inside, rest) ← readBraces f cs
      let (property, inverse) ← bracedProperty? inside
      some (property, inverse, rest)
    | '\\' :: _ => none
    | c :: cs => (Unicode.Property.ofName? [c]).map (·, false, cs)
  if !f.unicode then none
  else
    let s ← f.negate? (negated != inverse) (f.foldCase (.property property))
    some (.set s, rest)

/-! ## Word edges -/

/-- Whether the name of an edge of words may hold a character. -/
def isEdgeNameChar (c : Char) : Bool := c.isAlpha || c == '-'

/-- The edges of words that have names. -/
def wordEdge? (name : List Char) : Option WordEdge :=
  [("start", .start), ("end", .stop), ("start-half", .startHalf), ("end-half", .stopHalf)].lookup
    (String.ofList name)

/-- Reads what follows the escape of a word boundary. A brace may begin the name of an edge or a
count; it begins a count when no name follows. -/
def readBoundary (f : Flags) (cs : List Char) : Option (Atom × List Char) :=
  let plain := (Atom.look (.word .boundary f.unicode), cs)
  match cs with
  | '\x7b' :: inner =>
    match f.skip inner with
    | [] => none
    | c :: _ =>
      if isEdgeNameChar c then do
        let (name, rest) ← readBraces f inner
        let edge ← wordEdge? name
        some (.look (.word edge f.unicode), rest)
      else some plain
  | _ => some plain

/-! ## Escapes -/

/-- The characters that have a meaning of their own in patterns. -/
def isMeta (c : Char) : Bool :=
  ['\\', '.', '+', '*', '?', '(', ')', '|', '[', ']', '\x7b', '\x7d', '^', '$', '#', '&', '-',
    '~'].contains c

/-- The characters that stand for themselves behind a backslash: those of ASCII that are neither
letters nor digits nor angle brackets. -/
def isEscapable (c : Char) : Bool :=
  c.toNat < 128 && !c.isAlphanum && c != '<' && c != '>'

/-- Reads an escape. The text begins behind the backslash. -/
def readEscape (f : Flags) : List Char → Option (Atom × List Char)
  | [] => none
  | 'x' :: cs => readHexChar f 2 cs
  | 'u' :: cs => readHexChar f 4 cs
  | 'U' :: cs => readHexChar f 8 cs
  | 'p' :: cs => readProperty f false cs
  | 'P' :: cs => readProperty f true cs
  | 'a' :: cs => some (.char '\x07', cs)
  | 'f' :: cs => some (.char '\x0c', cs)
  | 't' :: cs => some (.char '\t', cs)
  | 'n' :: cs => some (.char '\n', cs)
  | 'r' :: cs => some (.char '\r', cs)
  | 'v' :: cs => some (.char '\x0b', cs)
  | 'A' :: cs => some (.look .textStart, cs)
  | 'z' :: cs => some (.look .textEnd, cs)
  | 'b' :: cs => readBoundary f cs
  | 'B' :: cs => some (.look (.word .inside f.unicode), cs)
  | '<' :: cs => some (.look (.word .start f.unicode), cs)
  | '>' :: cs => some (.look (.word .stop f.unicode), cs)
  | c :: cs =>
    if isEscapable c then some (.char c, cs)
    else (letterClass? f c).map fun s => (.set s, cs)

end Signpost.Regex
