import Signpost.Unicode.Utf8

/-!
# Tokens of JSON

The words of a JSON text. The text comes as characters of which some may be bytes that are part of
no character; such a byte may stand inside a string only. A string that holds one, or half
of a surrogate pair, is well formed but no text.
-/

namespace Signpost.Json

/-- A word of a JSON text. -/
inductive Token
  | beginArray
  | endArray
  | beginObject
  | endObject
  | comma
  | colon
  | null
  | bool (b : Bool)
  | number (literal : String)
  /-- A string with its text, if it has one. -/
  | string (text : Option String)
deriving Repr, DecidableEq

/-- One element of a string. -/
inductive StringPart
  | char (c : Char)
  /-- A 16-bit unit given by its number. -/
  | unit (n : Nat)
  /-- A byte that is part of no character. -/
  | byte
deriving Repr, DecidableEq

/-! ## Strings -/

/-- Whether a 16-bit unit is the first half of a surrogate pair. -/
def isHighHalf (n : Nat) : Bool := 0xD800 ≤ n && n < 0xDC00

/-- Whether a 16-bit unit is the second half of a surrogate pair. -/
def isLowHalf (n : Nat) : Bool := 0xDC00 ≤ n && n < 0xE000

/-- The text of a string. Two halves of a surrogate pair that follow each other are one character,
and no half stands alone. -/
def textOf? : (pending : Option Nat) → List StringPart → Option (List Char)
  | none, [] => some []
  | some _, [] => none
  | none, .char c :: ps => (textOf? none ps).map (c :: ·)
  | none, .unit n :: ps =>
    if isHighHalf n then textOf? (some n) ps
    else if isLowHalf n then none
    else (textOf? none ps).map (Char.ofNat n :: ·)
  | some high, .unit n :: ps =>
    if isLowHalf n then
      (textOf? none ps).map (Char.ofNat (0x10000 + 0x400 * (high - 0xD800) + (n - 0xDC00)) :: ·)
    else none
  | some _, .char _ :: _ => none
  | _, .byte :: _ => none

/-- The character that a backslash and a letter stand for. -/
def simpleEscape? : Char → Option Char
  | '"' => some '"'
  | '\\' => some '\\'
  | '/' => some '/'
  | 'b' => some '\x08'
  | 'f' => some '\x0c'
  | 'n' => some '\n'
  | 'r' => some '\r'
  | 't' => some '\t'
  | _ => none

def hexValue? (c : Char) : Option Nat :=
  if '0' ≤ c ∧ c ≤ '9' then some (c.toNat - '0'.toNat)
  else if 'a' ≤ c ∧ c ≤ 'f' then some (c.toNat - 'a'.toNat + 10)
  else if 'A' ≤ c ∧ c ≤ 'F' then some (c.toNat - 'A'.toNat + 10)
  else none

/-- The value of the first four characters, if they are hexadecimal digits. -/
def fourDigits? : List (Option Char) → Option Nat
  | some a :: some b :: some c :: some d :: _ => do
    return 4096 * (← hexValue? a) + 256 * (← hexValue? b) + 16 * (← hexValue? c) + (← hexValue? d)
  | _ => none

/-! ## Numbers -/

def isNumberChar (c : Char) : Bool :=
  c.isDigit || c == '-' || c == '+' || c == '.' || c == 'e' || c == 'E'

/-- Whether some characters are nothing, or an exponent. -/
def isExponent : List Char → Bool
  | [] => true
  | c :: cs =>
    let digits := if cs.head? = some '+' ∨ cs.head? = some '-' then cs.tail else cs
    (c == 'e' || c == 'E') && !digits.isEmpty && digits.all Char.isDigit

/-- Whether some characters are what may follow the integer part of a number. -/
def isFraction : List Char → Bool
  | '.' :: cs => !(cs.takeWhile Char.isDigit).isEmpty && isExponent (cs.dropWhile Char.isDigit)
  | cs => isExponent cs

/-- Whether some characters are a number. An integer part begins with a zero only if it is zero. -/
def isNumber (cs : List Char) : Bool :=
  match if cs.head? = some '-' then cs.tail else cs with
  | [] => false
  | c :: cs =>
    if c = '0' then isFraction cs else c.isDigit && isFraction (cs.dropWhile Char.isDigit)

/-! ## Words -/

def punctuation? : Char → Option Token
  | '[' => some .beginArray
  | ']' => some .endArray
  | '\x7b' => some .beginObject
  | '\x7d' => some .endObject
  | ',' => some .comma
  | ':' => some .colon
  | _ => none

/-- The word that has a spelling of its own at the start of a text, and the number of characters
behind its first one. -/
def keyword? (cs : List (Option Char)) : Option (Token × Nat) :=
  if ("null".toList.map some).isPrefixOf cs then some (.null, 3)
  else if ("true".toList.map some).isPrefixOf cs then some (.bool true, 3)
  else if ("false".toList.map some).isPrefixOf cs then some (.bool false, 4)
  else none

/-- Whether a character is a blank between words. -/
def isBlank (c : Char) : Bool := c == ' ' || c == '\n' || c == '\t' || c == '\r'

/-- What is being read. The parts of a string and the characters of a number come last first. -/
inductive Mode
  | between
  | inString (parts : List StringPart)
  | inNumber (read : List Char)
deriving Repr, DecidableEq

/-- What follows from one element of a text: the word that ends with it, what is read next, and the
number of further elements that have been read already. -/
structure Step where
  token : Option Token
  mode : Mode
  skip : Nat
deriving Repr, DecidableEq

/-- Takes a character onto a number. The number ends where no character of one follows. -/
def numberStep (read : List Char) (cs : List (Option Char)) : Option Step :=
  if cs.head?.join.any isNumberChar then some ⟨none, .inNumber read, 0⟩
  else if isNumber read.reverse then
    some ⟨some (.number (String.ofList read.reverse)), .between, 0⟩
  else none

/-- Takes a character between words. -/
def wordStep (c : Char) (cs : List (Option Char)) : Option Step :=
  if isBlank c then some ⟨none, .between, 0⟩
  else if c = '"' then some ⟨none, .inString [], 0⟩
  else if c.isDigit || c == '-' then numberStep [c] cs
  else
    match punctuation? c with
    | some t => some ⟨some t, .between, 0⟩
    | none => (keyword? (some c :: cs)).map fun (t, k) => ⟨some t, .between, k⟩

/-- Takes an escape onto a string. The text begins behind the backslash. -/
def escapeStep (parts : List StringPart) : List (Option Char) → Option Step
  | some 'u' :: digits =>
    (fourDigits? digits).map fun n => ⟨none, .inString (.unit n :: parts), 5⟩
  | some e :: _ => (simpleEscape? e).map fun c => ⟨none, .inString (.char c :: parts), 1⟩
  | _ => none

/-- Takes a character onto a string. -/
def stringStep (parts : List StringPart) (c : Char) (cs : List (Option Char)) : Option Step :=
  if c = '"' then
    some ⟨some (.string ((textOf? none parts.reverse).map String.ofList)), .between, 0⟩
  else if c = '\\' then escapeStep parts cs
  else if c.toNat < 0x20 then none
  else some ⟨none, .inString (.char c :: parts), 0⟩

/-- Takes one element of a text. -/
def Mode.step (mode : Mode) (c : Option Char) (cs : List (Option Char)) : Option Step :=
  match mode, c with
  | between, some c => wordStep c cs
  | inString parts, some c => stringStep parts c cs
  | inString parts, none => some ⟨none, .inString (.byte :: parts), 0⟩
  | inNumber read, some c => numberStep (c :: read) cs
  | _, none => none

/-- The words of a text but for its next `skip` elements, which have been read already. -/
def tokensFrom (mode : Mode) : (skip : Nat) → List (Option Char) → Option (List Token)
  | _, [] => if mode = .between then some [] else none
  | k + 1, _ :: cs => tokensFrom mode k cs
  | 0, c :: cs =>
    match mode.step c cs with
    | none => none
    | some s => (tokensFrom s.mode s.skip cs).map (s.token.toList ++ ·)

def tokens? (cs : List (Option Char)) : Option (List Token) := tokensFrom .between 0 cs

end Signpost.Json
