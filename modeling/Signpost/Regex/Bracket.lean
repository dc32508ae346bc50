import Signpost.Regex.Escape

/-!
# Bracketed classes

Reads what stands between brackets: characters, ranges, named classes, nested brackets, and the
operations `&&`, `--` and `~~` on the sets before and behind them. Each construct counts towards the
depth of the pattern: a pair of brackets, a union of two or more items, and an operation.

Main facts: `readBracket_more` and `readBracket_closed`, which take the reader one construct
further.
-/

namespace Signpost.Regex

inductive SetOp
  | inter
  | diff
  | symmDiff
deriving Repr, DecidableEq

/-- The set that an operation makes. Case is folded in both operands first, where it does not
count. -/
def SetOp.apply (op : SetOp) (f : Flags) (s t : CharSet) : CharSet :=
  match op with
  | inter => (f.foldCase s).inter (f.foldCase t)
  | diff => (f.foldCase s).diff (f.foldCase t)
  | symmDiff => (f.foldCase s).symmDiff (f.foldCase t)

/-- A set and the depth of its description. -/
structure SizedSet where
  set : CharSet
  depth : Nat
deriving Repr, DecidableEq

/-- A pair of brackets that is still open. -/
structure Bracket where
  negated : Bool
  /-- The operand before the last operation. -/
  left : Option (SizedSet × SetOp) := none
  /-- The union of the items since the last operation, and their number. -/
  items : SizedSet := ⟨.none, 0⟩
  count : Nat := 0
deriving Repr, DecidableEq

namespace Bracket

def add (b : Bracket) (item : SizedSet) : Bracket :=
  { b with
    items := ⟨if b.count = 0 then item.set else .union b.items.set item.set,
      max b.items.depth item.depth⟩
    count := b.count + 1 }

/-- The set described so far. -/
def operand (b : Bracket) (f : Flags) : SizedSet :=
  let right : SizedSet :=
    if 2 ≤ b.count then { b.items with depth := b.items.depth + 1 } else b.items
  match b.left with
  | none => right
  | some (left, op) => ⟨op.apply f left.set right.set, max left.depth right.depth + 1⟩

/-- Goes on behind an operation. -/
def operate (b : Bracket) (f : Flags) (op : SetOp) : Bracket :=
  { negated := b.negated, left := some (b.operand f, op) }

/-- The set of a pair of brackets that has been closed. -/
def close? (b : Bracket) (f : Flags) : Option SizedSet := do
  let inside := b.operand f
  let set ← f.negate? b.negated (f.foldCase inside.set)
  some ⟨set, inside.depth + 1⟩

end Bracket

/-- Takes hyphens for characters at the start of a bracket. There must be something behind them. -/
def openHyphens (f : Flags) :
    (b : Bracket) → (skip : Nat) → List Char → Option (Bracket × List Char)
  | _, _, [] => none
  | b, k + 1, _ :: cs => openHyphens f b k cs
  | b, 0, '-' :: cs =>
    openHyphens f (b.add ⟨.single '-', 0⟩) (cs.length - (f.skip cs).length) cs
  | b, 0, cs => some (b, cs)

/-- Opens a bracket. The text begins behind the opening one. A hyphen, or else a closing bracket,
that comes first is a character. -/
def openBracket (f : Flags) (cs : List Char) : Option (Bracket × List Char) := do
  let (negated, cs) ←
    match f.skip cs with
    | [] => none
    | '^' :: cs => some (true, f.skip cs)
    | cs => some (false, cs)
  let (b, cs) ← openHyphens f { negated } 0 cs
  match cs with
  | ']' :: rest =>
    if b.count = 0 then
      match f.skip rest with
      | [] => none
      | rest => some (b.add ⟨.single ']', 0⟩, rest)
    else some (b, cs)
  | cs => some (b, cs)

/-- The classes of ASCII that have names. -/
def asciiClass? (name : List Char) : Option CharSet :=
  [("alnum", .union asciiLetters asciiDigits),
   ("alpha", asciiLetters),
   ("ascii", .range '\x00' '\x7f'),
   ("blank", .ofList ['\t', ' ']),
   ("cntrl", .union (.range '\x00' '\x1f') (.single '\x7f')),
   ("digit", asciiDigits),
   ("graph", .range '!' '~'),
   ("lower", .range 'a' 'z'),
   ("print", .range ' ' '~'),
   ("punct", .union (.union (.range '!' '/') (.range ':' '@'))
      (.union (.range '[' '\x60') (.range '\x7b' '~'))),
   ("space", asciiBlanks),
   ("upper", .range 'A' 'Z'),
   ("word", asciiWords),
   ("xdigit", .union asciiDigits (.union (.range 'A' 'F') (.range 'a' 'f')))].lookup
    (String.ofList name)

/-- Reads a class like `[:alpha:]` or `[:^alpha:]`; `none` if there is none. The text begins behind
the opening bracket. -/
def namedClass? : List Char → Option (CharSet × Bool × List Char)
  | ':' :: cs =>
    let (negated, cs) :=
      match cs with
      | '^' :: cs => (true, cs)
      | cs => (false, cs)
    match cs.dropWhile (· != ':') with
    | ':' :: ']' :: rest => (asciiClass? (cs.takeWhile (· != ':'))).map (·, negated, rest)
    | _ => none
  | _ => none

/-- The character behind a hyphen that tells whether the hyphen makes a range. Where blanks do not
count it is the first one that is no blank, and at most one number sign is passed over too. -/
def peekBehind (f : Flags) (cs : List Char) : Option Char :=
  if f.spaced then
    match cs.dropWhile Unicode.isWhiteSpace with
    | '#' :: rest => (rest.dropWhile Unicode.isWhiteSpace).head?.or cs.head?
    | rest => rest.head?.or cs.head?
  else cs.head?

/-- Reads a character or a class inside brackets. -/
def readItem (f : Flags) : List Char → Option (Atom × List Char)
  | [] => none
  | '\\' :: cs => readEscape f cs
  | c :: cs => some (.char c, cs)

/-- The characters that may stand in brackets: without Unicode, those of ASCII. -/
def Flags.allows (f : Flags) (c : Char) : Bool := f.unicode || c.toNat < 128

/-- Reads one item inside brackets: a character, a class, or a range from one character to a later
one. -/
def readRange (f : Flags) (cs : List Char) : Option (CharSet × List Char) := do
  let (first, cs) ← readItem f cs
  let cs := f.skip cs
  let single : Option (CharSet × List Char) :=
    match first with
    | .char c => if f.allows c then some (.single c, cs) else none
    | .set s => some (s, cs)
    | .look _ => none
  match cs with
  | [] => none
  | '-' :: behind =>
    if peekBehind f behind = some ']' ∨ peekBehind f behind = some '-' then single
    else do
      let (last, rest) ← readItem f (f.skip behind)
      match first, last with
      | .char a, .char b =>
        if a ≤ b ∧ f.allows a ∧ f.allows b then some (.range a b, rest) else none
      | _, _ => none
  | _ => single

/-- What follows from one construct inside brackets. -/
inductive BracketStep
  /-- The class goes on: the innermost bracket, those around it, and the text that is left. -/
  | more (inner : Bracket) (outer : List Bracket) (rest : List Char)
  /-- The outermost bracket was closed. -/
  | closed (set : SizedSet) (rest : List Char)
deriving Repr, DecidableEq

/-- Reads the construct that begins with `c` inside the brackets `b` and, around it, `outer`. -/
def Bracket.step (f : Flags) (b : Bracket) (outer : List Bracket) (c : Char) (cs : List Char) :
    Option BracketStep :=
  if f.spaced && (Unicode.isWhiteSpace c || c == '#') then
    some (.more b outer (dropBlanks false (c :: cs)))
  else if c == '[' then
    match namedClass? cs with
    | some (set, negated, rest) => do
      let set ← f.negate? negated (f.foldCase set)
      some (.more (b.add ⟨set, 0⟩) outer rest)
    | none => do
      let (inner, rest) ← openBracket f cs
      some (.more inner (b :: outer) rest)
  else if c == ']' then do
    let set ← b.close? f
    match outer with
    | [] => some (.closed set cs)
    | o :: os => some (.more (o.add set) os cs)
  else if c == '&' && cs.head? == some '&' then some (.more (b.operate f .inter) outer cs.tail)
  else if c == '-' && cs.head? == some '-' then some (.more (b.operate f .diff) outer cs.tail)
  else if c == '~' && cs.head? == some '~' then some (.more (b.operate f .symmDiff) outer cs.tail)
  else do
    let (set, rest) ← readRange f (c :: cs)
    some (.more (b.add ⟨set, 0⟩) outer rest)

/-- Reads the text behind an opening bracket up to the bracket that closes it. `outer` are the
brackets around the innermost one, and the next `skip` characters have been read already. -/
def readBracket (f : Flags) (b : Bracket) (outer : List Bracket) :
    (skip : Nat) → List Char → Option (SizedSet × List Char)
  | _, [] => none
  | k + 1, _ :: cs => readBracket f b outer k cs
  | 0, c :: cs =>
    match b.step f outer c cs with
    | none => none
    | some (.closed set rest) => some (set, rest)
    | some (.more inner outer rest) => readBracket f inner outer (cs.length - rest.length) cs

/-- Reads a class in brackets. The text begins behind the opening one. -/
def readClass (f : Flags) (cs : List Char) : Option (SizedSet × List Char) := do
  let (b, rest) ← openBracket f cs
  readBracket f b [] 0 rest

/-! ## Steps of the reader -/

theorem readBracket_skip (f : Flags) (b : Bracket) (outer : List Bracket) (k : Nat)
    (cs : List Char) : readBracket f b outer k cs = readBracket f b outer 0 (cs.drop k) := by
  induction cs generalizing k with
  | nil => cases k <;> simp [readBracket]
  | cons c cs ih =>
    cases k with
    | zero => rfl
    | succ k => simp [readBracket, ih k]

/-- The reader goes on behind the construct that it has read. -/
theorem readBracket_more {f : Flags} {b b' : Bracket} {outer outer' : List Bracket} {c : Char}
    (read : List Char) {rest : List Char}
    (h : b.step f outer c (read ++ rest) = some (.more b' outer' rest)) :
    readBracket f b outer 0 (c :: (read ++ rest)) = readBracket f b' outer' 0 rest := by
  rw [readBracket, h]
  show readBracket f b' outer' ((read ++ rest).length - rest.length) (read ++ rest) = _
  rw [readBracket_skip]
  simp

/-- The reader stops behind the bracket that closes the class. -/
theorem readBracket_closed {f : Flags} {b : Bracket} {outer : List Bracket} {c : Char}
    {cs rest : List Char} {set : SizedSet} (h : b.step f outer c cs = some (.closed set rest)) :
    readBracket f b outer 0 (c :: cs) = some (set, rest) := by
  rw [readBracket, h]

end Signpost.Regex
