import Signpost.Regex.Bracket

/-!
# Reading patterns

The text of a pattern is read once, from left to right. What is still open is kept on a stack:
a group waits with the alternatives that were read before it. A text that is no pattern has no
tree; why it is none is not told.

Main fact: `parseFrom_cons`, which takes the reader one construct further.
-/

namespace Signpost.Regex

/-- A part of a pattern with the depth of its description: repetitions, groups, brackets,
alternatives and sequences of two or more parts each add one. -/
structure Piece where
  regex : Regex
  depth : Nat
  /-- Whether the piece can be repeated. A change of flags cannot. -/
  repeatable : Bool := true
deriving Repr, DecidableEq

/-- The greatest depth a pattern may have. -/
def depthLimit : Nat := 250

/-- The number of nodes that a counted repetition may be written out to. It stands for a limit of ten
megabytes on the compiled pattern and is only near to it: the size of a compiled pattern depends on
its character sets too, so `\w{1000}` is within this limit and beyond the other. -/
def sizeLimit : Nat := 250000

/-- Joins pieces, of which the last one comes first. -/
def joinWith (f : Regex → Regex → Regex) : List Piece → Regex
  | [] => .empty
  | [p] => p.regex
  | p :: ps => f (joinWith f ps) p.regex

/-- The piece that two or more pieces make together; a single piece stays as it is. -/
def combine (f : Regex → Regex → Regex) (ps : List Piece) : Piece :=
  let depth := ps.foldl (fun d p => max d p.depth) 0
  ⟨joinWith f ps, if 2 ≤ ps.length then depth + 1 else depth, true⟩

structure Branches where
  /-- The finished ones, the last one first. -/
  finished : List Piece := []
  /-- The pieces of the current one, the last one first. -/
  pieces : List Piece := []
deriving Repr, DecidableEq

namespace Branches

def push (b : Branches) (p : Piece) : Branches := { b with pieces := p :: b.pieces }

def split (b : Branches) : Branches := { finished := combine .seq b.pieces :: b.finished }

def close (b : Branches) : Piece := combine .alt b.split.finished

end Branches

/-- A group that is still open. -/
structure OpenGroup where
  name : Option String
  /-- What was read around the group before it. -/
  outer : Branches
  /-- The flags that come back behind the group. -/
  flags : Flags
deriving Repr, DecidableEq

/-- How far a pattern has been read. -/
structure Reading where
  flags : Flags := {}
  branches : Branches := {}
  groups : List OpenGroup := []
  names : List String := []
deriving Repr, DecidableEq

namespace Reading

def push (st : Reading) (p : Piece) : Reading := { st with branches := st.branches.push p }

/-- Adds a set of characters, which is part of no larger set. -/
def pushSet (st : Reading) (s : CharSet) : Reading := st.push ⟨.chars s, 0, true⟩

def pushChar (st : Reading) (c : Char) : Reading := st.pushSet (st.flags.foldCase (.single c))

def pushLook (st : Reading) (l : Look) : Reading := st.push ⟨.look l, 0, true⟩

/-- Opens a group. A name must be new. -/
def openGroup (st : Reading) (name : Option String) (flags : Flags) : Option Reading :=
  let group : OpenGroup := ⟨name, st.branches, st.flags⟩
  let opened := { st with flags, branches := {}, groups := group :: st.groups }
  match name with
  | none => some opened
  | some n => if st.names.contains n then none else some { opened with names := n :: st.names }

def closeGroup (st : Reading) : Option Reading :=
  match st.groups with
  | [] => none
  | g :: gs =>
    let body := st.branches.close
    let regex := match g.name with
      | none => body.regex
      | some n => .named n body.regex
    let closed := { st with flags := g.flags, branches := g.outer, groups := gs }
    some (closed.push ⟨regex, body.depth + 1, true⟩)

def repeatLast (st : Reading) (f : Regex → Option Regex) : Option Reading :=
  match st.branches.pieces with
  | [] => none
  | p :: ps =>
    if p.repeatable then do
      let regex ← f p.regex
      some { st with
        branches := { st.branches with pieces := ⟨regex, p.depth + 1, true⟩ :: ps } }
    else none

/-- The pattern that was read, if nothing is open and it is not too deep. -/
def finish (st : Reading) : Option Regex :=
  match st.groups with
  | [] =>
    let all := st.branches.close
    if all.depth ≤ depthLimit then some all.regex else none
  | _ :: _ => none

end Reading

/-! ## Repetitions -/

/-- Reads the mark that turns a greedy repetition into a lazy one. -/
def readGreed (f : Flags) : List Char → Bool × List Char
  | '?' :: cs => (f.swapGreed, cs)
  | cs => (!f.swapGreed, cs)

/-- Leaves out white space, and what else does not count behind the first blank. -/
def skipSpaces (f : Flags) (cs : List Char) : List Char :=
  go 0 cs
where
  go : (skip : Nat) → List Char → List Char
    | _, [] => []
    | k + 1, _ :: cs => go k cs
    | 0, c :: cs =>
      if Unicode.isWhiteSpace c then go (cs.length - (f.skip cs).length) cs else c :: cs

/-- Reads decimal digits, and blanks between them where those do not count. -/
def readDigits (f : Flags) (value : Option Nat) : (skip : Nat) → List Char → Option Nat × List Char
  | _, [] => (value, [])
  | k + 1, _ :: cs => readDigits f value k cs
  | 0, c :: cs =>
    if c.isDigit then
      readDigits f (some (10 * value.getD 0 + (c.toNat - '0'.toNat)))
        (cs.length - (f.skip cs).length) cs
    else (value, c :: cs)

/-- Reads a number with white space around it. Numbers of more than 32 bits are refused. -/
def readNumber (f : Flags) (cs : List Char) : Option (Option Nat) × List Char :=
  let (value, rest) := readDigits f none 0 (cs.dropWhile Unicode.isWhiteSpace)
  (match value with
    | some n => if n < 0x100000000 then some (some n) else none
    | none => some none,
   skipSpaces f rest)

/-- The bounds of a repetition: how often at least, and how often at most. -/
structure Bounds where
  least : Nat
  most : Option Nat
deriving Repr, DecidableEq

/-- Reads the bounds of a counted repetition. The text begins behind the opening brace. -/
def readBounds (f : Flags) (cs : List Char) : Option (Bounds × List Char) := do
  let (least, cs) := readNumber f (f.skip cs)
  let least ← (← least)
  match cs with
  | '\x7d' :: rest => some (⟨least, some least⟩, rest)
  | ',' :: cs =>
    match f.skip cs with
    | '\x7d' :: rest => some (⟨least, none⟩, rest)
    | cs => do
      let (most, cs) := readNumber f cs
      let most ← (← most)
      match cs with
      | '\x7d' :: rest => if least ≤ most then some (⟨least, some most⟩, rest) else none
      | _ => none
  | _ => none

/-- Writes a counted repetition out, unless that makes it larger than `sizeLimit`. -/
def Bounds.apply (b : Bounds) (greedy : Bool) (r : Regex) : Option Regex :=
  if sizeLimit < (b.most.getD b.least) * r.size then none
  else
    match b.most with
    | none => some (.atLeast greedy r b.least)
    | some most => some (.between greedy r b.least most)

/-! ## Groups -/

def isFlagLetter (c : Char) : Bool := ['i', 'm', 's', 'U', 'u', 'R', 'x'].contains c

def Flags.set (f : Flags) (value : Bool) : Char → Flags
  | 'i' => { f with ignoreCase := value }
  | 'm' => { f with multiLine := value }
  | 's' => { f with dotAll := value }
  | 'U' => { f with swapGreed := value }
  | 'u' => { f with unicode := value }
  | 'R' => { f with crlf := value }
  | 'x' => { f with spaced := value }
  | _ => f

/-- Whether some characters are a change of flags: letters to set, and behind a hyphen letters to
clear, none of them twice. -/
def isFlagChange (cs : List Char) : Bool :=
  cs.all (fun c => isFlagLetter c || c == '-') && decide cs.Nodup && cs.getLast? != some '-'

def Flags.change (f : Flags) (cs : List Char) : Flags :=
  let f := (cs.takeWhile (· != '-')).foldl (fun f c => f.set true c) f
  (cs.dropWhile (· != '-')).foldl (fun f c => f.set false c) f

inductive GroupHead
  /-- No group, but a change of flags for the rest of the group around it. -/
  | flags (f : Flags)
  | plain (f : Flags)
  | named (name : List Char)
deriving Repr, DecidableEq

def isNameStart (c : Char) : Bool := c == '_' || Unicode.isAlphabetic c

def isNamePart (c : Char) : Bool :=
  c == '_' || c == '.' || c == '[' || c == ']' || Unicode.isAlphanumeric c

def isGroupName : List Char → Bool
  | [] => false
  | c :: cs => isNameStart c && cs.all isNamePart

/-- Reads the name of a group up to the closing angle bracket. -/
def readGroupName (cs : List Char) : Option (GroupHead × List Char) :=
  let name := cs.takeWhile (· != '>')
  match cs.dropWhile (· != '>') with
  | '>' :: rest => if isGroupName name then some (.named name, rest) else none
  | _ => none

/-- Reads how a group begins. The text begins behind the opening parenthesis. Tests of the text
ahead or behind are no part of patterns. -/
def readGroupHead (f : Flags) (cs : List Char) : Option (GroupHead × List Char) :=
  match f.skip cs with
  | '?' :: '=' :: _ => none
  | '?' :: '!' :: _ => none
  | '?' :: '<' :: '=' :: _ => none
  | '?' :: '<' :: '!' :: _ => none
  | '?' :: 'P' :: '<' :: rest => readGroupName rest
  | '?' :: '<' :: rest => readGroupName rest
  | '?' :: cs =>
    let letters := cs.takeWhile fun c => c != ':' && c != ')'
    if isFlagChange letters then
      match cs.dropWhile fun c => c != ':' && c != ')' with
      | ':' :: rest => some (.plain (f.change letters), rest)
      | ')' :: rest => if letters.isEmpty then none else some (.flags (f.change letters), rest)
      | _ => none
    else none
  | rest => some (.plain f, rest)

/-! ## The reader -/

/-- The characters that a dot stands for. Without Unicode they would be bytes. -/
def Flags.dot? (f : Flags) : Option CharSet :=
  if !f.unicode then none
  else if f.dotAll then some .all
  else if f.crlf then some (.compl (.ofList ['\r', '\n']))
  else some (.compl (.single '\n'))

def Flags.caret (f : Flags) : Look := if f.multiLine then .lineStart f.crlf else .textStart

def Flags.dollar (f : Flags) : Look := if f.multiLine then .lineEnd f.crlf else .textEnd

namespace Reading

/-- Repeats the last piece as often as some bounds say, and reads whether greedily. -/
def readRepetition (st : Reading) (f : Bool → Regex → Option Regex) (cs : List Char) :
    Option (Reading × List Char) := do
  let (greedy, rest) := readGreed st.flags cs
  some (← st.repeatLast (f greedy), rest)

/-- Adds what an escape or a bracket stands for. -/
def pushAtom (st : Reading) : Atom → Reading
  | .char c => st.pushChar c
  | .set s => st.pushSet s
  | .look l => st.pushLook l

/-- Reads the construct that begins with `c`, and gives back the rest of the text. -/
def step (st : Reading) (c : Char) (cs : List Char) : Option (Reading × List Char) :=
  if st.flags.spaced && (Unicode.isWhiteSpace c || c == '#') then
    some (st, dropBlanks false (c :: cs))
  else
    match c with
    | '(' => do
      let (head, rest) ← readGroupHead st.flags cs
      match head with
      | .flags f => some ({ st with flags := f }.push ⟨.empty, 0, false⟩, rest)
      | .plain f => some (← st.openGroup none f, rest)
      | .named n => some (← st.openGroup (some (String.ofList n)) st.flags, rest)
    | ')' => do some (← st.closeGroup, cs)
    | '|' => some ({ st with branches := st.branches.split }, cs)
    | '[' => do
      let (s, rest) ← readClass st.flags cs
      some (st.push ⟨.chars s.set, s.depth, true⟩, rest)
    | '?' => st.readRepetition (fun greedy r => some (.opt greedy r)) cs
    | '*' => st.readRepetition (fun greedy r => some (.star greedy r)) cs
    | '+' => st.readRepetition (fun greedy r => some (.plus greedy r)) cs
    | '\x7b' => do
      let (bounds, rest) ← readBounds st.flags cs
      st.readRepetition bounds.apply (st.flags.skip rest)
    | '\\' => do
      let (atom, rest) ← readEscape st.flags cs
      some (st.pushAtom atom, rest)
    | '.' => do some (st.pushSet (← st.flags.dot?), cs)
    | '^' => some (st.pushLook st.flags.caret, cs)
    | '$' => some (st.pushLook st.flags.dollar, cs)
    | c => some (st.pushChar c, cs)

end Reading

/-- Goes on reading, but for the next `skip` characters, which have been read already. -/
def parseFrom (st : Reading) : (skip : Nat) → List Char → Option Regex
  | _, [] => st.finish
  | k + 1, _ :: cs => parseFrom st k cs
  | 0, c :: cs =>
    match st.step c cs with
    | none => none
    | some (st, rest) => parseFrom st (cs.length - rest.length) cs

/-- The tree of a pattern, or `none` if the text is no pattern. -/
def parse? (cs : List Char) : Option Regex := parseFrom {} 0 cs

/-! ## Steps of the reader -/

theorem parseFrom_skip (st : Reading) (k : Nat) (cs : List Char) :
    parseFrom st k cs = parseFrom st 0 (cs.drop k) := by
  induction cs generalizing k with
  | nil => cases k <;> simp [parseFrom]
  | cons c cs ih =>
    cases k with
    | zero => rfl
    | succ k => simp [parseFrom, ih k]

/-- The reader goes on behind the construct that it has read. -/
theorem parseFrom_cons {st st' : Reading} {c : Char} (read : List Char) {rest : List Char}
    (h : st.step c (read ++ rest) = some (st', rest)) :
    parseFrom st 0 (c :: (read ++ rest)) = parseFrom st' 0 rest := by
  rw [parseFrom, h]
  show parseFrom st' ((read ++ rest).length - rest.length) (read ++ rest) = _
  rw [parseFrom_skip]
  simp

end Signpost.Regex
