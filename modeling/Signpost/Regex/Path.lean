import Signpost.Regex.Basic

/-!
# The ways a pattern can match

`paths r p` lists the ways in which `r` can match from a place `p` of a text, in order of
preference. The first one is the one that counts, and the first one from which the rest of a larger
pattern can go on.

A repetition ends when a further round would consume nothing. A round that consumes nothing is
allowed as the first round only, since the body has to match once.

Main facts: `paths_seq`, `paths_alt`, and the equations `paths_opt`, `paths_star`.
-/

namespace Signpost.Regex

/-- A place in a text: the character before it, if any, and the text after it. -/
structure Place where
  before : Option Char
  after : List Char
deriving Repr, DecidableEq

/-- The part of a text that a named group matched. -/
structure Capture where
  name : String
  start : Place
  stop : Place
deriving Repr, DecidableEq

/-- The text of a part: what stands behind its start but not behind its stop. -/
def Capture.text (c : Capture) : List Char :=
  c.start.after.take (c.start.after.length - c.stop.after.length)

/-- A way in which a pattern matches: where it stops, and what the named groups matched on the
way, in order. -/
structure Path where
  stop : Place
  groups : List Capture
deriving Repr, DecidableEq

def Path.andThen (x y : Path) : Path := ⟨y.stop, x.groups ++ y.groups⟩

/-- Remembers what lies between a place and the end of a path as the match of a group. -/
def Path.capture (name : String) (start : Place) (x : Path) : Path :=
  ⟨x.stop, x.groups ++ [⟨name, start, x.stop⟩]⟩

def Place.wordBefore (isWord : Char → Bool) (p : Place) : Bool := p.before.any isWord

def Place.wordAfter (isWord : Char → Bool) (p : Place) : Bool := p.after.head?.any isWord

def WordEdge.holds (isWord : Char → Bool) (p : Place) : WordEdge → Bool
  | boundary => p.wordBefore isWord != p.wordAfter isWord
  | inside => p.wordBefore isWord == p.wordAfter isWord
  | start => !p.wordBefore isWord && p.wordAfter isWord
  | stop => p.wordBefore isWord && !p.wordAfter isWord
  | startHalf => !p.wordBefore isWord
  | stopHalf => !p.wordAfter isWord

/-- Whether a place passes a test. A carriage return and the line feed behind it are one line end,
so no line starts or ends between them. -/
def Look.holds (p : Place) : Look → Bool
  | textStart => p.before.isNone
  | textEnd => p.after.isEmpty
  | lineStart false => p.before.isNone || p.before == some '\n'
  | lineEnd false => p.after.isEmpty || p.after.head? == some '\n'
  | lineStart true =>
    p.before.isNone || p.before == some '\n' ||
      (p.before == some '\r' && p.after.head? != some '\n')
  | lineEnd true =>
    p.after.isEmpty || p.after.head? == some '\r' ||
      (p.after.head? == some '\n' && p.before != some '\r')
  | word edge true => edge.holds Unicode.isWord p
  | word edge false => edge.holds Unicode.isAsciiWord p

/-- Puts the paths that go on behind `x` in front of it if `greedy`, else behind it. -/
def weave (greedy : Bool) (x : Path) (further : List Path) : List Path :=
  if greedy then further ++ [x] else x :: further

/-- The paths of one or more further rounds of `body`, each of which consumes something. There are
no more rounds than `rounds`. -/
def rounds (body : Place → List Path) (greedy : Bool) : (rounds : Nat) → Place → List Path
  | 0, _ => []
  | n + 1, p =>
    (body p).flatMap fun x =>
      if x.stop.after.length < p.after.length then
        weave greedy x ((rounds body greedy n x.stop).map x.andThen)
      else []

/-- The ways in which a pattern matches from a place, the preferred ones first. -/
def paths : Regex → Place → List Path
  | empty, p => [⟨p, []⟩]
  | chars s, p =>
    match p.after with
    | [] => []
    | c :: cs => if s.contains c then [⟨⟨some c, cs⟩, []⟩] else []
  | look l, p => if l.holds p then [⟨p, []⟩] else []
  | named n r, p => (paths r p).map (Path.capture n p)
  | seq r s, p => (paths r p).flatMap fun x => (paths s x.stop).map x.andThen
  | alt r s, p => paths r p ++ paths s p
  | plus greedy r, p =>
    (paths r p).flatMap fun x =>
      if x.stop.after.length < p.after.length then
        weave greedy x ((rounds (paths r) greedy p.after.length x.stop).map x.andThen)
      else [x]

/-- The places of a text behind a character, from left to right. -/
def places (before : Option Char) : List Char → List Place
  | [] => [⟨before, []⟩]
  | c :: cs => ⟨before, c :: cs⟩ :: places (some c) cs

/-! ## Equations -/

@[simp] theorem paths_empty (p : Place) : paths empty p = [⟨p, []⟩] := rfl

theorem paths_seq (r s : Regex) (p : Place) :
    paths (seq r s) p = (paths r p).flatMap fun x => (paths s x.stop).map x.andThen := rfl

theorem paths_alt (r s : Regex) (p : Place) : paths (alt r s) p = paths r p ++ paths s p := rfl

/-- An optional body is tried before nothing if `greedy`, else behind it. -/
theorem paths_opt (greedy : Bool) (r : Regex) (p : Place) :
    paths (opt greedy r) p = weave greedy ⟨p, []⟩ (paths r p) := by
  cases greedy <;> rfl

theorem paths_star (greedy : Bool) (r : Regex) (p : Place) :
    paths (star greedy r) p = weave greedy ⟨p, []⟩ (paths (plus greedy r) p) :=
  paths_opt ..

end Signpost.Regex
