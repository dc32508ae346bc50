import Signpost.Regex.CharSet

/-!
# Patterns

The tree of a pattern. Counted repetitions are written out, and groups that have no name leave no
trace, so few constructors remain. Which of several ways to match is preferred is part of a tree's
meaning: alternatives in order, and more or fewer repetitions first.
-/

namespace Signpost

namespace Regex

/-- Where in relation to a word a place is. -/
inductive WordEdge
  | boundary
  | inside
  | start
  | stop
  | startHalf
  | stopHalf
deriving Repr, DecidableEq

/-- A test of a place, which consumes nothing. -/
inductive Look
  | textStart
  | textEnd
  /-- Behind a line feed or, when carriage returns end lines too, behind one of those. -/
  | lineStart (crlf : Bool)
  | lineEnd (crlf : Bool)
  /-- At an edge of a word, with the words of all scripts or those of ASCII. -/
  | word (edge : WordEdge) (unicode : Bool)
deriving Repr, DecidableEq

end Regex

inductive Regex
  /-- Matches without consuming. -/
  | empty
  /-- Matches one character of a set. -/
  | chars (set : Regex.CharSet)
  | look (test : Regex.Look)
  /-- Matches as the body and remembers the text under a name. -/
  | named (name : String) (body : Regex)
  | seq (first second : Regex)
  /-- Tries `first`, and `second` when that fails or what follows it does. -/
  | alt (first second : Regex)
  /-- Matches the body once or more: as often as possible if `greedy`, else as rarely. -/
  | plus (greedy : Bool) (body : Regex)
deriving Repr, DecidableEq

namespace Regex

def char (c : Char) : Regex := chars (.single c)

def opt (greedy : Bool) (body : Regex) : Regex :=
  if greedy then alt body empty else alt empty body

def star (greedy : Bool) (body : Regex) : Regex := opt greedy (plus greedy body)

def power (body : Regex) : Nat → Regex
  | 0 => empty
  | 1 => body
  | n + 2 => seq (power body (n + 1)) body

def upTo (greedy : Bool) (body : Regex) : Nat → Regex
  | 0 => empty
  | 1 => opt greedy body
  | n + 2 => opt greedy (seq body (upTo greedy body (n + 1)))

def atLeast (greedy : Bool) (body : Regex) : Nat → Regex
  | 0 => star greedy body
  | 1 => plus greedy body
  | n + 2 => seq (power body (n + 1)) (plus greedy body)

/-- Matches the body at least `least` times and at most `most` times. -/
def between (greedy : Bool) (body : Regex) (least most : Nat) : Regex :=
  if least = most then power body least
  else if least = 0 then upTo greedy body most
  else seq (power body least) (upTo greedy body (most - least))

def size : Regex → Nat
  | empty => 1
  | chars _ => 1
  | look _ => 1
  | named _ r => r.size + 1
  | seq r s => r.size + s.size + 1
  | alt r s => r.size + s.size + 1
  | plus _ r => r.size + 1

def names : Regex → List String
  | empty => []
  | chars _ => []
  | look _ => []
  | named n r => n :: r.names
  | seq r s => r.names ++ s.names
  | alt r s => r.names ++ s.names
  | plus _ r => r.names

end Regex

end Signpost
