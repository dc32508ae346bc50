import Signpost.Unicode.Property
import Signpost.Unicode.CaseFold

/-!
# Character sets

The sets of characters that a pattern can describe, as expressions over ranges and properties.
A set is used through `contains` only.

Main facts: `contains_union`, `contains_inter`, `contains_compl`, by which the operations mean what
they are called, and `contains_fold_of_contains`, by which folding case loses nothing.
-/

namespace Signpost.Regex

inductive CharSet
  | none
  | single (c : Char)
  | range (first last : Char)
  | property (p : Unicode.Property)
  | union (s t : CharSet)
  | inter (s t : CharSet)
  | compl (s : CharSet)
  /-- The characters that are in `s` up to case. -/
  | fold (s : CharSet)
  /-- The characters that are in `s` up to the case of ASCII letters. -/
  | foldAscii (s : CharSet)
deriving Repr, DecidableEq

namespace CharSet

def contains : CharSet → Char → Bool
  | none, _ => false
  | single d, c => c == d
  | range a b, c => a ≤ c && c ≤ b
  | property p, c => p.has c
  | union s t, c => s.contains c || t.contains c
  | inter s t, c => s.contains c && t.contains c
  | compl s, c => !s.contains c
  | fold s, c => (Unicode.orbit c).any fun d => s.contains d
  | foldAscii s, c => s.contains c || s.contains c.toLower || s.contains c.toUpper

def all : CharSet := compl none

def diff (s t : CharSet) : CharSet := inter s (compl t)

def symmDiff (s t : CharSet) : CharSet := union (diff s t) (diff t s)

def ofList : List Char → CharSet
  | [] => none
  | [c] => single c
  | c :: cs => union (single c) (ofList cs)

@[simp] theorem contains_union (s t : CharSet) (c : Char) :
    (union s t).contains c = (s.contains c || t.contains c) := rfl

@[simp] theorem contains_inter (s t : CharSet) (c : Char) :
    (inter s t).contains c = (s.contains c && t.contains c) := rfl

@[simp] theorem contains_compl (s : CharSet) (c : Char) :
    (compl s).contains c = !s.contains c := rfl

theorem contains_fold_of_contains {s : CharSet} {c : Char} (h : s.contains c) :
    (fold s).contains c :=
  List.any_eq_true.2 ⟨c, Unicode.mem_orbit_self c, h⟩

end CharSet

end Signpost.Regex
