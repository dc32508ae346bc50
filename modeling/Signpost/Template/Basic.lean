import Signpost.Dict

/-!
# Route templates

A template is a sequence of parts: literal text, placeholders for parameters, and groups that can
be left out. A sequence is built from its first part and the rest, and a group holds a sequence.
-/

namespace Signpost

/-- The parts of a route template, in order. -/
inductive Template
  | empty
  | literal (text : String) (rest : Template)
  /-- A placeholder, with the byte offset of its opening bracket in the text of the template. -/
  | placeholder (name : String) (position : Nat) (rest : Template)
  /-- A sequence of parts that can be left out. -/
  | group (body rest : Template)
deriving Repr, DecidableEq, Inhabited

namespace Template

/-- The names and positions of the placeholders, in order. -/
def placeholders : Template → List (String × Nat)
  | empty => []
  | literal _ rest => rest.placeholders
  | placeholder name position rest => (name, position) :: rest.placeholders
  | group body rest => body.placeholders ++ rest.placeholders

def names (t : Template) : List String := t.placeholders.map (·.1)

theorem names_group (body rest : Template) :
    (group body rest).names = body.names ++ rest.names := List.map_append

/-- The names of the placeholders outside all groups, in order. -/
def outerNames : Template → List String
  | empty => []
  | literal _ rest => rest.outerNames
  | placeholder name _ rest => name :: rest.outerNames
  | group _ rest => rest.outerNames

/-- The names of the parameters that every path has: those of the placeholders outside all groups,
in ascending order. -/
def required (t : Template) : List String :=
  (Dict.ofList (t.outerNames.map fun n => (n, ()))).keys

theorem mem_required {t : Template} {n : String} : n ∈ t.required ↔ n ∈ t.outerNames := by
  simp [required, Dict.mem_keys, Dict.contains_ofList]

def isEmpty : Template → Bool
  | empty => true
  | _ => false

def hasPlaceholders (t : Template) : Bool := !t.placeholders.isEmpty

/-- Puts a character in front: in front of the literal text if the template begins with some. -/
def consChar (c : Char) : Template → Template
  | literal text rest => literal (String.ofList (c :: text.toList)) rest
  | t => literal (String.singleton c) t

end Template

end Signpost
