import Signpost.Template.Basic
import Signpost.Template.Error

/-!
# Reading templates

In the text of a template, parentheses enclose a group, angle brackets enclose the name of a
placeholder, and a backslash makes the next character literal. An opening angle bracket that no
closing one follows before the next bracket of any kind is literal too.

The reader goes from left to right and reports the first fault it meets. It gives back the rest of
the innermost group, followed by the rests of the sequences around it.

Main facts: `names_nodup`, no template that is read has two placeholders of one name.
-/

namespace Signpost.Template

/-- The name that an opening angle bracket encloses: the characters up to a closing one, if no
other bracket comes first. -/
def enclosedName? : List Char → Option (List Char)
  | [] => none
  | c :: cs =>
    if c = '>' then some []
    else if c = '<' ∨ c = '(' ∨ c = ')' then none
    else (enclosedName? cs).map (c :: ·)

/-- Whether a name may begin with a character. -/
def isNameStart (c : Char) : Bool := c.isAlpha || c == '_'

def isNamePart (c : Char) : Bool := c.isAlphanum || c == '_'

/-- What is wrong with the name of a placeholder. -/
def nameFault? (start : Nat) : List Char → Option Fault
  | [] => some (.placeholderMissingName start)
  | c :: cs =>
    if isNameStart c then
      (cs.find? (!isNamePart ·)).map
        (.placeholderInvalidCharacter (String.ofList (c :: cs)) start ·)
    else some (.placeholderInvalidStart (String.ofList (c :: cs)) start c)

/-- Applies a function to the rest of the innermost sequence. -/
def onFirst (f : Template → Template) : List Template → List Template
  | [] => []
  | t :: ts => f t :: ts

/-- Makes the innermost sequence a group of the one around it. -/
def enclose : List Template → List Template
  | body :: rest :: outer => group body rest :: outer
  | ts => ts

/-- Reads the text from byte `position` on. The groups that are open started at `opened`, the
innermost one first, and the next `skip` characters have been read already. -/
def read (opened : List Nat) (position : Nat) :
    (skip : Nat) → List Char → Except Fault (List Template)
  | _, [] =>
    match opened with
    | [] => .ok [empty]
    | start :: _ => .error (.unterminatedGroup start)
  | k + 1, c :: cs => read opened (position + c.utf8Size) k cs
  | 0, c :: cs =>
    let next := position + c.utf8Size
    if c = '(' then
      if cs.head? = some ')' then .error (.emptyGroup position)
      else (read (position :: opened) next 0 cs).map enclose
    else if c = ')' then
      match opened with
      | [] => .error (.unexpectedClosingParenthesis position)
      | _ :: outer => (read outer next 0 cs).map (empty :: ·)
    else if c = '\\' then
      match cs with
      | [] => .error (.loneEscapeCharacter position)
      | d :: _ => (read opened next 1 cs).map (onFirst (consChar d))
    else
      match if c = '<' then enclosedName? cs else none with
      | some name =>
        match nameFault? position name with
        | some fault => .error fault
        | none =>
          (read opened next (name.length + 1) cs).map
            (onFirst (placeholder (String.ofList name) position))
      | none => (read opened next 0 cs).map (onFirst (consChar c))

/-- The first placeholder whose name has been seen before. -/
def duplicate? (seen : List String) : List (String × Nat) → Option (String × Nat)
  | [] => none
  | p :: ps => if seen.contains p.1 then some p else duplicate? (p.1 :: seen) ps

def parse (text : String) : Except TemplateError Template :=
  match read [] 0 0 text.toList with
  | .error fault => .error ⟨text, fault⟩
  | .ok sequences =>
    let t := sequences.headD empty
    match duplicate? [] t.placeholders with
    | some (name, start) => .error ⟨text, .duplicatePlaceholder name start⟩
    | none => .ok t

/-! ## Distinct names -/

theorem nodup_of_duplicate?_eq_none {seen : List String} {ps : List (String × Nat)}
    (h : duplicate? seen ps = none) :
    (ps.map (·.1)).Nodup ∧ ∀ n ∈ ps.map (·.1), n ∉ seen := by
  induction ps generalizing seen with
  | nil => simp
  | cons p ps ih =>
    rw [duplicate?] at h
    split at h
    · cases h
    · rename_i hp
      obtain ⟨hnd, hseen⟩ := ih h
      refine ⟨List.nodup_cons.2 ⟨fun hm => (hseen _ hm) List.mem_cons_self, hnd⟩, fun n hn => ?_⟩
      rcases List.mem_cons.1 hn with rfl | hn
      · simpa using hp
      · exact fun hs => hseen n hn (List.mem_cons_of_mem _ hs)

/-- The placeholders of a template that was read have distinct names. -/
theorem names_nodup {text : String} {t : Template} (h : parse text = .ok t) : t.names.Nodup := by
  unfold parse at h
  split at h
  · cases h
  · dsimp only at h
    split at h
    · cases h
    · rename_i hd
      cases h
      exact (nodup_of_duplicate?_eq_none hd).1

end Signpost.Template
