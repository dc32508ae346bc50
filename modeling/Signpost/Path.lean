import Signpost.Text

/-!
# Paths

The path of a request is matched without the slashes at its ends. A path that was put together from
parts is tidied: empty segments are left out.

Main facts: `squeeze_cons_of_ne`, nothing but slashes is left out, and the two equations for a
slash.
-/

namespace Signpost.Path

def trim (path : List Char) : List Char := Text.trim '/' path

/-- Leaves out every slash behind another one. `afterSlash` says whether one came before the text. -/
def squeeze : (afterSlash : Bool) → List Char → List Char
  | _, [] => []
  | afterSlash, c :: cs =>
    if c = '/' then
      if afterSlash then squeeze true cs else c :: squeeze true cs
    else c :: squeeze false cs

/-- Whether two slashes stand next to each other. The bytes of the path are looked through. -/
def hasRun (path : String) : Bool :=
  Text.occurs "//".toUTF8.data.toList path.toUTF8.data.toList

/-- A path without empty segments. Without a run of slashes in it trimming is enough. -/
def tidy (path : String) : String :=
  let trimmed := trim path.toList
  if hasRun (String.ofList trimmed) then String.ofList (squeeze false trimmed)
  else String.ofList trimmed

@[simp] theorem squeeze_nil (afterSlash : Bool) : squeeze afterSlash [] = [] := rfl

@[simp] theorem squeeze_true_slash (cs : List Char) :
    squeeze true ('/' :: cs) = squeeze true cs := rfl

@[simp] theorem squeeze_false_slash (cs : List Char) :
    squeeze false ('/' :: cs) = '/' :: squeeze true cs := rfl

theorem squeeze_cons_of_ne {c : Char} (h : c ≠ '/') (afterSlash : Bool) (cs : List Char) :
    squeeze afterSlash (c :: cs) = c :: squeeze false cs := by
  rw [squeeze, if_neg h]

end Signpost.Path
