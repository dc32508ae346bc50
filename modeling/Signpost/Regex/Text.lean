import Signpost.Regex.Parser

/-!
# Patterns as text

Reading a pattern from a string, and the texts that larger patterns are put together from.

Main fact: `quote_append`, characters are quoted one by one.
-/

namespace Signpost.Regex

/-- The tree of a pattern, or `none` if the text is no pattern. -/
def ofString? (s : String) : Option Regex := parse? s.toList

/-- The text of a pattern that is to match a whole text. -/
def anchor (pattern : String) : String := "^(?:" ++ pattern ++ ")$"

/-- Whether a text is a pattern when it stands in parentheses. -/
def isPattern (pattern : String) : Bool := (ofString? (anchor pattern)).isSome

/-- The text of a pattern that matches just some characters. -/
def quote (cs : List Char) : List Char := cs.flatMap fun c => if isMeta c then ['\\', c] else [c]

theorem quote_append (cs ds : List Char) : quote (cs ++ ds) = quote cs ++ quote ds :=
  List.flatMap_append

end Signpost.Regex
