/-!
# Why a template is refused

A template is refused because of its text or because of the patterns of its placeholders. Positions
are byte offsets in the text.
-/

namespace Signpost

namespace Template

inductive Fault
  | unterminatedGroup (start : Nat)
  | unexpectedClosingParenthesis (index : Nat)
  | emptyGroup (start : Nat)
  | placeholderMissingName (start : Nat)
  | placeholderInvalidStart (name : String) (start : Nat) (found : Char)
  | placeholderInvalidCharacter (name : String) (start : Nat) (invalid : Char)
  | duplicatePlaceholder (name : String) (start : Nat)
  | loneEscapeCharacter (index : Nat)
  /-- The pattern of a placeholder is no pattern. -/
  | invalidRegex (name : String)
  /-- Every placeholder has a pattern, but together they make none. -/
  | invalidPattern
deriving Repr, DecidableEq

end Template

/-- Stands in messages for the reason why a pattern is none. Patterns are read without a reason being
kept, so a fault names the placeholder whose pattern it is, but no place in that pattern. -/
def patternFault : String := "<regex error>"

/-- A template that was refused, and why. -/
structure TemplateError where
  template : String
  fault : Template.Fault
deriving Repr, DecidableEq

def TemplateError.message (e : TemplateError) : String :=
  let template := e.template
  match e.fault with
  | .unterminatedGroup start =>
    s!"group opened at byte {start} in template '{template}' is never closed"
  | .unexpectedClosingParenthesis index =>
    s!"unexpected ')' at byte {index} in template '{template}'"
  | .emptyGroup start => s!"empty group at byte {start} in template '{template}'"
  | .placeholderMissingName start =>
    s!"placeholder at byte {start} in template '{template}' is missing a name"
  | .placeholderInvalidStart name start found =>
    s!"placeholder '{name}' at byte {start} in template '{template}' must start with an " ++
      s!"alphabetic character or underscore (found '{found}')"
  | .placeholderInvalidCharacter name start invalid =>
    s!"placeholder '{name}' at byte {start} in template '{template}' contains invalid " ++
      s!"character '{invalid}'"
  | .duplicatePlaceholder name start =>
    s!"placeholder '{name}' appears twice in template '{template}' (second at byte {start})"
  | .loneEscapeCharacter index =>
    s!"lone escape character at byte {index} in template '{template}'"
  | .invalidRegex name =>
    s!"pattern for placeholder '{name}' in template '{template}' is invalid: {patternFault}"
  | .invalidPattern =>
    s!"compiled pattern for template '{template}' is invalid: {patternFault}"

end Signpost
