import Signpost.Path
import Signpost.Percent
import Signpost.Route.Basic

/-!
# Building a path

The path of a route for given parameters. A group is part of the path only if something in it was
given a value that differs from its default; everything around such a value is needed then.
-/

namespace Signpost

inductive LinkError
  | missingParameter (param template : String)
  | untrustedHost (host : String)
  | siteHostUnavailable
deriving Repr, DecidableEq

def LinkError.message : LinkError → String
  | missingParameter param template =>
    s!"required route parameter '{param}' not passed for template '{template}'"
  | untrustedHost host => s!"host '{host}' is not trusted"
  | siteHostUnavailable => "a protocol was requested but no site host is configured"

/-- The text that a sequence of parts makes. -/
structure Draft where
  text : String
  /-- Whether some value differs from its default. -/
  specified : Bool
  /-- The first placeholder of the sequence itself that has no value. -/
  missing : Option String
deriving Repr, DecidableEq

namespace Draft

/-- Accepts a draft unless it is needed and misses a value; tells the name of that. -/
def settle (needed : Bool) (d : Draft) : Except String Draft :=
  if needed || d.specified then
    match d.missing with
    | some name => .error name
    | none => .ok d
  else .ok d

/-- Puts the value of a placeholder in front. -/
def consValue (d : Draft) (text : String) (specified : Bool) : Draft :=
  { d with text := text ++ d.text, specified := specified || d.specified }

end Draft

namespace Template

/-- The text of a sequence of parts, or the name of the value that is missing from a group that is
needed. -/
def draft (defaults params : Params) : Template → Except String Draft
  | empty => .ok ⟨"", false, none⟩
  | literal text rest => do return (← rest.draft defaults params).consValue text false
  | placeholder name _ rest => do
    let d ← rest.draft defaults params
    match params.get? name, defaults.get? name with
    | some value, default => return d.consValue (Percent.encode value) (default != some value)
    | none, some default => return d.consValue default false
    | none, none => return { d with missing := some name }
  | group body rest => do
    let inner ← (← body.draft defaults params).settle false
    let d ← rest.draft defaults params
    return if inner.specified then d.consValue inner.text true else d

end Template

namespace Route

def buildPath (r : Route) (params : Params) : Except LinkError String :=
  match (r.compiled.template.draft r.defaults params).bind (·.settle true) with
  | .ok d => .ok (Path.tidy d.text)
  | .error name => .error (.missingParameter name r.template)

end Route

end Signpost
