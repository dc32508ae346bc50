import Signpost.Path
import Signpost.Regex.Search
import Signpost.Route.Basic

/-!
# Matching a path

A path matches a route if the pattern of the route finds a match in it and no filter refuses that.
The parameters are what the placeholders matched, over the defaults of the route.

Main fact: `applyFilters_append`, by which a list of filters can be cut anywhere.
-/

namespace Signpost.Route

/-- What the placeholders matched. A placeholder that had no part in the match has no value, and one
that matched nothing leaves its value to a default if there is one. -/
def captured (r : Route) (m : Regex.Match) : Params :=
  .ofList <| r.names.filterMap fun name =>
    match m.group? name with
    | none => none
    | some text =>
      if text.isEmpty && r.defaults.contains name then none else some (name, String.ofList text)

/-- Runs filters one after the other, each on the parameters that the one before left. -/
def applyFilters (plan : Plan) (request : Request) : List Filter → Params → Option Params
  | [], params => some params
  | f :: fs, params =>
    match f.apply plan params request with
    | .keep => applyFilters plan request fs params
    | .replace next => applyFilters plan request fs next
    | .reject => none

/-- The match of a path before any filter. -/
def find? (r : Route) (path : String) : Option Regex.Match :=
  r.compiled.regex.search? (Path.trim path.toList)

/-- The parameters of a path, or `none` if the route does not match it. Filters see the path as it
was given. -/
def match? (r : Route) (path : String) (method : Method) : Option Params :=
  match r.find? path with
  | none => none
  | some m =>
    applyFilters r.toPlan ⟨path, method⟩ r.filters (r.defaults.overlay (r.captured m))

theorem applyFilters_append (plan : Plan) (request : Request) (fs gs : List Filter)
    (params : Params) :
    applyFilters plan request (fs ++ gs) params =
      (applyFilters plan request fs params).bind (applyFilters plan request gs) := by
  induction fs generalizing params with
  | nil => rfl
  | cons f fs ih =>
    simp only [List.cons_append, applyFilters]
    split
    · exact ih _
    · exact ih _
    · rfl

end Signpost.Route
