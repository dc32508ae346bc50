import Signpost.Method
import Signpost.Options
import Signpost.Params

/-!
# Routes

A route is a compiled template with default values for its parameters, and filters that a match has
to pass. A filter sees the route without its filters: a filter is a function, and one that took the
list of filters would have to take itself.
-/

namespace Signpost

/-- What is asked for: a path and a method. -/
structure Request where
  path : String
  method : Method
deriving Repr, DecidableEq

/-- A route without its filters, which is what a filter sees of its route. -/
structure Plan where
  compiled : Template.Compiled
  /-- The patterns that were given for placeholders, whether the template has them or not. -/
  overrides : Dict String
  defaults : Params

/-- What a filter does with the parameters of a match. -/
inductive Outcome
  | keep
  | replace (params : Params)
  | reject
deriving DecidableEq

/-- A test or change of the parameters of a match, known by its id. -/
structure Filter where
  id : String
  apply : Plan → Params → Request → Outcome

structure Route extends Plan where
  filters : List Filter

namespace Route

def template (r : Route) : String := r.compiled.text

/-- The text of the pattern that paths are matched with. -/
def source (r : Route) : String := r.compiled.source

def patterns (r : Route) : Dict String := r.compiled.patterns

def required (r : Route) : List String := r.compiled.required

def names (r : Route) : List String := r.compiled.template.names

def filterIds (r : Route) : List String := r.filters.map (·.id)

/-- A new route, by the settings of a site. -/
def compileWith (text : String) (overrides : Dict String) (options : Options) :
    Except TemplateError Route :=
  match Template.compile text overrides options.defaultSegment with
  | .error e => .error e
  | .ok compiled => .ok ⟨⟨compiled, overrides, Params.seeded options.defaultAction⟩, []⟩

/-- A new route has no filters. -/
theorem filters_of_compileWith {text : String} {overrides : Dict String} {options : Options}
    {r : Route} (h : compileWith text overrides options = .ok r) : r.filters = [] := by
  unfold compileWith at h
  split at h
  · cases h
  · cases h
    rfl

/-- A new route, by the settings that hold without others. -/
def compile (text : String) (overrides : Dict String) : Except TemplateError Route :=
  compileWith text overrides {}

/-- Lays further defaults over those of a route; a later one wins. -/
def withDefaults (r : Route) (pairs : List (String × String)) : Route :=
  { r with defaults := r.defaults.insertAll pairs }

def withFilter (r : Route) (f : Filter) : Route := { r with filters := r.filters ++ [f] }

end Route

end Signpost
