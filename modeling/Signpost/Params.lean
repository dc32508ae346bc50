import Signpost.Dict

/-!
# Parameters

The parameters of a route by name. The same type holds what a match found, what a path is built
from, and the defaults of a route.
-/

namespace Signpost

/-- Values by the names of their parameters. -/
abbrev Params := Dict String

namespace Params

/-- The name of the parameter that tells what to do. -/
def actionKey : String := "action"

/-- The name of the parameter that makes a route lead to another host. -/
def hostKey : String := "host"

/-- The defaults that every new route starts from. -/
def seeded (action : String) : Params := Dict.insert ∅ actionKey action

/-- The host among some defaults. A route without one is local. -/
def host? (defaults : Params) : Option String := defaults.get? hostKey

end Params

end Signpost
