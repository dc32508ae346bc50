import Signpost.Route.Build

/-!
# Why a call to a registry fails
-/

namespace Signpost

/-- A store that did not do what it was asked for. -/
structure StoreError where
  key : String
  reason : String
deriving Repr, DecidableEq

def StoreError.message (e : StoreError) : String :=
  s!"cache store failed for key '{e.key}': {e.reason}"

/-- Why a call to a registry fails. -/
inductive RegistryError
  | duplicateName (name : String)
  | routeNotFound (name : String)
  | unknownFilter (route filter : String)
  | store (error : StoreError)
  | template (error : TemplateError)
  | link (error : LinkError)
  | options (error : OptionsError)
deriving Repr, DecidableEq

def RegistryError.message : RegistryError → String
  | duplicateName name => s!"a route named '{name}' is already registered"
  | routeNotFound name => s!"the requested route does not exist: {name}"
  | unknownFilter route filter => s!"route '{route}' references unknown filter '{filter}'"
  | store e => e.message
  | template e => e.message
  | link e => e.message
  | options e => e.message

end Signpost
