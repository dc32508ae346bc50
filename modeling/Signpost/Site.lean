import Signpost.Host

/-!
# Sites

Links as one site writes them. A `uri` is the path of a route, with the host in front if the route
leads to another one. A `url` is the same, but a local route gets the base of the site in front.
-/

namespace Signpost

structure Site where
  hosts : Hosts := {}
  baseUrl : String := "/"
  indexFile : String := ""
  siteHost : Option String := none
deriving Repr, DecidableEq

namespace Site

def ofOptions (o : Options) : Except OptionsError Site :=
  (Hosts.ofOptions o).map fun hosts => ⟨hosts, o.baseUrl, o.indexFile, o.siteHost⟩

def isExternal (s : Site) (r : Route) : Bool := s.hosts.isExternal r

def trimSlashes (text : String) : String := String.ofList (Text.trim '/' text.toList)

/-- What stands in front of every path on the site. -/
def basePath (s : Site) : String :=
  let base := trimSlashes s.baseUrl
  (if base = "" then "/" else "/" ++ base ++ "/") ++
    (if s.indexFile = "" then "" else trimSlashes s.indexFile ++ "/")

/-- What stands in front of every path on the site, from the protocol on if one is asked for. -/
def base (s : Site) (protocol : Option String) : Except LinkError String :=
  match protocol with
  | none => .ok s.basePath
  | some p =>
    match s.siteHost with
    | none => .error .siteHostUnavailable
    | some host => (s.hosts.absolute host (some p)).map (· ++ s.basePath)

/-- The path along a route, from the protocol on if the route leads to another host. -/
def uri (s : Site) (r : Route) (params : Params) (protocol : Option String) :
    Except LinkError String :=
  match r.buildPath params with
  | .error e => .error e
  | .ok path =>
    (s.hosts.resolve r params protocol).map fun
      | some start => start ++ "/" ++ path
      | none => path

def url (s : Site) (r : Route) (params : Params) (protocol : Option String) :
    Except LinkError String :=
  if s.isExternal r then s.uri r params protocol
  else
    match r.buildPath params with
    | .error e => .error e
    | .ok path => (s.base protocol).map (· ++ path)

end Site

end Signpost
