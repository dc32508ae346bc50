import Signpost.Registry.Metrics
import Signpost.Registry.Snapshot
import Signpost.Registry.Table
import Signpost.Route.Match
import Signpost.Site

/-!
# Registries

A registry holds the routes of a site by name. Routes are registered one by one, or loaded from
a snapshot of all. A call that fails leaves the registry as it was.
-/

namespace Signpost

/-- The routes of a site by name. -/
structure Registry where
  /-- Tells the registry from all others. -/
  owner : Nat
  table : Table := ∅
  /-- The filters of every route that was registered, and further ones. -/
  catalog : Catalog := ∅
  metrics : Metrics := {}
  options : Options := {}
  site : Site := {}
  /-- The number of the next handle. -/
  next : Nat := 0

namespace Registry

/-! ## New registries -/

/-- The registry of a site with some settings, which have to be in order. -/
def new (owner : Nat) (options : Options) : Except RegistryError Registry :=
  match options.validate with
  | .error e => .error (.options e)
  | .ok () =>
    match Site.ofOptions options with
    | .error e => .error (.options e)
    | .ok site => .ok { owner, options, site }

/-- The registry of a site with the settings that hold without others. -/
def default (owner : Nat) : Registry := { owner }

def compile (r : Registry) (text : String) (overrides : Dict String) :
    Except TemplateError Route :=
  Route.compileWith text overrides r.options

/-! ## Routes -/

def byName? (r : Registry) (name : String) : Option Entry := r.table.get? name

def contains (r : Registry) (name : String) : Bool := r.table.contains name

/-- The route under a name, which has to be there. -/
def get (r : Registry) (name : String) : Except RegistryError Route :=
  match r.byName? name with
  | some e => .ok e.route
  | none => .error (.routeNotFound name)

/-- The name under which just this route is registered. -/
def nameOf? (r : Registry) (h : Handle) : Option String := r.table.nameOf? h

def size (r : Registry) : Nat := r.table.size

def isEmpty (r : Registry) : Bool := r.table.isEmpty

/-- Puts a route into the table under a new handle. -/
def put (r : Registry) (name : String) (route : Route) : Registry :=
  { r with table := r.table.insert ⟨name, ⟨r.owner, r.next⟩, route⟩, next := r.next + 1 }

/-- Registers a route under a name, and its filters under their ids. -/
def register (r : Registry) (name : String) (route : Route) :
    Except RegistryError (Registry × Handle) :=
  if r.contains name && r.options.duplicatePolicy == .reject then .error (.duplicateName name)
  else
    let metrics := r.metrics.recordInsert
    .ok ({ r.put name route with
        catalog := r.catalog.registerAll route.filters
        metrics := if r.contains name then metrics.recordReplace else metrics },
      ⟨r.owner, r.next⟩)

/-- Adds a filter for stored routes. -/
def registerFilter (r : Registry) (f : Filter) : Registry :=
  { r with catalog := r.catalog.register f }

/-- The first route that matches a path, with the parameters, where the table is iterated in
order. -/
def scan? (r : Registry) (path : String) (method : Method) : Option (String × Params) :=
  r.table.entries.findSome? fun e => (e.route.match? path method).map (e.name, ·)

/-! ## Links -/

/-- Whether the route under a name leads away from the site. -/
def isExternal (r : Registry) (name : String) : Except RegistryError Bool :=
  (r.get name).map r.site.isExternal

def uri (r : Registry) (name : String) (params : Params) : Except RegistryError String :=
  match r.get name with
  | .error e => .error e
  | .ok route => (r.site.uri route params none).mapError .link

def url (r : Registry) (name : String) (params : Params) (protocol : Option String) :
    Except RegistryError String :=
  match r.get name with
  | .error e => .error e
  | .ok route => (r.site.url route params protocol).mapError .link

/-! ## Snapshots -/

def snapshot (r : Registry) : Snapshot :=
  .ofRoutes (r.table.entries.map fun e => .ofRoute e.name e.route)

def save (r : Registry) : Registry × ByteArray :=
  ({ r with metrics := r.metrics.recordSave }, r.snapshot.encode)

/-- Rebuilds stored routes in order, up to the first one that fails. -/
def rebuildAll (options : Options) (catalog : Catalog) :
    List RouteSource → Except RegistryError (List (String × Route))
  | [] => .ok []
  | s :: ss =>
    match s.rebuild options catalog with
    | .error e => .error e
    | .ok route => (rebuildAll options catalog ss).map ((s.name, route) :: ·)

/-- Puts a route into the table unless its name is there. -/
def putNew (r : Registry) (name : String) (route : Route) : Registry :=
  if r.contains name then r else r.put name route

/-- Puts rebuilt routes into the table: behind those that are there if `append`, else in place of
them all. -/
def restore (r : Registry) (append : Bool) (routes : List (String × Route)) : Registry :=
  if append then routes.foldl (fun r p => r.putNew p.1 p.2) r
  else routes.foldl (fun r p => r.put p.1 p.2) { r with table := ∅ }

/-- Loads a snapshot, if there is one; tells whether it could be read. -/
def load (r : Registry) (blob : Option ByteArray) (append : Bool) :
    Registry × Except RegistryError Bool :=
  match blob with
  | none => (r, .ok false)
  | some bytes =>
    match Snapshot.decode? bytes with
    | none => ({ r with metrics := r.metrics.recordReject }, .ok false)
    | some snapshot =>
      match rebuildAll r.options r.catalog snapshot.routes with
      | .error e => (r, .error e)
      | .ok routes =>
        ({ r.restore append routes with metrics := r.metrics.recordLoad }, .ok true)

end Registry

end Signpost
