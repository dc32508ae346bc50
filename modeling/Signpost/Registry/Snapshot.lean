import Signpost.Json.Decode
import Signpost.Json.Writer
import Signpost.Registry.Catalog
import Signpost.Registry.Error

/-!
# Snapshots

What is stored of a registry: for each route what it can be compiled from again, never the
pattern. A snapshot is written as JSON, and one of another version is not read.

Main fact: `rebuild_template`, a rebuilt route has the template that was stored.
-/

namespace Signpost

/-- What a route can be rebuilt from. -/
structure RouteSource where
  name : String
  template : String
  overrides : Dict String
  /-- The pattern that each placeholder was compiled with. -/
  patterns : Dict String
  defaults : Params
  filters : List String
deriving DecidableEq

namespace RouteSource

/-- What is stored of a route. -/
def ofRoute (name : String) (r : Route) : RouteSource :=
  ⟨name, r.template, r.overrides, r.patterns, r.defaults, r.filterIds⟩

/-- The filters with some ids, in order. The first id that the catalog lacks is reported. -/
def attach (route : String) (catalog : Catalog) : List String → Except RegistryError (List Filter)
  | [] => .ok []
  | id :: ids =>
    match catalog.get? id with
    | none => .error (.unknownFilter route id)
    | some f => (attach route catalog ids).map (f :: ·)

/-- Compiles a route again. The stored patterns win over the overrides, so that the settings at hand
do not matter for them, and the stored defaults are all that the route has. -/
def rebuild (s : RouteSource) (options : Options) (catalog : Catalog) :
    Except RegistryError Route :=
  match Template.compile s.template (s.overrides.overlay s.patterns) options.defaultSegment with
  | .error e => .error (.template e)
  | .ok compiled =>
    (attach s.name catalog s.filters).map fun filters =>
      ⟨⟨compiled, s.overrides, s.defaults⟩, filters⟩

def fieldNames : List String :=
  ["name", "template", "overrides", "param_patterns", "defaults", "filters"]

def toJson (s : RouteSource) : Json :=
  .object (fieldNames.zip [.string s.name, .string s.template, .ofDict s.overrides,
    .ofDict s.patterns, .ofDict s.defaults, .ofStrings s.filters])

/-- What a value stands for. All but the name and the template may be missing, and are empty
then. -/
def ofJson? (j : Json) : Option RouteSource := do
  match ← j.asRecord? fieldNames 2 with
  | [name, template, overrides, patterns, defaults, filters] =>
    return {
      name := ← Json.field? Json.asString? name
      template := ← Json.field? Json.asString? template
      overrides := ← Json.fieldD? Json.asDict? ∅ overrides
      patterns := ← Json.fieldD? Json.asDict? ∅ patterns
      defaults := ← Json.fieldD? Json.asDict? ∅ defaults
      filters := ← Json.fieldD? Json.asStrings? [] filters }
  | _ => none

theorem rebuild_template {s : RouteSource} {options : Options} {catalog : Catalog} {r : Route}
    (h : s.rebuild options catalog = .ok r) : r.template = s.template := by
  unfold rebuild at h
  split at h
  · cases h
  · rename_i c hc
    cases ha : attach s.name catalog s.filters with
    | error e => simp [ha, Except.map] at h
    | ok fs =>
      simp only [ha, Except.map, Except.ok.injEq] at h
      subst h
      exact Template.compile_text hc

end RouteSource

/-- The routes of a registry, as they are stored. -/
structure Snapshot where
  version : Nat
  routes : List RouteSource
deriving DecidableEq

namespace Snapshot

/-- The version that is written and read. -/
def currentVersion : Nat := 1

/-- A snapshot of the version that is read. -/
def ofRoutes (routes : List RouteSource) : Snapshot := ⟨currentVersion, routes⟩

def fieldNames : List String := ["version", "routes"]

def toJson (s : Snapshot) : Json :=
  .object (fieldNames.zip [.ofNat s.version, .array (s.routes.map RouteSource.toJson)])

def encode (s : Snapshot) : ByteArray := s.toJson.toText.toUTF8

/-- The version that a value is: a number of 32 bits. -/
def version? (j : Json) : Option Nat := j.asNat?.filter (· < 0x100000000)

def ofJson? (j : Json) : Option Snapshot := do
  match ← j.asRecord? fieldNames 2 with
  | [version, routes] =>
    return {
      version := ← Json.field? version? version
      routes := ← Json.field? (Json.asList? RouteSource.ofJson?) routes }
  | _ => none

/-- The snapshot that is stored in some bytes, if it has the version that is read. -/
def decode? (bytes : ByteArray) : Option Snapshot :=
  ((Json.ofBytes? bytes).bind ofJson?).filter (·.version == currentVersion)

end Snapshot

end Signpost
