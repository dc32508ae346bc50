import Mathlib.Data.List.Forall2
import Signpost.Proofs.Registry.Codec
import Signpost.Registry.Store

/-!
# Restored registries

Loading what another registry saved gives its routes back. A stored route names the pattern of each
of its placeholders, so that compiling it again makes the same pattern under whatever settings; its
defaults are stored, so those of the settings play no part; and its filters come from the catalog,
by their ids. A rebuilt route is therefore `Alike` the one that was stored, and routes that are
alike are stored alike: what a restored registry saves is what it was restored from.

The names in a table are different, so the rebuilt routes go into an empty table one behind the
other, in the order in which they were stored (`pairs_foldl_put`).
-/

namespace Signpost

/-! ## Rebuilt routes -/

namespace Route

/-- Routes with the same plan, whose filters have the same ids. -/
structure Alike (r s : Route) : Prop where
  plan : r.toPlan = s.toPlan
  filterIds : r.filterIds = s.filterIds

/-- A route with the filters that a catalog has under the ids of its own. -/
def attached (r : Route) (catalog : Catalog) : Route :=
  { r with filters := r.filterIds.filterMap catalog.get? }

end Route

namespace RouteSource

section
variable {catalog : Catalog} {ids : List String} (h : ∀ id ∈ ids, catalog.contains id = true)
include h

theorem attach_eq_ok (route : String) :
    attach route catalog ids = .ok (ids.filterMap catalog.get?) := by
  induction ids with
  | nil => rfl
  | cons id ids ih =>
    obtain ⟨hid, hids⟩ := List.forall_mem_cons.1 h
    obtain ⟨f, hf⟩ := Dict.contains_iff.1 hid
    have hget : catalog.get? id = some f := hf
    rw [attach, hget, ih hids, List.filterMap_cons_some hget]
    rfl

theorem map_id_filterMap_get? : (ids.filterMap catalog.get?).map (·.id) = ids := by
  induction ids with
  | nil => rfl
  | cons id ids ih =>
    obtain ⟨hid, hids⟩ := List.forall_mem_cons.1 h
    obtain ⟨f, hf⟩ := Dict.contains_iff.1 hid
    have hget : catalog.get? id = some f := hf
    rw [List.filterMap_cons_some hget, List.map_cons, ih hids, Catalog.id_of_get? hget]

end

section
variable {r : Route} {catalog : Catalog} (h : ∀ id ∈ r.filterIds, catalog.contains id = true)
include h

theorem alike_attached : (r.attached catalog).Alike r := ⟨rfl, map_id_filterMap_get? h⟩

/-- What is stored of a route is rebuilt to that route with the filters of the catalog, if the catalog
has them. -/
theorem rebuild_ofRoute (name : String) (options : Options) :
    (ofRoute name r).rebuild options catalog = .ok (r.attached catalog) := by
  have hcompiled : Template.compile (ofRoute name r).template
      ((ofRoute name r).overrides.overlay (ofRoute name r).patterns) options.defaultSegment =
        .ok r.compiled := Template.compile_overlay r.compiled r.overrides options.defaultSegment
  have hattach : attach (ofRoute name r).name catalog (ofRoute name r).filters =
      .ok (r.filterIds.filterMap catalog.get?) := attach_eq_ok h name
  rw [rebuild, hcompiled, hattach]
  rfl

end

/-- Of routes that are alike the same is stored. -/
theorem ofRoute_congr {r s : Route} (h : r.Alike s) (name : String) :
    ofRoute name r = ofRoute name s := by
  have hplan := h.plan
  simp [ofRoute, Route.template, Route.patterns, hplan, h.filterIds]

end RouteSource

/-! ## Tables -/

namespace Table

/-- The routes of a table under their names. -/
def pairs (t : Table) : List (String × Route) := t.entries.map fun e => (e.name, e.route)

theorem names_eq_map_pairs (t : Table) : t.names = t.pairs.map (·.1) := by
  simp [names, pairs]

/-- Lists whose elements agree pair by pair have the same images. -/
theorem map_eq_map_of_forall₂ {α β γ : Type} {f : α → γ} {g : β → γ} {as : List α} {bs : List β}
    (h : List.Forall₂ (fun a b => f a = g b) as bs) : as.map f = bs.map g := by
  rw [← List.forall₂_eq_eq_eq, List.forall₂_map_left_iff, List.forall₂_map_right_iff]
  exact h

end Table

namespace Registry

/-- A route with a new name comes behind those that are there. -/
theorem pairs_put {r : Registry} {name : String} (h : name ∉ r.table.pairs.map (·.1))
    (route : Route) : (r.put name route).table.pairs = r.table.pairs ++ [(name, route)] := by
  rw [← Table.names_eq_map_pairs] at h
  show (r.table.insert ⟨name, ⟨r.owner, r.next⟩, route⟩).entries.map _ = _
  rw [Table.entries_insert_of_not_contains fun hc => h (Table.contains_iff.1 hc), List.map_append]
  rfl

/-- Routes with new and different names come behind those that are there, in order. -/
theorem pairs_foldl_put {r : Registry} {routes : List (String × Route)}
    (h : ((r.table.pairs ++ routes).map (·.1)).Nodup) :
    (routes.foldl (fun r p => r.put p.1 p.2) r).table.pairs = r.table.pairs ++ routes := by
  induction routes generalizing r with
  | nil => simp
  | cons p routes ih =>
    have hmove : r.table.pairs ++ p :: routes = r.table.pairs ++ [p] ++ routes := by simp
    have hnew : p.1 ∉ r.table.pairs.map (·.1) := by
      intro hmem
      rw [List.map_append, List.map_cons] at h
      exact (List.nodup_append.1 h).2.2 _ hmem _ List.mem_cons_self rfl
    have hput := pairs_put hnew p.2
    rw [List.foldl_cons, ih, hput, hmove]
    rw [hput]
    exact hmove ▸ h

/-- Stored routes are rebuilt in order, with the filters of the catalog. -/
theorem rebuildAll_ofRoute {catalog : Catalog} {entries : List Entry} (options : Options)
    (h : ∀ e ∈ entries, ∀ id ∈ e.route.filterIds, catalog.contains id = true) :
    rebuildAll options catalog (entries.map fun e => .ofRoute e.name e.route) =
      .ok (entries.map fun e => (e.name, e.route.attached catalog)) := by
  induction entries with
  | nil => rfl
  | cons e entries ih =>
    obtain ⟨he, hentries⟩ := List.forall_mem_cons.1 h
    rw [List.map_cons, rebuildAll, RouteSource.rebuild_ofRoute he, ih hentries]
    rfl

end Registry

/-! ## What a load brings back -/

/-- What a restored entry has in common with the one that was saved. -/
structure Entry.Restores (e saved : Entry) : Prop where
  name : e.name = saved.name
  template : e.route.template = saved.route.template
  source : e.route.source = saved.route.source
  required : e.route.required = saved.route.required
  patterns : e.route.patterns = saved.route.patterns
  overrides : e.route.overrides = saved.route.overrides
  defaults : e.route.defaults = saved.route.defaults
  filterIds : e.route.filterIds = saved.route.filterIds

theorem Entry.restores_of_alike {e saved : Entry} (hname : e.name = saved.name)
    (h : e.route.Alike saved.route) : e.Restores saved := by
  have hplan := h.plan
  constructor <;> simp [Route.template, Route.source, Route.required, Route.patterns, hname, hplan,
    h.filterIds]

namespace Registry

/-- What is true of a load that brings back the routes of a registry: its answer, the names in
order, each route, and the bytes that are then saved. -/
structure IsRestoredBy (saved : Registry) (loaded : Registry × Except RegistryError Bool) : Prop where
  answer : loaded.2 = .ok true
  names : loaded.1.table.names = saved.table.names
  entries : List.Forall₂ Entry.Restores loaded.1.table.entries saved.table.entries
  bytes : loaded.1.save.2 = saved.save.2

theorem bytes_save (r : Registry) : r.save.2 = r.snapshot.encode := by
  simp only [save]

theorem decode?_save (r : Registry) : Snapshot.decode? r.save.2 = some r.snapshot := by
  have hbits : r.snapshot.version < 0x100000000 := by
    show 1 < 0x100000000
    omega
  rw [bytes_save, Snapshot.decode?_bytes, if_pos hbits, Option.filter_some]
  exact if_pos rfl

/-- Registries with the same names over routes that are alike have one snapshot. -/
theorem snapshot_congr {r s : Registry}
    (h : List.Forall₂ (fun e f => e.name = f.name ∧ e.route.Alike f.route) r.table.entries
      s.table.entries) : r.snapshot = s.snapshot := by
  have hstored : r.table.entries.map (fun e => RouteSource.ofRoute e.name e.route) =
      s.table.entries.map fun e => RouteSource.ofRoute e.name e.route :=
    Table.map_eq_map_of_forall₂ <| h.imp fun e f hef => by
      rw [hef.1, RouteSource.ofRoute_congr hef.2]
  rw [snapshot, snapshot, hstored]

section
variable {saved r : Registry}
  (hcatalog : ∀ e ∈ saved.table.entries, ∀ id ∈ e.route.filterIds,
    r.catalog.contains id = true)
include hcatalog

/-- What a registry saved is loaded into any other one that knows its filters, in either way. -/
theorem load_save (append : Bool) :
    r.load (some saved.save.2) append =
      ({ r.restore append (saved.table.entries.map fun e => (e.name, e.route.attached r.catalog))
          with metrics := r.metrics.recordLoad }, .ok true) := by
  have hrebuild : rebuildAll r.options r.catalog saved.snapshot.routes = .ok _ :=
    rebuildAll_ofRoute r.options hcatalog
  simp only [load, decode?_save, hrebuild]

/-- What was saved is all that there is after a load that does not append. -/
theorem pairs_load_save :
    (r.load (some saved.save.2) false).1.table.pairs =
      saved.table.entries.map fun e => (e.name, e.route.attached r.catalog) := by
  have hnodup : ((({ r with table := ∅ } : Registry).table.pairs ++
      saved.table.entries.map fun e => (e.name, e.route.attached r.catalog)).map (·.1)).Nodup := by
    show ((saved.table.entries.map fun e => (e.name, e.route.attached r.catalog)).map (·.1)).Nodup
    rw [List.map_map]
    exact saved.table.names_nodup
  rw [load_save hcatalog]
  exact pairs_foldl_put hnodup

theorem isRestoredBy_load : saved.IsRestoredBy (r.load (some saved.save.2) false) := by
  have hpairs := pairs_load_save hcatalog
  have hentries : List.Forall₂ (fun e f => e.name = f.name ∧ e.route.Alike f.route)
      (r.load (some saved.save.2) false).1.table.entries saved.table.entries := by
    rw [← List.forall₂_eq_eq_eq, Table.pairs, List.forall₂_map_left_iff,
      List.forall₂_map_right_iff] at hpairs
    refine ((List.forall₂_and_left _ _).2 ⟨hcatalog, hpairs.flip⟩).flip.imp fun e f h => ?_
    obtain ⟨hname, hroute⟩ := Prod.mk.inj h.2
    exact ⟨hname, hroute ▸ RouteSource.alike_attached h.1⟩
  refine ⟨?_, ?_, ?_, ?_⟩
  · rw [load_save hcatalog]
  · rw [Table.names_eq_map_pairs, hpairs, List.map_map]
    rfl
  · exact hentries.imp fun _ _ h => Entry.restores_of_alike h.1 h.2
  · exact (bytes_save _).trans
      ((congrArg Snapshot.encode (snapshot_congr hentries)).trans (bytes_save saved).symm)

end

end Registry

/-! ## Through a store -/

namespace MemoryStore

/-- What can be done to a store. -/
inductive Change
  | save (key : String) (bytes : ByteArray)
  | remove (key : String)

namespace Change

def key : Change → String
  | save key _ => key
  | remove key => key

def apply (s : MemoryStore) : Change → MemoryStore
  | save key bytes => s.save key bytes
  | remove key => s.remove key

theorem load_apply {c : Change} {key : String} (h : c.key ≠ key) (s : MemoryStore) :
    (c.apply s).load key = s.load key := by
  cases c with
  | save k bytes => exact (load_save s k key bytes).trans (if_neg (Ne.symm h))
  | remove k => exact (load_remove s k key).trans (if_neg (Ne.symm h))

end Change

/-- A store after some changes, one after the other. -/
def change (s : MemoryStore) (changes : List Change) : MemoryStore := changes.foldl Change.apply s

theorem load_change {changes : List Change} {key : String} (h : ∀ c ∈ changes, c.key ≠ key)
    (s : MemoryStore) : (s.change changes).load key = s.load key := by
  induction changes generalizing s with
  | nil => rfl
  | cons c changes ih =>
    obtain ⟨hc, hchanges⟩ := List.forall_mem_cons.1 h
    exact (ih hchanges (c.apply s)).trans (Change.load_apply hc s)

end MemoryStore

namespace Registry

theorem saveCache_memory (r : Registry) (store : MemoryStore) :
    (r.saveCache store).2 = .ok (store.save cacheKey r.save.2) := by
  simp only [saveCache, Store.save, Except.mapError]

theorem loadCache_memory (r : Registry) (store : MemoryStore) (append : Bool) :
    r.loadCache store append = r.load (store.load cacheKey) append := by
  simp only [loadCache, Store.load]

/-- A store keeps what a registry saved in it, whatever is done to it under other keys. -/
theorem loadCache_change (saved r : Registry) (store : MemoryStore)
    {changes : List MemoryStore.Change} (h : ∀ c ∈ changes, c.key ≠ cacheKey) (append : Bool) :
    ∃ kept : MemoryStore, (saved.saveCache store).2 = .ok kept ∧
      r.loadCache (kept.change changes) append = r.load (some saved.save.2) append := by
  refine ⟨store.save cacheKey saved.save.2, saveCache_memory saved store, ?_⟩
  rw [loadCache_memory, MemoryStore.load_change h, MemoryStore.load_save, if_pos rfl]

/-- What a registry saved is brought back by any registry that knows the filters of its routes,
whatever the settings of that one are, at once or from a store in which other things were kept and
dropped since. -/
theorem load_restores (saved r : Registry)
    (hcatalog : ∀ e ∈ saved.table.entries, ∀ id ∈ e.route.filterIds,
      r.catalog.contains id = true) :
    saved.IsRestoredBy (r.load (some saved.save.2) false) ∧
    ∀ (store : MemoryStore) (changes : List MemoryStore.Change),
      (∀ c ∈ changes, c.key ≠ cacheKey) →
      ∃ kept : MemoryStore, (saved.saveCache store).2 = .ok kept ∧
        saved.IsRestoredBy (r.loadCache (kept.change changes) false) := by
  refine ⟨isRestoredBy_load hcatalog, fun store changes hchanges => ?_⟩
  obtain ⟨kept, hkept, hload⟩ := loadCache_change saved r store hchanges false
  exact ⟨kept, hkept, hload ▸ isRestoredBy_load hcatalog⟩

/-- A route with a pattern of its own and a filter comes back under other settings. -/
theorem load_restores_posts :
    ∃ route : Route,
      Route.compile "posts(/<page>)" (Dict.ofList [("page", "[0-9]+"), ("old", "x")]) =
        .ok route ∧
      let audit : Filter := ⟨"audit", fun _ _ _ => .keep⟩
      let saved := (default 0).put "posts" (route.withFilter audit)
      let r : Registry :=
        { owner := 1, catalog := Catalog.empty.register audit,
          options := { defaultAction := "home", defaultSegment := "[a-z]+" } }
      saved.table.names = ["posts"] ∧ saved.IsRestoredBy (r.load (some saved.save.2) false) ∧
      ∃ kept : MemoryStore, (saved.saveCache ({} : MemoryStore)).2 = .ok kept ∧
        saved.IsRestoredBy
          (r.loadCache (kept.change [.save "other" ⟨#[1]⟩, .remove "other"]) false) := by
  have hok : (Route.compile "posts(/<page>)" (Dict.ofList [("page", "[0-9]+"), ("old", "x")])).isOk =
      true := by decide +kernel
  cases hc : Route.compile "posts(/<page>)" (Dict.ofList [("page", "[0-9]+"), ("old", "x")]) with
  | error e => simp [hc, Except.isOk, Except.toBool] at hok
  | ok route =>
    refine ⟨route, rfl, ?_⟩
    intro audit saved r
    have hfilters : route.filters = [] := by
      unfold Route.compile Route.compileWith at hc
      split at hc
      · cases hc
      · cases hc
        rfl
    have hcatalog : ∀ e ∈ saved.table.entries, ∀ id ∈ e.route.filterIds,
        r.catalog.contains id = true := by
      intro e he id hid
      obtain rfl := List.mem_singleton.1 he
      have hids : id ∈ (route.withFilter audit).filterIds := hid
      rw [Route.filterIds, Route.withFilter, hfilters] at hids
      obtain rfl := List.mem_singleton.1 hids
      decide
    have hchanges : ∀ c ∈ [MemoryStore.Change.save "other" ⟨#[1]⟩, .remove "other"],
        c.key ≠ cacheKey := by
      intro c hc
      rcases List.mem_cons.1 hc with rfl | hc
      · decide
      · obtain rfl := List.mem_singleton.1 hc
        decide
    obtain ⟨hload, hstore⟩ := load_restores saved r hcatalog
    exact ⟨rfl, hload, hstore {} _ hchanges⟩

end Registry

end Signpost
