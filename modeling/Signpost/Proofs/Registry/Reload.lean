import Signpost.Proofs.Registry.Coverage

/-!
# Matching after a reload

A registry that loads what it has just saved has the same routes under the same names, with the filters
of its catalog. Of all the filters that were ever added under an id the catalog has the last one
(`get?_catalog_of_run`). So a route matches after the reload as it would with the latest filters under
the ids of its own, and as before if these are the filters that it has (`match?_reload`). A filter
that was overtaken by a later one under its id is lost (`match?_reload_overtaken`).
-/

namespace Signpost

/-! ## The latest filters -/

namespace Route

/-- A route with the latest one of some filters in place of each filter with its id. -/
def withLatest (r : Route) (fs : List Filter) : Route :=
  { r with filters := r.filterIds.filterMap (Catalog.latest? fs) }

/-- A route whose filters are the latest ones has just these. -/
theorem withLatest_eq_self {r : Route} {fs : List Filter}
    (h : ∀ f ∈ r.filters, Catalog.latest? fs f.id = some f) : r.withLatest fs = r := by
  have hfilters : ∀ gs : List Filter, (∀ f ∈ gs, Catalog.latest? fs f.id = some f) →
      (gs.map (·.id)).filterMap (Catalog.latest? fs) = gs := by
    intro gs hgs
    induction gs with
    | nil => rfl
    | cons g gs ih =>
      obtain ⟨hg, hgs⟩ := List.forall_mem_cons.1 hgs
      rw [List.map_cons, List.filterMap_cons_some hg, ih hgs]
  rw [withLatest, filterIds, hfilters r.filters h]

theorem attached_eq_withLatest {catalog : Catalog} {fs : List Filter}
    (h : ∀ id, catalog.get? id = Catalog.latest? fs id) (r : Route) :
    r.attached catalog = r.withLatest fs := by
  rw [attached, withLatest, funext h]

end Route

namespace Table

/-- A look-up finds the route of the first pair with the name. -/
theorem map_get?_eq_find?_pairs (t : Table) (name : String) :
    (t.get? name).map (fun e => (e.name, e.route)) = t.pairs.find? (·.1 == name) := by
  rw [get?_eq_find?, pairs, List.find?_map]
  rfl

end Table

namespace Registry

/-- A route that is looked up after a reload has the filters of the catalog. -/
theorem byName?_reload {r : Registry} (hr : r.Covers) {name : String} {e : Entry}
    (he : r.byName? name = some e) :
    ∃ e', (r.save.1.load (some r.save.2) false).1.byName? name = some e' ∧
      e'.route = e.route.attached r.catalog := by
  have hsaved : ∀ e ∈ r.table.entries, ∀ id ∈ e.route.filterIds,
      r.save.1.catalog.contains id = true := hr
  have hfind : ((r.save.1.load (some r.save.2) false).1.table.get? name).map
      (fun e => (e.name, e.route)) = some (e.name, e.route.attached r.catalog) := by
    have hget : r.table.entries.find? (·.name == name) = some e :=
      (Table.get?_eq_find? r.table name).symm.trans he
    rw [Table.map_get?_eq_find?_pairs, pairs_load_save hsaved, List.find?_map]
    show (r.table.entries.find? (·.name == name)).map _ = _
    rw [hget]
    rfl
  obtain ⟨e', he', hpair⟩ := Option.map_eq_some_iff.1 hfind
  exact ⟨e', he', (Prod.mk.inj hpair).2⟩

variable {σ : Type u} [Store σ]

/-- Of the filters that were added under an id during a run, the catalog has the last one. -/
theorem get?_catalog_of_run {owner : Nat} {options : Options} {r : Registry}
    (hnew : new owner options = .ok r) (calls : List (Call σ)) (id : String) :
    (r.runAll calls).catalog.get? id = Catalog.latest? (r.offered calls) id := by
  rw [catalog_runAll, Catalog.get?_registerAll, (empty_of_new hnew).2]
  exact Option.or_none

/-- Whatever calls led to a registry, a route matches after a reload as it would with the latest filters
under the ids of its own, and as before if these are the filters that it has. -/
theorem match?_reload {owner : Nat} {options : Options} {r₀ : Registry}
    (hnew : new owner options = .ok r₀) (calls : List (Call σ)) {name : String} {e : Entry}
    (he : (r₀.runAll calls).byName? name = some e) :
    let r := r₀.runAll calls
    let reloaded := r.save.1.load (some r.save.2) false
    reloaded.2 = .ok true ∧ ∃ e', reloaded.1.byName? name = some e' ∧ ∀ path method,
      e'.route.match? path method =
          (e.route.withLatest (r₀.offered calls)).match? path method ∧
        ((∀ f ∈ e.route.filters, Catalog.latest? (r₀.offered calls) f.id = some f) →
          e'.route.match? path method = e.route.match? path method) := by
  intro r reloaded
  have hcovers : r.Covers := covers_runAll hnew calls
  have hsaved : ∀ e ∈ r.table.entries, ∀ id ∈ e.route.filterIds,
      r.save.1.catalog.contains id = true := hcovers
  have hanswer : reloaded.2 = .ok true := congrArg Prod.snd (load_save hsaved false)
  obtain ⟨e', he', hroute⟩ := byName?_reload hcovers he
  have hlatest : e'.route = e.route.withLatest (r₀.offered calls) :=
    hroute.trans (Route.attached_eq_withLatest (get?_catalog_of_run hnew calls) e.route)
  refine ⟨hanswer, e', he', fun path method => ⟨by rw [hlatest], fun hfilters => ?_⟩⟩
  rw [hlatest, Route.withLatest_eq_self hfilters]

/-- The filter of the one route is the latest one under its id, so the route refuses everything after
the reload too. -/
theorem match?_reload_guarded :
    ∃ route : Route, Route.compile "a" ∅ = .ok route ∧
      let deny : Filter := ⟨"gate", fun _ _ _ => .reject⟩
      let pass : Filter := ⟨"log", fun _ _ _ => .keep⟩
      let calls : List (Call MemoryStore) :=
        [.registerFilter pass, .register "a" (route.withFilter deny)]
      let r := (default 0).runAll calls
      let reloaded := r.save.1.load (some r.save.2) false
      new 0 {} = .ok (default 0) ∧ reloaded.2 = .ok true ∧
        ∃ e e', r.byName? "a" = some e ∧ reloaded.1.byName? "a" = some e' ∧
          (∀ f ∈ e.route.filters, Catalog.latest? ((default 0).offered calls) f.id = some f) ∧
          ∀ path method, e'.route.match? path method = e.route.match? path method := by
  obtain ⟨route, hroute⟩ : ∃ route, Route.compile "a" ∅ = .ok route :=
    exists_of_isOk (by decide +kernel)
  refine ⟨route, hroute, ?_⟩
  intro deny pass calls r reloaded
  have hfilters : (route.withFilter deny).filters = [deny] := by
    rw [Route.withFilter, Route.filters_of_compileWith hroute]
    rfl
  have hlatest : ∀ f ∈ (route.withFilter deny).filters,
      Catalog.latest? ((default 0).offered calls) f.id = some f := by
    have hoffered : (default 0).offered calls = [pass, deny] := by
      show pass :: ((route.withFilter deny).filters ++ []) = [pass, deny]
      rw [hfilters]
      rfl
    rw [hfilters, hoffered]
    exact List.forall_mem_singleton.2 rfl
  have he : r.byName? "a" = some ⟨"a", ⟨0, 0⟩, route.withFilter deny⟩ := rfl
  obtain ⟨hanswer, e', he', hmatch⟩ := match?_reload (new_eq_default 0) calls he
  exact ⟨new_eq_default 0, hanswer, _, e', he, he', hlatest, fun path method =>
    (hmatch path method).2 hlatest⟩

/-- A route that refused everything lets everything through after a reload, since a later route came
with another filter under the id of its own. -/
theorem match?_reload_overtaken :
    ∃ route : Route, Route.compile "a" ∅ = .ok route ∧
      let deny : Filter := ⟨"gate", fun _ _ _ => .reject⟩
      let pass : Filter := ⟨"gate", fun _ _ _ => .keep⟩
      let calls : List (Call MemoryStore) :=
        [.register "a" (route.withFilter deny), .register "b" (route.withFilter pass)]
      let r := (default 0).runAll calls
      let reloaded := r.save.1.load (some r.save.2) false
      new 0 {} = .ok (default 0) ∧
        ∃ e e', r.byName? "a" = some e ∧ reloaded.1.byName? "a" = some e' ∧
          e.route.match? "a" .get = none ∧ (e'.route.match? "a" .get).isSome = true := by
  have hfinds : ((Route.compile "a" ∅).toOption.bind (·.find? "a")).isSome = true := by
    decide +kernel
  obtain ⟨route, hroute⟩ : ∃ route, Route.compile "a" ∅ = .ok route :=
    exists_of_isOk (by decide +kernel)
  obtain ⟨m, hm⟩ : ∃ m, route.find? "a" = some m := by
    rw [hroute] at hfinds
    exact Option.isSome_iff_exists.1 hfinds
  refine ⟨route, hroute, ?_⟩
  intro deny pass calls r reloaded
  have hcompiled := Route.filters_of_compileWith hroute
  have he : r.byName? "a" = some ⟨"a", ⟨0, 0⟩, route.withFilter deny⟩ := by
    have hne : "a" ≠ "b" := by decide
    show (Table.insert (Table.insert ∅ ⟨"a", ⟨0, 0⟩, _⟩) ⟨"b", ⟨0, 1⟩, _⟩).get? "a" = _
    rw [Table.get?_insert, if_neg hne, Table.get?_insert, if_pos rfl]
  obtain ⟨e', he', hattached⟩ := byName?_reload (covers_runAll (new_eq_default 0) calls) he
  refine ⟨new_eq_default 0, _, e', he, he', ?_, ?_⟩
  · have hfind : (route.withFilter deny).find? "a" = some m := hm
    rw [Route.match?, hfind, Route.withFilter, hcompiled]
    rfl
  · have hfilters : ((route.withFilter deny).attached r.catalog).filters = [pass] := by
      have hget : r.catalog.get? "gate" = some pass := by
        rw [get?_catalog_of_run (new_eq_default 0)]
        show Catalog.latest? ((route.filters ++ [deny]) ++ ((route.filters ++ [pass]) ++ [])) _ = _
        rw [hcompiled]
        rfl
      have hids : (route.withFilter deny).filterIds = ["gate"] := by
        rw [Route.filterIds, Route.withFilter, hcompiled]
        rfl
      rw [Route.attached, hids, List.filterMap_cons_some hget]
      rfl
    have hfind : ((route.withFilter deny).attached r.catalog).find? "a" = some m := hm
    rw [hattached, Route.match?, hfind, hfilters]
    rfl

end Registry

end Signpost
