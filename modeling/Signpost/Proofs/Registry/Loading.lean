import Signpost.Proofs.Registry.Order
import Signpost.Proofs.Registry.Restore

/-!
# Loaded tables

What a load makes of a table when all stored routes can be rebuilt (`load_table`). Putting routes into
a table one after the other and adding just those with new names give the same names in the same
order (`names_foldl`); they differ in the route that a name has in the end, the last one
(`route_foldl_put`) or the one that it had first (`route_foldl_putNew`). So a snapshot may collide with
the table, and with itself.
-/

namespace Signpost.Registry

/-! ## Rebuilt routes -/

/-- The route that the first of some stored routes with a name is rebuilt to. -/
def rebuilt? (r : Registry) (sources : List RouteSource) (name : String) : Option Route :=
  (sources.find? (·.name == name)).bind fun s => (s.rebuild r.options r.catalog).toOption

/-- A route goes with the one that it was rebuilt from. -/
def IsRebuilt (r : Registry) (s : RouteSource) (p : String × Route) : Prop :=
  s.name = p.1 ∧ s.rebuild r.options r.catalog = .ok p.2

theorem exists_rebuildAll {r : Registry} {sources : List RouteSource}
    (h : ∀ s ∈ sources, ∃ route, s.rebuild r.options r.catalog = .ok route) :
    ∃ routes, rebuildAll r.options r.catalog sources = .ok routes ∧
      List.Forall₂ r.IsRebuilt sources routes := by
  induction sources with
  | nil => exact ⟨[], rfl, .nil⟩
  | cons s sources ih =>
    obtain ⟨⟨route, hroute⟩, hsources⟩ := List.forall_mem_cons.1 h
    obtain ⟨routes, hroutes, hall⟩ := ih hsources
    refine ⟨(s.name, route) :: routes, ?_, .cons ⟨rfl, hroute⟩ hall⟩
    rw [rebuildAll, hroute, hroutes]
    rfl

section
variable {r : Registry} {sources : List RouteSource} {routes : List (String × Route)}
  (h : List.Forall₂ r.IsRebuilt sources routes)
include h

theorem names_eq_of_isRebuilt : sources.map (·.name) = routes.map (·.1) :=
  Table.map_eq_map_of_forall₂ (h.imp fun _ _ hp => hp.1)

theorem rebuilt?_eq (name : String) : r.rebuilt? sources name = bound? .reject routes name := by
  induction h with
  | nil => rfl
  | @cons s p sources routes hp hall ih =>
    rw [rebuilt?, bound?, List.find?_cons, List.find?_cons, hp.1]
    split
    · rw [Option.bind_some, hp.2]
      rfl
    · exact ih

theorem rebuilt?_reverse_eq (name : String) :
    r.rebuilt? sources.reverse name = bound? .replace routes name := by
  rw [rebuilt?_eq (List.rel_reverse h)]
  rfl

end

/-! ## Routes that are put into a table -/

theorem names_putNew (r : Registry) (name : String) (route : Route) :
    (r.putNew name route).table.names =
      if r.contains name then r.table.names else r.table.names ++ [name] := by
  unfold putNew
  split
  · rfl
  · rename_i hnew
    rw [names_put, if_neg hnew]

theorem names_restore_true (r : Registry) (routes : List (String × Route)) :
    (r.restore true routes).table.names =
      r.table.names ++ ((routes.map (·.1)).filter (!r.contains ·)).eraseDups :=
  names_foldl (fun r p => names_putNew r p.1 p.2) r routes

theorem names_restore_false (r : Registry) (routes : List (String × Route)) :
    (r.restore false routes).table.names = (routes.map (·.1)).eraseDups := by
  have hnames := names_foldl (fun r p => names_put r p.1 p.2) { r with table := ∅ } routes
  have hall : (routes.map (·.1)).filter (!({ r with table := ∅ } : Registry).contains ·) =
      routes.map (·.1) := List.filter_eq_self.2 fun _ _ => rfl
  rw [hall] at hnames
  exact hnames

theorem byName?_put (r : Registry) (name : String) (route : Route) (k : String) :
    (r.put name route).byName? k =
      if k = name then some ⟨name, ⟨r.owner, r.next⟩, route⟩ else r.byName? k :=
  Table.get?_insert ..

/-- Of routes that are put one after the other under a name the last one stays. -/
theorem route_foldl_put (r : Registry) (routes : List (String × Route)) (k : String) :
    ((routes.foldl (fun r p => r.put p.1 p.2) r).byName? k).map (·.route) =
      (bound? .replace routes k).or ((r.byName? k).map (·.route)) := by
  induction routes using List.reverseRecOn with
  | nil => rfl
  | append_singleton routes p ih =>
    rw [List.foldl_append, List.foldl_cons, List.foldl_nil, byName?_put, bound?_replace_concat]
    split
    · rfl
    · exact ih

theorem route_putNew (r : Registry) (name : String) (route : Route) (k : String) :
    ((r.putNew name route).byName? k).map (·.route) =
      ((r.byName? k).map (·.route)).or (if k = name then some route else none) := by
  have hcontains : r.contains name = (r.byName? name).isSome := r.isMap.contains_eq name
  unfold putNew
  split
  · rename_i hname
    by_cases hk : k = name
    · subst hk
      obtain ⟨e, he⟩ := Option.isSome_iff_exists.1 (hcontains.symm.trans hname)
      simp [he]
    · simp [hk]
  · rename_i hname
    rw [byName?_put]
    by_cases hk : k = name
    · subst hk
      have hnone : r.byName? k = none := by simpa [hcontains] using hname
      simp [hnone]
    · simp [hk]

/-- Of routes that are put one after the other under a new name the first one stays. -/
theorem route_foldl_putNew (r : Registry) (routes : List (String × Route)) (k : String) :
    ((routes.foldl (fun r p => r.putNew p.1 p.2) r).byName? k).map (·.route) =
      ((r.byName? k).map (·.route)).or (bound? .reject routes k) := by
  induction routes using List.reverseRecOn with
  | nil => simp [bound?]
  | append_singleton routes p ih =>
    rw [List.foldl_append, List.foldl_cons, List.foldl_nil, route_putNew, ih, bound?_reject_concat,
      Option.or_assoc]

/-- Routes whose names are all there change nothing. -/
theorem restore_of_contains {r : Registry} {routes : List (String × Route)}
    (h : ∀ p ∈ routes, r.contains p.1 = true) : r.restore true routes = r := by
  show routes.foldl (fun r p => r.putNew p.1 p.2) r = r
  induction routes with
  | nil => rfl
  | cons p routes ih =>
    obtain ⟨hp, hroutes⟩ := List.forall_mem_cons.1 h
    rw [List.foldl_cons, putNew, if_pos hp, ih hroutes]

theorem contains_restore {r : Registry} {append : Bool} {routes : List (String × Route)} :
    ∀ p ∈ routes, (r.restore append routes).contains p.1 = true := by
  intro p hp
  have hname : p.1 ∈ routes.map (·.1) := List.mem_map_of_mem hp
  rw [contains_iff]
  cases append with
  | false =>
    rw [names_restore_false, List.mem_eraseDups]
    exact hname
  | true =>
    rw [names_restore_true, List.mem_append, List.mem_eraseDups, List.mem_filter]
    by_cases hold : p.1 ∈ r.table.names
    · exact .inl hold
    · exact .inr ⟨hname, by simpa [← contains_iff] using hold⟩

/-! ## New handles -/

/-- Whether a registry has not given out a handle yet. -/
def Unissued (r : Registry) (h : Handle) : Prop := h.owner = r.owner ∧ r.next ≤ h.serial

/-- What holds of a registry after routes were put into it: all entries but some old ones have new
handles. -/
structure Grows (r : Registry) (old : List Entry) (r' : Registry) : Prop where
  owner : r'.owner = r.owner
  next : r.next ≤ r'.next
  entries : ∀ e ∈ r'.table.entries, e ∈ old ∨ r.Unissued e.handle

theorem Grows.put {r r' : Registry} {old : List Entry} (h : r.Grows old r') (name : String)
    (route : Route) : r.Grows old (r'.put name route) where
  owner := h.owner
  next := Nat.le_succ_of_le h.next
  entries e he := by
    rcases Table.mem_entries_insert.1 he with rfl | ⟨he, -⟩
    · exact .inr ⟨h.owner, h.next⟩
    · exact h.entries e he

theorem grows_restore_false (r : Registry) (routes : List (String × Route)) :
    r.Grows [] (r.restore false routes) := by
  refine List.foldlRecOn (motive := r.Grows []) routes _ ⟨rfl, Nat.le_refl _, ?_⟩
    fun r' h q _ => h.put q.1 q.2
  exact fun e he => nomatch he

theorem grows_restore_true (r : Registry) (routes : List (String × Route)) :
    r.Grows r.table.entries (r.restore true routes) := by
  refine List.foldlRecOn (motive := r.Grows r.table.entries) routes _
    ⟨rfl, Nat.le_refl _, fun e he => .inl he⟩ fun r' h q _ => ?_
  unfold putNew
  split
  · exact h
  · exact h.put q.1 q.2

/-! ## Loads -/

/-- A load that takes effect: its answer, the filters, and the metrics. -/
structure Succeeds (r : Registry) (loaded : Registry × Except RegistryError Bool) : Prop where
  answer : loaded.2 = .ok true
  catalog : loaded.1.catalog = r.catalog
  metrics : loaded.1.metrics = r.metrics.recordLoad

/-- A table of stored routes in place of all others: their names in the order in which they came
first, each with the last of its routes. -/
structure Replaces (r : Registry) (sources : List RouteSource) (t : Table) : Prop where
  names : t.names = (sources.map (·.name)).eraseDups
  routes : ∀ name, (t.get? name).map (·.route) = r.rebuilt? sources.reverse name
  handles : ∀ e ∈ t.entries, r.Unissued e.handle

/-- A table of stored routes behind those of a registry: the names that are new, in the order in which
they came first, each with the first of its routes. -/
def Extends (r : Registry) (sources : List RouteSource) (t : Table) : Prop :=
  ∃ added, t.entries = r.table.entries ++ added ∧
    added.map (·.name) = ((sources.map (·.name)).filter (!r.contains ·)).eraseDups ∧
    ∀ e ∈ added, r.rebuilt? sources e.name = some e.route ∧ r.Unissued e.handle

section
variable {r : Registry} {sources : List RouteSource} {routes : List (String × Route)}
  (h : List.Forall₂ r.IsRebuilt sources routes)
include h

theorem replaces_restore : r.Replaces sources (r.restore false routes).table where
  names := by rw [names_restore_false, names_eq_of_isRebuilt h]
  routes name := by
    rw [rebuilt?_reverse_eq h]
    exact (route_foldl_put { r with table := ∅ } routes name).trans (Option.or_none ..)
  handles e he := ((grows_restore_false r routes).entries e he).resolve_left List.not_mem_nil

theorem extends_restore : r.Extends sources (r.restore true routes).table := by
  obtain ⟨added, hadded⟩ := entries_prefix_restore r routes
  have hnames : r.table.names ++ added.map (·.name) =
      r.table.names ++ ((routes.map (·.1)).filter (!r.contains ·)).eraseDups := by
    rw [← names_restore_true, Table.names, Table.names, ← hadded, List.map_append]
  have hnames := List.append_cancel_left hnames
  refine ⟨added, hadded.symm, hnames.trans (by rw [names_eq_of_isRebuilt h]), fun e he => ?_⟩
  have hmem : e ∈ (r.restore true routes).table.entries := hadded ▸ List.mem_append_right _ he
  have hnew : r.byName? e.name = none := by
    have hname : e.name ∈ added.map (·.name) := List.mem_map_of_mem he
    rw [hnames, List.mem_eraseDups, List.mem_filter, r.isMap.contains_eq] at hname
    simpa using hname.2
  constructor
  · have hget : (r.restore true routes).byName? e.name = some e :=
      Table.get?_eq_some_iff.2 ⟨hmem, rfl⟩
    have hroute := route_foldl_putNew r routes e.name
    rw [hnew, ← rebuilt?_eq h] at hroute
    exact hroute.symm.trans (congrArg (Option.map (·.route)) hget)
  · exact ((grows_restore_true r routes).entries e hmem).resolve_left
      fun hold => byName?_eq_none_iff.1 hnew e hold rfl

end

theorem load_of_rebuildAll {r : Registry} {bytes : ByteArray} {snapshot : Snapshot}
    {routes : List (String × Route)} (hread : Snapshot.decode? bytes = some snapshot)
    (hrebuild : rebuildAll r.options r.catalog snapshot.routes = .ok routes) (append : Bool) :
    r.load (some bytes) append =
      ({ r.restore append routes with metrics := r.metrics.recordLoad }, .ok true) := by
  simp only [load, hread, hrebuild]

theorem options_restore (r : Registry) (append : Bool) (routes : List (String × Route)) :
    (r.restore append routes).options = r.options :=
  restore_keeps (p := (·.options = r.options)) rfl rfl fun _ h _ _ => h

/-- A snapshot whose routes can all be rebuilt is loaded: in place of the table, where a name has the
last of its routes, or behind it, where a name has the first of its routes and those that are there
stay as they are. Loading it once more behind what is there then leaves the table as it is. -/
theorem load_table {r : Registry} {bytes : ByteArray} {snapshot : Snapshot}
    (hread : Snapshot.decode? bytes = some snapshot)
    (hrebuild : ∀ s ∈ snapshot.routes, ∃ route, s.rebuild r.options r.catalog = .ok route) :
    (∀ append, r.Succeeds (r.load (some bytes) append)) ∧
    r.Replaces snapshot.routes (r.load (some bytes) false).1.table ∧
    r.Extends snapshot.routes (r.load (some bytes) true).1.table ∧
    ∀ append,
      let next := (r.load (some bytes) append).1
      next.Succeeds (next.load (some bytes) true) ∧
        (next.load (some bytes) true).1.table = next.table := by
  obtain ⟨routes, hroutes, hall⟩ := exists_rebuildAll hrebuild
  have hload := load_of_rebuildAll hread hroutes
  refine ⟨fun append => ?_, ?_, ?_, fun append => ?_⟩
  · rw [hload]
    exact ⟨rfl, catalog_restore .., rfl⟩
  · rw [hload]
    exact replaces_restore hall
  · rw [hload]
    exact extends_restore hall
  · intro next
    have hnext : next = { r.restore append routes with metrics := r.metrics.recordLoad } :=
      congrArg Prod.fst (hload append)
    have hagain : rebuildAll next.options next.catalog snapshot.routes = .ok routes := by
      rw [hnext]
      show rebuildAll (r.restore append routes).options (r.restore append routes).catalog _ = _
      rw [options_restore, catalog_restore, hroutes]
    have hthere : ∀ p ∈ routes, next.contains p.1 = true := fun p hp => by
      rw [hnext]
      exact contains_restore p hp
    rw [load_of_rebuildAll hread hagain, restore_of_contains hthere]
    exact ⟨⟨rfl, rfl, rfl⟩, rfl⟩

/-- A snapshot with a name that is taken and with a name that it has twice. -/
theorem load_table_collisions :
    let source (name template : String) : RouteSource := ⟨name, template, ∅, ∅, ∅, []⟩
    let snapshot : Snapshot := .ofRoutes [source "b" "x", source "a" "y", source "b" "z(/<id>)"]
    ∃ old : Route, Route.compile "old" ∅ = .ok old ∧
      let r := (default 0).put "a" old
      Snapshot.decode? snapshot.encode = some snapshot ∧
      (∀ s ∈ snapshot.routes, ∃ route, s.rebuild r.options r.catalog = .ok route) ∧
      (r.load (some snapshot.encode) false).1.table.names = ["b", "a"] ∧
      ((r.load (some snapshot.encode) false).1.byName? "b").map (·.route.template) =
        some "z(/<id>)" ∧
      ∃ e, (r.load (some snapshot.encode) true).1.table.entries = r.table.entries ++ [e] ∧
        e.name = "b" ∧ e.route.template = "x" := by
  intro source snapshot
  obtain ⟨old, hold⟩ : ∃ route, Route.compile "old" ∅ = .ok route :=
    exists_of_isOk (by decide +kernel)
  refine ⟨old, hold, ?_⟩
  intro r
  have hread : Snapshot.decode? snapshot.encode = some snapshot := by
    rw [Snapshot.decode?_bytes, if_pos (by decide)]
    rfl
  have hrebuild : ∀ s ∈ snapshot.routes, ∃ route, s.rebuild r.options r.catalog = .ok route := by
    have hok : ∀ s ∈ snapshot.routes, (s.rebuild {} ∅).isOk = true := by decide +kernel
    exact fun s hs => exists_of_isOk (hok s hs)
  obtain ⟨-, hreplaces, hextends, -⟩ := load_table hread hrebuild
  obtain ⟨added, hentries, hnames, hadded⟩ := hextends
  obtain ⟨e, rfl, hname⟩ : ∃ e, added = [e] ∧ e.name = "b" :=
    List.map_eq_singleton_iff.1 (hnames.trans rfl)
  have hlast : (r.rebuilt? snapshot.routes.reverse "b").map (·.template) = some "z(/<id>)" := by
    show ((default 0).rebuilt? _ _).map _ = _
    decide +kernel
  have hfirst : (r.rebuilt? snapshot.routes "b").map (·.template) = some "x" := by
    show ((default 0).rebuilt? _ _).map _ = _
    decide +kernel
  refine ⟨hread, hrebuild, hreplaces.names.trans (by decide), ?_, e, hentries, hname, ?_⟩
  · rw [← hlast, ← hreplaces.routes, Option.map_map]
    rfl
  · rw [← hname, (hadded e List.mem_cons_self).1] at hfirst
    exact Option.some.inj hfirst

end Signpost.Registry
