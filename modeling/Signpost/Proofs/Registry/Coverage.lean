import Signpost.Proofs.Registry.Order
import Signpost.Proofs.Registry.Restore

/-!
# The catalog covers the routes

A registered route is stored with the ids of its filters only, so it can be restored just as long as
the catalog has a filter under each of these ids. A registration adds the filters of the route, no call
ever takes a filter away, and a restored route has the filters of the catalog: in every registry that
calls lead to, whatever they are, the catalog covers the routes (`covers_runAll`). Such a registry
loads what it saved in either way (`load_save_of_run`).
-/

namespace Signpost

/-! ## Catalogs -/

namespace Catalog

/-- The last one of some filters with an id. -/
def latest? (fs : List Filter) (id : String) : Option Filter := fs.reverse.find? (·.id == id)

/-- Of the filters that are added under one id the last one is kept. -/
theorem get?_registerAll (c : Catalog) (fs : List Filter) (id : String) :
    (c.registerAll fs).get? id = (latest? fs id).or (c.get? id) := by
  induction fs generalizing c with
  | nil => rfl
  | cons f fs ih =>
    have hlatest : latest? (f :: fs) id = (latest? fs id).or (if id = f.id then some f else none) := by
      rw [latest?, List.reverse_cons, List.find?_append, List.find?_singleton]
      by_cases hid : id = f.id
      · simp [latest?, hid]
      · simp [latest?, hid, Ne.symm hid]
    rw [registerAll, List.foldl_cons]
    refine (ih _).trans ?_
    rw [get?_register, hlatest, Option.or_assoc]
    split <;> rfl

theorem contains_iff {c : Catalog} {id : String} : c.contains id = true ↔ ∃ f, c.get? id = some f :=
  Dict.contains_iff

theorem contains_registerAll {c : Catalog} {fs : List Filter} {id : String} :
    (c.registerAll fs).contains id = true ↔ id ∈ fs.map (·.id) ∨ c.contains id = true := by
  have hlatest : (∃ f, latest? fs id = some f) ↔ id ∈ fs.map (·.id) := by
    simp [latest?, ← Option.isSome_iff_exists]
  rw [contains_iff, contains_iff, get?_registerAll, ← hlatest]
  cases latest? fs id <;> simp

end Catalog

/-! ## Rebuilt routes -/

namespace RouteSource

theorem get?_of_mem_attach {name : String} {catalog : Catalog} {ids : List String}
    {fs : List Filter} (h : attach name catalog ids = .ok fs) {f : Filter} (hf : f ∈ fs) :
    catalog.get? f.id = some f := by
  induction ids generalizing fs with
  | nil =>
    cases h
    cases hf
  | cons id ids ih =>
    rw [attach] at h
    split at h
    · cases h
    · rename_i g hg
      cases hrest : attach name catalog ids with
      | error e => simp [hrest, Except.map] at h
      | ok gs =>
        rw [hrest] at h
        cases h
        rcases List.mem_cons.1 hf with rfl | hf
        · rw [Catalog.id_of_get? hg, hg]
        · exact ih hrest hf

/-- A rebuilt route has the filters of the catalog. -/
theorem get?_of_mem_rebuild {s : RouteSource} {options : Options} {catalog : Catalog}
    {route : Route} (h : s.rebuild options catalog = .ok route) {f : Filter}
    (hf : f ∈ route.filters) : catalog.get? f.id = some f := by
  unfold rebuild at h
  split at h
  · cases h
  · cases hattach : attach s.name catalog s.filters with
    | error e => simp [hattach, Except.map] at h
    | ok fs =>
      rw [hattach] at h
      cases h
      exact get?_of_mem_attach hattach hf

end RouteSource

theorem Template.compile_patterns (c : Compiled) (default : String) :
    compile c.text c.patterns default = .ok c := by
  have hover : (∅ : Dict String).overlay c.patterns = c.patterns :=
    Dict.ext_get? fun k => by simp
  simpa [hover] using compile_overlay c ∅ default

namespace Registry

/-- The filters of rebuilt routes are in the catalog. -/
theorem contains_of_rebuildAll {options : Options} {catalog : Catalog} {sources : List RouteSource}
    {routes : List (String × Route)} (h : rebuildAll options catalog sources = .ok routes) :
    ∀ p ∈ routes, ∀ id ∈ p.2.filterIds, catalog.contains id = true := by
  induction sources generalizing routes with
  | nil =>
    cases h
    simp
  | cons s ss ih =>
    rw [rebuildAll] at h
    split at h
    · cases h
    · rename_i route hroute
      cases hrest : rebuildAll options catalog ss with
      | error e => simp [hrest, Except.map] at h
      | ok rest =>
        rw [hrest] at h
        cases h
        refine List.forall_mem_cons.2 ⟨fun id hid => ?_, ih hrest⟩
        obtain ⟨f, hf, rfl⟩ := List.mem_map.1 hid
        exact Catalog.contains_iff.2 ⟨f, RouteSource.get?_of_mem_rebuild hroute hf⟩

/-! ## Covered routes -/

/-- The catalog has a filter under every id that a registered route names. -/
def Covers (r : Registry) : Prop :=
  ∀ e ∈ r.table.entries, ∀ id ∈ e.route.filterIds, r.catalog.contains id = true

section
variable {r : Registry} (hr : r.Covers)
include hr

theorem Covers.put {name : String} {route : Route}
    (hroute : ∀ id ∈ route.filterIds, r.catalog.contains id = true) : (r.put name route).Covers := by
  intro e he
  rcases Table.mem_entries_insert.1 he with rfl | ⟨he, -⟩
  · exact hroute
  · exact hr e he

theorem Covers.registered (name : String) (route : Route) : (r.registered name route).Covers := by
  intro e he id hid
  have hmem : id ∈ route.filters.map (·.id) ∨ r.catalog.contains id = true := by
    rcases Table.mem_entries_insert.1 he with rfl | ⟨he, -⟩
    · exact .inl hid
    · exact .inr (hr e he id hid)
  exact Catalog.contains_registerAll.2 hmem

theorem Covers.registerFilter (f : Filter) : (r.registerFilter f).Covers := by
  intro e he id hid
  have hadd : (r.catalog.registerAll [f]).contains id = true :=
    Catalog.contains_registerAll.2 (.inr (hr e he id hid))
  exact hadd

theorem Covers.restore {append : Bool} {routes : List (String × Route)}
    (hroutes : ∀ p ∈ routes, ∀ id ∈ p.2.filterIds, r.catalog.contains id = true) :
    (r.restore append routes).Covers := by
  have hboth : (r.restore append routes).Covers ∧ (r.restore append routes).catalog = r.catalog :=
    restore_keeps (p := fun r' => r'.Covers ∧ r'.catalog = r.catalog)
      ⟨fun _ he => (nomatch he), rfl⟩ ⟨hr, rfl⟩
      fun r' h q hq => ⟨h.1.put (h.2 ▸ hroutes q hq), h.2⟩
  exact hboth.1

end

variable {σ : Type u} [Store σ]

theorem covers_run {r : Registry} (hr : r.Covers) (c : Call σ) : (c.run r).1.Covers := by
  have hchanges := changes_run r c
  generalize (c.run r).1 = next at hchanges
  cases hchanges with
  | counts => exact hr
  | registers hfree route => exact hr.registered _ route
  | adds f => exact hr.registerFilter f
  | restores hgiven hread hrebuild append => exact hr.restore (contains_of_rebuildAll hrebuild)

/-- In whatever registry calls lead to, the catalog covers the routes. -/
theorem covers_runAll {owner : Nat} {options : Options} {r : Registry}
    (hnew : new owner options = .ok r) (calls : List (Call σ)) : (r.runAll calls).Covers := by
  refine runAll_keeps (p := Covers) (fun r c hr => covers_run hr c) ?_ calls
  rw [Covers, (empty_of_new hnew).1]
  exact fun _ he => nomatch he

/-! ## Restorable registries -/

/-- A registry that has all that its routes are restored from. -/
structure SelfContained (r : Registry) : Prop where
  covers : r.Covers
  id_of_get? : ∀ id f, r.catalog.get? id = some f → f.id = id
  recompiles : ∀ e ∈ r.table.entries, ∀ default,
    Template.compile e.route.template e.route.patterns default = .ok e.route.compiled

theorem Covers.selfContained {r : Registry} (hr : r.Covers) : r.SelfContained where
  covers := hr
  id_of_get? _ _ := Catalog.id_of_get?
  recompiles e _ := Template.compile_patterns e.route.compiled

/-- Whatever calls lead to it, a registry has all that its routes are restored from, and loads what it
saved, whether it appends or not. -/
theorem load_save_of_run {owner : Nat} {options : Options} {r₀ : Registry}
    (hnew : new owner options = .ok r₀) (calls : List (Call σ)) :
    (r₀.runAll calls).SelfContained ∧
      ∀ append, ((r₀.runAll calls).save.1.load (some (r₀.runAll calls).save.2) append).2 =
        .ok true := by
  have hcovers := covers_runAll hnew calls
  refine ⟨hcovers.selfContained, fun append => ?_⟩
  have hsaved : ∀ e ∈ (r₀.runAll calls).table.entries, ∀ id ∈ e.route.filterIds,
      (r₀.runAll calls).save.1.catalog.contains id = true := hcovers
  rw [load_save hsaved]

theorem load_save_of_run_guarded :
    ∃ route : Route, Route.compile "posts" ∅ = .ok route ∧
      let calls : List (Call MemoryStore) :=
        [.register "posts" (route.withFilter ⟨"gate", fun _ _ _ => .reject⟩),
          .register "drafts" route, .register "posts" route, .save]
      let r := (default 0).runAll calls
      new 0 {} = .ok (default 0) ∧ r.table.names = ["posts", "drafts"] ∧ r.SelfContained ∧
        ∀ append, (r.save.1.load (some r.save.2) append).2 = .ok true := by
  obtain ⟨route, hroute⟩ : ∃ route, Route.compile "posts" ∅ = .ok route :=
    exists_of_isOk (by decide +kernel)
  let pairs := [("posts", route.withFilter ⟨"gate", fun _ _ _ => .reject⟩), ("drafts", route),
    ("posts", route)]
  have hsave : ∀ r : Registry, ((.save : Call MemoryStore).run r).1.table = r.table := fun _ => rfl
  refine ⟨route, hroute, ?_⟩
  intro calls r
  have hcalls : calls = registrations pairs ++ [.save] := rfl
  have hnames : r.table.names = (pairs.map (·.1)).eraseDups := by
    show ((default 0).runAll calls).table.names = _
    rw [hcalls, runAll_concat, hsave, names_runAll_registrations rfl]
  exact ⟨new_eq_default 0, hnames, load_save_of_run (new_eq_default 0) calls⟩

end Registry

end Signpost
