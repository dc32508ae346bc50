import Signpost.Except
import Signpost.Registry.Call

/-!
# What a call does to a registry

A load ends in one of four ways (`loads_load`), and a call changes a registry in one of four ways
(`changes_run`): it leaves all but the metrics alone, registers a route, adds a filter, or restores the
routes of a snapshot. What holds of every registry that calls lead to is shown along these, once for
each way, and never by opening a call again.
-/

namespace Signpost

namespace Registry

/-! ## Loads -/

/-- The ways in which a load can end: with what was given to it, the registry that it leaves, and
its answer. -/
inductive Loads (r : Registry) (append : Bool) :
    Option ByteArray → Registry × Except RegistryError Bool → Prop
  | absent : Loads r append none (r, .ok false)
  | unreadable {bytes : ByteArray} (hread : Snapshot.decode? bytes = none) :
      Loads r append (some bytes) ({ r with metrics := r.metrics.recordReject }, .ok false)
  | refused {bytes : ByteArray} {snapshot : Snapshot} {e : RegistryError}
      (hread : Snapshot.decode? bytes = some snapshot)
      (hrebuild : rebuildAll r.options r.catalog snapshot.routes = .error e) :
      Loads r append (some bytes) (r, .error e)
  | restored {bytes : ByteArray} {snapshot : Snapshot} {routes : List (String × Route)}
      (hread : Snapshot.decode? bytes = some snapshot)
      (hrebuild : rebuildAll r.options r.catalog snapshot.routes = .ok routes) :
      Loads r append (some bytes)
        ({ r.restore append routes with metrics := r.metrics.recordLoad }, .ok true)

theorem loads_load (r : Registry) (blob : Option ByteArray) (append : Bool) :
    Loads r append blob (r.load blob append) := by
  cases blob with
  | none => exact .absent
  | some bytes =>
    unfold load
    dsimp only
    split
    · rename_i hread
      exact .unreadable hread
    · rename_i snapshot hread
      split
      · rename_i e hrebuild
        exact .refused hread hrebuild
      · rename_i routes hrebuild
        exact .restored hread hrebuild

/-! ## Registrations -/

/-- The registry after a route was registered. -/
def registered (r : Registry) (name : String) (route : Route) : Registry :=
  let metrics := r.metrics.recordInsert
  { r.put name route with
    catalog := r.catalog.registerAll route.filters
    metrics := if r.contains name then metrics.recordReplace else metrics }

/-- Whether a name is taken and has to stay as it is. -/
def refuses (r : Registry) (name : String) : Bool :=
  r.contains name && r.options.duplicatePolicy == .reject

theorem register_eq (r : Registry) (name : String) (route : Route) :
    r.register name route = if r.refuses name then .error (.duplicateName name)
      else .ok (r.registered name route, ⟨r.owner, r.next⟩) := rfl

/-! ## Restored routes -/

/-- What putting the routes of a snapshot keeps, restoring them keeps. -/
theorem restore_keeps {p : Registry → Prop} {r : Registry} {append : Bool}
    {routes : List (String × Route)} (hempty : p { r with table := ∅ }) (hr : p r)
    (hput : ∀ r', p r' → ∀ q ∈ routes, p (r'.put q.1 q.2)) : p (r.restore append routes) := by
  unfold restore
  split
  · refine List.foldlRecOn (motive := p) routes _ hr fun r' h q hq => ?_
    unfold putNew
    split
    · exact h
    · exact hput r' h q hq
  · exact List.foldlRecOn (motive := p) routes _ hempty hput

theorem catalog_restore (r : Registry) (append : Bool) (routes : List (String × Route)) :
    (r.restore append routes).catalog = r.catalog :=
  restore_keeps (p := (·.catalog = r.catalog)) rfl rfl fun _ h _ _ => h

/-! ## Calls -/

variable {σ : Type u} [Store σ]

/-- What a load is given: some bytes, nothing, or the failure of the store that was to have them. -/
def Call.given? : Call σ → Option (Except StoreError (Option ByteArray))
  | .load blob _ => some (.ok blob)
  | .loadCache store _ => some (Store.load store cacheKey)
  | _ => none

/-- The filters that a call adds to the catalog, in order. -/
def Call.offers (r : Registry) : Call σ → List Filter
  | .register name route => if r.refuses name then [] else route.filters
  | .registerFilter f => [f]
  | _ => []

/-- The ways in which a call can change a registry. -/
inductive Changes (r : Registry) : Call σ → Registry → Prop
  | counts {c : Call σ} (hoffers : c.offers r = []) (metrics : Metrics) :
      Changes r c { r with metrics }
  | registers {name : String} (hfree : r.refuses name = false) (route : Route) :
      Changes r (.register name route) (r.registered name route)
  | adds (f : Filter) : Changes r (.registerFilter f) (r.registerFilter f)
  | restores {c : Call σ} {bytes : ByteArray} {snapshot : Snapshot}
      {routes : List (String × Route)} (hgiven : c.given? = some (.ok (some bytes)))
      (hread : Snapshot.decode? bytes = some snapshot)
      (hrebuild : rebuildAll r.options r.catalog snapshot.routes = .ok routes) (append : Bool) :
      Changes r c { r.restore append routes with metrics := r.metrics.recordLoad }

theorem Changes.refl {r : Registry} {c : Call σ} (hoffers : c.offers r = []) : Changes r c r :=
  .counts hoffers r.metrics

theorem offers_of_given {c : Call σ} {x : Except StoreError (Option ByteArray)}
    (h : c.given? = some x) (r : Registry) : c.offers r = [] := by
  cases c with
  | load | loadCache => rfl
  | _ => cases h

/-- A load changes a registry as a call does that is given the same. -/
theorem Loads.changes {r : Registry} {c : Call σ} {append : Bool} {blob : Option ByteArray}
    {loaded : Registry × Except RegistryError Bool} (h : Loads r append blob loaded)
    (hgiven : c.given? = some (.ok blob)) : Changes r c loaded.1 := by
  have hoffers := offers_of_given hgiven r
  cases h with
  | absent => exact .refl hoffers
  | unreadable => exact .counts hoffers _
  | refused => exact .refl hoffers
  | restored hread hrebuild => exact .restores hgiven hread hrebuild append

theorem changes_run (r : Registry) (c : Call σ) : Changes r c (c.run r).1 := by
  cases c with
  | register name route =>
    rw [Call.run, register_eq]
    cases hfree : r.refuses name with
    | true => exact .refl (if_pos hfree)
    | false => exact .registers hfree route
  | registerFilter f => exact .adds f
  | save => exact .counts rfl _
  | saveCache store => exact .counts rfl _
  | load blob append => exact (loads_load r blob append).changes rfl
  | loadCache store append =>
    rw [Call.run, loadCache]
    cases hstore : Store.load store cacheKey with
    | error e => exact .refl rfl
    | ok blob =>
      exact (loads_load r blob append).changes (congrArg some hstore)
  | compile | get | isExternal | uri | url => exact .refl rfl

/-- A call adds to the catalog what it offers, and takes nothing away. -/
theorem catalog_run (r : Registry) (c : Call σ) :
    (c.run r).1.catalog = r.catalog.registerAll (c.offers r) := by
  have hchanges := changes_run r c
  generalize (c.run r).1 = next at hchanges ⊢
  cases hchanges with
  | counts hoffers => rw [hoffers]; rfl
  | registers hfree route => rw [Call.offers, hfree]; rfl
  | adds f => rfl
  | restores hgiven hread hrebuild append =>
    rw [offers_of_given hgiven]
    exact catalog_restore ..

/-! ## Runs -/

/-- The filters that the calls of a run add to the catalog, in order. -/
def offered (r : Registry) : List (Call σ) → List Filter
  | [] => []
  | c :: calls => c.offers r ++ (c.run r).1.offered calls

theorem catalog_runAll (r : Registry) (calls : List (Call σ)) :
    (r.runAll calls).catalog = r.catalog.registerAll (r.offered calls) := by
  induction calls generalizing r with
  | nil => rfl
  | cons c calls ih =>
    have htail := ih (c.run r).1
    rw [catalog_run] at htail
    exact htail.trans List.foldl_append.symm

/-- What every call keeps, a run keeps. -/
theorem runAll_keeps {p : Registry → Prop} (hstep : ∀ r (c : Call σ), p r → p (c.run r).1)
    {r : Registry} (hr : p r) (calls : List (Call σ)) : p (r.runAll calls) := by
  induction calls generalizing r with
  | nil => exact hr
  | cons c calls ih => exact ih (hstep r c hr)

/-! ## New registries -/

theorem new_eq_ok_iff {owner : Nat} {options : Options} {r : Registry} :
    new owner options = .ok r ↔ options.validate = .ok () ∧
      ∃ site, Site.ofOptions options = .ok site ∧ r = { owner, options, site } := by
  rw [new]
  cases options.validate with
  | error e => simp
  | ok =>
    cases Site.ofOptions options with
    | error e => simp
    | ok site => simp [eq_comm]

/-- The settings that hold without others are in order, so the registry with these is a new one. -/
theorem new_eq_default (owner : Nat) : new owner {} = .ok (default owner) :=
  new_eq_ok_iff.2 ⟨(Options.validate_eq_ok_iff {}).2 (by decide +kernel), {}, rfl, rfl⟩

/-- A new registry has no routes and no filters. -/
theorem empty_of_new {owner : Nat} {options : Options} {r : Registry}
    (h : new owner options = .ok r) : r.table = ∅ ∧ r.catalog = ∅ := by
  obtain ⟨-, site, -, rfl⟩ := new_eq_ok_iff.1 h
  exact ⟨rfl, rfl⟩

end Registry

end Signpost
