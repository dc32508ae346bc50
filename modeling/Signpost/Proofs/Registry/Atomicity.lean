import Signpost.Proofs.Registry.Restore
import Signpost.Proofs.Registry.Step

/-!
# Calls that fail

A call fails for one of a few reasons (`Call.Fails`): a name that is taken or unknown, a template
that does not compile, a link that cannot be built, the first stored route that cannot be rebuilt,
or a store. Whatever the reason is, and however far the call had come, the registry is as it was before;
only a snapshot that a store did not keep counts as written (`run_atomic`). A load that has nothing
to read is no failure, and changes nothing but the count of what could not be read.
-/

namespace Signpost

namespace Registry

variable {σ : Type u} [Store σ]

/-! ## Reasons -/

/-- The name of the route that a call asks for. -/
def Call.asked? : Call σ → Option String
  | .get name => some name
  | .isExternal name => some name
  | .uri name _ => some name
  | .url name _ _ => some name
  | _ => none

/-- Why a call to a registry fails. -/
inductive Call.Fails (r : Registry) : Call σ → RegistryError → Prop
  | compile {text : String} {overrides : Dict String} {e : TemplateError}
      (h : r.compile text overrides = .error e) : Fails r (.compile text overrides) (.template e)
  | taken {name : String} {route : Route} (hname : r.contains name = true)
      (hpolicy : r.options.duplicatePolicy = .reject) :
      Fails r (.register name route) (.duplicateName name)
  | unknown {c : Call σ} {name : String} (hasked : c.asked? = some name)
      (hname : r.byName? name = none) : Fails r c (.routeNotFound name)
  | uri {name : String} {params : Params} {entry : Entry} {e : LinkError}
      (hname : r.byName? name = some entry) (h : r.site.uri entry.route params none = .error e) :
      Fails r (.uri name params) (.link e)
  | url {name : String} {params : Params} {protocol : Option String} {entry : Entry} {e : LinkError}
      (hname : r.byName? name = some entry) (h : r.site.url entry.route params protocol = .error e) :
      Fails r (.url name params protocol) (.link e)
  /-- The first stored route that cannot be rebuilt fails the load of them all. -/
  | rebuild {c : Call σ} {bytes : ByteArray} {snapshot : Snapshot} {done rest : List RouteSource}
      {source : RouteSource} {e : RegistryError} (hgiven : c.given? = some (.ok (some bytes)))
      (hread : Snapshot.decode? bytes = some snapshot)
      (hroutes : snapshot.routes = done ++ source :: rest)
      (hdone : ∀ s ∈ done, ∃ route, s.rebuild r.options r.catalog = .ok route)
      (h : source.rebuild r.options r.catalog = .error e) : Fails r c e
  | unread {c : Call σ} {e : StoreError} (hgiven : c.given? = some (.error e)) :
      Fails r c (.store e)
  | unsaved {store : σ} {e : StoreError} (h : Store.save store cacheKey r.save.2 = .error e) :
      Fails r (.saveCache store) (.store e)

theorem get_eq_error_iff {r : Registry} {name : String} {e : RegistryError} :
    r.get name = .error e ↔ r.byName? name = none ∧ .routeNotFound name = e := by
  unfold get
  cases r.byName? name <;> simp

/-- A link to a route fails if there is no such route, or if the link itself does. -/
theorem link_eq_error_iff {r : Registry} {name : String} {e : RegistryError}
    {build : Route → Except LinkError String} :
    (match r.get name with
      | .error e => .error e
      | .ok route => (build route).mapError .link) = Except.error e ↔
      (r.byName? name = none ∧ .routeNotFound name = e) ∨
        ∃ entry, r.byName? name = some entry ∧
          ∃ cause, build entry.route = .error cause ∧ .link cause = e := by
  unfold get
  cases r.byName? name with
  | none => simp
  | some entry => simp [mapError_eq_error_iff]

/-- Rebuilding stops at the first route that fails. -/
theorem rebuildAll_eq_error_iff {options : Options} {catalog : Catalog} {sources : List RouteSource}
    {e : RegistryError} :
    rebuildAll options catalog sources = .error e ↔
      ∃ done source rest, sources = done ++ source :: rest ∧
        (∀ s ∈ done, ∃ route, s.rebuild options catalog = .ok route) ∧
        source.rebuild options catalog = .error e := by
  induction sources with
  | nil => simp [rebuildAll]
  | cons s ss ih =>
    rw [rebuildAll]
    constructor
    · intro h
      split at h
      · rename_i e' hs
        cases h
        exact ⟨[], s, ss, rfl, by simp, hs⟩
      · rename_i route hs
        obtain ⟨done, source, rest, rfl, hdone, hsource⟩ := ih.1 (map_eq_error_iff.1 h)
        exact ⟨s :: done, source, rest, rfl, List.forall_mem_cons.2 ⟨⟨route, hs⟩, hdone⟩, hsource⟩
    · rintro ⟨done, source, rest, hsources, hdone, hsource⟩
      cases done with
      | nil =>
        obtain ⟨rfl, rfl⟩ := List.cons_eq_cons.1 hsources
        rw [hsource]
      | cons d done =>
        obtain ⟨rfl, rfl⟩ := List.cons_eq_cons.1 hsources
        obtain ⟨⟨route, hs⟩, hdone⟩ := List.forall_mem_cons.1 hdone
        rw [hs]
        exact map_eq_error_iff.2 (ih.2 ⟨done, source, rest, rfl, hdone, hsource⟩)

/-! ## Loads that fail -/

/-- A load fails just if it can read a snapshot with a route that cannot be rebuilt. -/
theorem load_eq_error_iff {r : Registry} {blob : Option ByteArray} {append : Bool}
    {e : RegistryError} :
    (r.load blob append).2 = .error e ↔ ∃ bytes snapshot, blob = some bytes ∧
      Snapshot.decode? bytes = some snapshot ∧
      rebuildAll r.options r.catalog snapshot.routes = .error e := by
  have hload := loads_load r blob append
  generalize r.load blob append = loaded at hload ⊢
  cases hload with
  | absent => simp
  | unreadable hread => simp [hread]
  | refused hread hrebuild => simp [hread, hrebuild]
  | restored hread hrebuild => simp [hread, hrebuild]

theorem load_of_unreadable {r : Registry} {bytes : ByteArray} {append : Bool}
    (h : Snapshot.decode? bytes = none) :
    r.load (some bytes) append = ({ r with metrics := r.metrics.recordReject }, .ok false) := by
  have hload := loads_load r (some bytes) append
  generalize r.load (some bytes) append = loaded at hload ⊢
  cases hload with
  | unreadable => rfl
  | refused hread | restored hread => cases h.symm.trans hread

/-- A load that fails leaves the registry alone, also if routes were rebuilt before. -/
theorem load_of_error {r : Registry} {blob : Option ByteArray} {append : Bool} {e : RegistryError}
    (h : (r.load blob append).2 = .error e) : (r.load blob append).1 = r := by
  have hload := loads_load r blob append
  generalize r.load blob append = loaded at hload h ⊢
  cases hload with
  | refused => rfl
  | absent | unreadable | restored => cases h

/-! ## Calls that fail -/

/-- A save to a store counts, and then the store decides. -/
theorem run_saveCache (r : Registry) (store : σ) :
    (Call.saveCache store).run r = ({ r with metrics := r.metrics.recordSave },
      ((Store.save store cacheKey r.save.2).mapError .store).map .store) := by
  simp only [Call.run, saveCache, save]

theorem run_saveCache_eq_error_iff {r : Registry} {store : σ} {e : RegistryError} :
    ((Call.saveCache store).run r).2 = .error e ↔
      ∃ cause, Store.save store cacheKey r.save.2 = .error cause ∧ .store cause = e := by
  rw [run_saveCache]
  exact map_eq_error_iff.trans mapError_eq_error_iff

/-- A load from a store is one of what the store gives. -/
theorem run_loadCache (r : Registry) (store : σ) (append : Bool) :
    (Call.loadCache store append).run r =
      match Store.load store cacheKey with
      | .error e => (r, .error (.store e))
      | .ok blob => (.load blob append : Call σ).run r := by
  rw [Call.run, loadCache]
  cases Store.load store cacheKey <;> rfl

theorem run_of_given {c : Call σ} {blob : Option ByteArray} (h : c.given? = some (.ok blob))
    (r : Registry) :
    ∃ append, c.run r = ((r.load blob append).1, (r.load blob append).2.map .flag) := by
  cases c with
  | load blob append =>
    cases h
    exact ⟨append, rfl⟩
  | loadCache store append =>
    have hstore := Option.some.inj h
    refine ⟨append, ?_⟩
    rw [run_loadCache, hstore]
    rfl
  | _ => cases h

theorem fails_of_load {r : Registry} {c : Call σ} {blob : Option ByteArray} {append : Bool}
    {e : RegistryError} (hgiven : c.given? = some (.ok blob))
    (h : (r.load blob append).2 = .error e) : c.Fails r e := by
  obtain ⟨bytes, snapshot, rfl, hread, hrebuild⟩ := load_eq_error_iff.1 h
  obtain ⟨done, source, rest, hroutes, hdone, hsource⟩ := rebuildAll_eq_error_iff.1 hrebuild
  exact .rebuild hgiven hread hroutes hdone hsource

theorem fails_of_run {r : Registry} {c : Call σ} {e : RegistryError} (h : (c.run r).2 = .error e) :
    c.Fails r e := by
  cases c with
  | compile text overrides =>
    obtain ⟨cause, hcompile, rfl⟩ := mapError_eq_error_iff.1 (map_eq_error_iff.1 h)
    exact .compile hcompile
  | register name route =>
    rw [Call.run, register_eq] at h
    cases hrefuses : r.refuses name with
    | true =>
      obtain ⟨hname, hpolicy⟩ := Bool.and_eq_true_iff.1 hrefuses
      rw [hrefuses] at h
      cases h
      exact .taken hname (beq_iff_eq.1 hpolicy)
    | false =>
      rw [hrefuses] at h
      cases h
  | registerFilter f => cases h
  | get name =>
    obtain ⟨hname, rfl⟩ := get_eq_error_iff.1 (map_eq_error_iff.1 h)
    exact .unknown rfl hname
  | isExternal name =>
    obtain ⟨hname, rfl⟩ := get_eq_error_iff.1 (map_eq_error_iff.1 (map_eq_error_iff.1 h))
    exact .unknown rfl hname
  | uri name params =>
    rcases link_eq_error_iff.1 (map_eq_error_iff.1 h) with ⟨hname, rfl⟩ | ⟨_, hname, _, hlink, rfl⟩
    · exact .unknown rfl hname
    · exact .uri hname hlink
  | url name params protocol =>
    rcases link_eq_error_iff.1 (map_eq_error_iff.1 h) with ⟨hname, rfl⟩ | ⟨_, hname, _, hlink, rfl⟩
    · exact .unknown rfl hname
    · exact .url hname hlink
  | save => cases h
  | load blob append => exact fails_of_load rfl (map_eq_error_iff.1 h)
  | saveCache store =>
    obtain ⟨cause, hsave, rfl⟩ := run_saveCache_eq_error_iff.1 h
    exact .unsaved hsave
  | loadCache store append =>
    rw [run_loadCache] at h
    cases hstore : Store.load store cacheKey with
    | error cause =>
      rw [hstore] at h
      cases h
      exact .unread (congrArg some hstore)
    | ok blob =>
      rw [hstore] at h
      exact fails_of_load (congrArg some hstore) (map_eq_error_iff.1 h)

theorem run_of_fails {r : Registry} {c : Call σ} {e : RegistryError} (h : c.Fails r e) :
    (c.run r).2 = .error e := by
  cases h with
  | compile h =>
    exact map_eq_error_iff.2 (mapError_eq_error_iff.2 ⟨_, h, rfl⟩)
  | @taken name route hname hpolicy =>
    have hrefuses : r.refuses name = true :=
      Bool.and_eq_true_iff.2 ⟨hname, beq_iff_eq.2 hpolicy⟩
    rw [Call.run, register_eq, hrefuses]
    rfl
  | unknown hasked hname =>
    have hget := get_eq_error_iff.2 ⟨hname, rfl⟩
    cases c with
    | get name => 
      cases hasked
      exact map_eq_error_iff.2 hget
    | isExternal name => 
      cases hasked
      exact map_eq_error_iff.2 (map_eq_error_iff.2 hget)
    | uri name params =>
      cases hasked
      exact map_eq_error_iff.2 (link_eq_error_iff.2 (.inl ⟨hname, rfl⟩))
    | url name params protocol =>
      cases hasked
      exact map_eq_error_iff.2 (link_eq_error_iff.2 (.inl ⟨hname, rfl⟩))
    | compile | register | registerFilter | save | load | saveCache | loadCache => cases hasked
  | uri hname h =>
    exact map_eq_error_iff.2 (link_eq_error_iff.2 (.inr ⟨_, hname, _, h, rfl⟩))
  | url hname h =>
    exact map_eq_error_iff.2 (link_eq_error_iff.2 (.inr ⟨_, hname, _, h, rfl⟩))
  | rebuild hgiven hread hroutes hdone hsource =>
    have hrebuild := rebuildAll_eq_error_iff.2 ⟨_, _, _, hroutes, hdone, hsource⟩
    obtain ⟨append, hrun⟩ := run_of_given hgiven r
    rw [hrun]
    exact map_eq_error_iff.2 (load_eq_error_iff.2 ⟨_, _, rfl, hread, hrebuild⟩)
  | unread hgiven =>
    cases c with
    | loadCache store append =>
      have hstore := Option.some.inj hgiven
      rw [run_loadCache, hstore]
    | _ => cases hgiven
  | unsaved h => exact run_saveCache_eq_error_iff.2 ⟨_, h, rfl⟩

/-! ## What is left -/

/-- What a call that fails leaves of a registry: all of it, but a snapshot that the store did not keep
counts as written. -/
def Call.left (r : Registry) : Call σ → Registry
  | .saveCache _ => { r with metrics := r.metrics.recordSave }
  | _ => r

theorem run_of_error {r : Registry} {c : Call σ} {e : RegistryError}
    (h : (c.run r).2 = .error e) : (c.run r).1 = c.left r := by
  cases c with
  | register name route =>
    rw [Call.run] at h ⊢
    split at h
    · rfl
    · cases h
  | load blob append => exact load_of_error (map_eq_error_iff.1 h)
  | loadCache store append =>
    rw [run_loadCache] at h ⊢
    cases hstore : Store.load store cacheKey with
    | error cause => rfl
    | ok blob =>
      rw [hstore] at h
      exact load_of_error (map_eq_error_iff.1 h)
  | saveCache store => rw [run_saveCache, Call.left]
  | registerFilter | save => cases h
  | compile | get | isExternal | uri | url => rfl

/-- A call fails for just the reasons that there are, and leaves the registry as it was, but for the
count of a snapshot that a store did not keep. A load that is given nothing changes nothing, and one
of something unreadable counts that only. -/
theorem run_atomic (r : Registry) (c : Call σ) :
    (∀ e, (c.run r).2 = .error e ↔ c.Fails r e) ∧
    (∀ e, (c.run r).2 = .error e → (c.run r).1 = c.left r) ∧
    (c.given? = some (.ok none) → c.run r = (r, .ok (.flag false))) ∧
    ∀ bytes, c.given? = some (.ok (some bytes)) → Snapshot.decode? bytes = none →
      c.run r = ({ r with metrics := r.metrics.recordReject }, .ok (.flag false)) := by
  refine ⟨fun e => ⟨fails_of_run, run_of_fails⟩, fun e => run_of_error, fun hgiven => ?_,
    fun bytes hgiven hread => ?_⟩
  · obtain ⟨append, hrun⟩ := run_of_given hgiven r
    exact hrun
  · obtain ⟨append, hrun⟩ := run_of_given hgiven r
    rw [hrun, load_of_unreadable hread]
    rfl

/-- A store that fails at everything. -/
structure BrokenStore where
  reason : String

instance : Store BrokenStore where
  save s key _ := .error ⟨key, s.reason⟩
  load s key := .error ⟨key, s.reason⟩

/-- A name that is taken, a filter that is missing behind a route that was rebuilt, and a full disk. -/
theorem run_atomic_posts :
    ∃ route : Route, Route.compile "posts" ∅ = .ok route ∧
      let gate : Filter := ⟨"gate", fun _ _ _ => .reject⟩
      let r := ({ owner := 0, options := { duplicatePolicy := .reject } } : Registry).put "posts" route
      let stored := Snapshot.ofRoutes
        [.ofRoute "posts" route, .ofRoute "guarded" (route.withFilter gate)]
      let again : Call BrokenStore := .register "posts" route
      let restore : Call BrokenStore := .load (some stored.encode) false
      let keep : Call BrokenStore := .saveCache ⟨"disk full"⟩
      let absent : Call BrokenStore := .load none true
      let unreadable : Call BrokenStore := .load (some ⟨#[]⟩) true
      ((again.run r).2 = .error (.duplicateName "posts") ∧ (again.run r).1 = r) ∧
      ((restore.run r).2 = .error (.unknownFilter "guarded" "gate") ∧ (restore.run r).1 = r) ∧
      ((keep.run r).2 = .error (.store ⟨cacheKey, "disk full"⟩) ∧
        (keep.run r).1 = { r with metrics := r.metrics.recordSave }) ∧
      absent.run r = (r, .ok (.flag false)) ∧
      unreadable.run r = ({ r with metrics := r.metrics.recordReject }, .ok (.flag false)) := by
  obtain ⟨route, hroute⟩ : ∃ route, Route.compile "posts" ∅ = .ok route :=
    exists_of_isOk (by decide +kernel)
  refine ⟨route, hroute, ?_⟩
  intro gate r stored again restore keep absent unreadable
  have hfilters : route.filters = [] := Route.filters_of_compileWith hroute
  have hfirst : ∃ s, (RouteSource.ofRoute "posts" route).rebuild r.options r.catalog = .ok s :=
    ⟨_, RouteSource.rebuild_ofRoute (by simp [Route.filterIds, hfilters]) ..⟩
  have hsecond : (RouteSource.ofRoute "guarded" (route.withFilter gate)).rebuild r.options
      r.catalog = .error (.unknownFilter "guarded" "gate") := by
    have hids : (RouteSource.ofRoute "guarded" (route.withFilter gate)).filters = ["gate"] := by
      simp [RouteSource.ofRoute, Route.filterIds, Route.withFilter, hfilters, gate]
    rw [RouteSource.rebuild, hids]
    split
    · rename_i e he
      cases (Template.compile_overlay route.compiled route.overrides _).symm.trans he
    · rfl
  have hroutes : stored.routes = [.ofRoute "posts" route] ++
      .ofRoute "guarded" (route.withFilter gate) :: [] := rfl
  have hread : Snapshot.decode? stored.encode = some stored :=
    (Snapshot.decode?_encode stored).trans (if_pos rfl)
  have hagain := (run_atomic r again).1 (.duplicateName "posts") |>.2 (.taken rfl rfl)
  have hrestore := (run_atomic r restore).1 (.unknownFilter "guarded" "gate") |>.2
    (.rebuild rfl hread hroutes (by simpa using hfirst) hsecond)
  have hkeep := (run_atomic r keep).1 (.store ⟨cacheKey, "disk full"⟩) |>.2 (.unsaved rfl)
  exact ⟨⟨hagain, (run_atomic r again).2.1 _ hagain⟩, ⟨hrestore, (run_atomic r restore).2.1 _ hrestore⟩,
    ⟨hkeep, (run_atomic r keep).2.1 _ hkeep⟩, (run_atomic r absent).2.2.1 rfl,
    (run_atomic r unreadable).2.2.2 _ rfl (by decide)⟩

end Registry

end Signpost
