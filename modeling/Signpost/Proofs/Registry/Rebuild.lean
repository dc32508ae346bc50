import Signpost.Except
import Signpost.Proofs.Registry.Restore

/-!
# Stored routes settle

A stored route need not come from a route that there was: it can lack the pattern of a placeholder,
or have patterns for names that its template does not have. What is stored of the rebuilt route has
just the patterns that the placeholders were compiled with, and all else as it was
(`ofRoute_eq_normalForm`). This form is settled: it is rebuilt under all settings, to a route of
which it is stored again (`rebuild_settles`).
-/

namespace Signpost.RouteSource

open Template (parse)

variable {s : RouteSource} {options : Options} {catalog : Catalog} {r : Route}

/-- The pattern that a placeholder of a stored route is compiled with: the stored one, or else its
override, or else that of the settings. -/
def patternFor (s : RouteSource) (options : Options) (name : String) : String :=
  ((s.patterns.get? name).or (s.overrides.get? name)).getD options.defaultSegment

/-- A stored route whose placeholders, and nothing else, have the patterns that they are compiled
with. -/
def normalForm (s : RouteSource) (options : Options) (t : Template) : RouteSource :=
  { s with patterns := .ofList (t.names.map fun name => (name, s.patternFor options name)) }

theorem mem_keys_normalForm {t : Template} {name : String} :
    name ∈ (s.normalForm options t).patterns.keys ↔ name ∈ t.names := by
  rw [Dict.mem_keys, normalForm, Dict.contains_ofList]
  simp

/-- Which settings are at hand does not matter to the normal form. -/
theorem normalForm_normalForm (s : RouteSource) (options options' : Options) (t : Template) :
    (s.normalForm options t).normalForm options' t = s.normalForm options t := by
  have hpattern : ∀ name ∈ t.names,
      (s.normalForm options t).patternFor options' name = s.patternFor options name := by
    intro name hname
    have hget : (s.normalForm options t).patterns.get? name = some (s.patternFor options name) :=
      (Dict.get?_ofList_map ..).trans (if_pos hname)
    rw [patternFor, hget, Option.some_or, Option.getD_some]
  have hpatterns :
      (t.names.map fun name => (name, (s.normalForm options t).patternFor options' name)) =
        t.names.map fun name => (name, s.patternFor options name) :=
    List.map_congr_left fun name hname => by rw [hpattern name hname]
  rw [normalForm, hpatterns]
  rfl

/-! ## What rebuilding gives -/

/-- Filters are attached just if the catalog has them all. -/
theorem attach_eq_ok_iff (name : String) {ids : List String} {fs : List Filter} :
    attach name catalog ids = .ok fs ↔
      (∀ id ∈ ids, catalog.contains id = true) ∧ fs = ids.filterMap catalog.get? := by
  constructor
  · intro h
    have hids : ∀ id ∈ ids, catalog.contains id = true := by
      induction ids generalizing fs with
      | nil => simp
      | cons id ids ih =>
        rw [attach] at h
        split at h
        · cases h
        · rename_i f hf
          cases hrest : attach name catalog ids with
          | error e => simp [hrest, Except.map] at h
          | ok gs => exact List.forall_mem_cons.2 ⟨Dict.contains_iff.2 ⟨f, hf⟩, ih hrest⟩
    rw [attach_eq_ok hids, Except.ok.injEq] at h
    exact ⟨hids, h.symm⟩
  · rintro ⟨hids, rfl⟩
    exact attach_eq_ok hids name

/-- A rebuilt route is compiled with the stored patterns over the overrides, and has the overrides,
the defaults and the filters that are stored. -/
theorem rebuild_eq_ok_iff :
    s.rebuild options catalog = .ok r ↔
      Template.compile s.template (s.overrides.overlay s.patterns) options.defaultSegment =
        .ok r.compiled ∧
      r.overrides = s.overrides ∧ r.defaults = s.defaults ∧
      (∀ id ∈ s.filters, catalog.contains id = true) ∧
      r.filters = s.filters.filterMap catalog.get? := by
  rw [← attach_eq_ok_iff s.name, rebuild]
  cases Template.compile s.template (s.overrides.overlay s.patterns) options.defaultSegment with
  | error e => simp
  | ok c =>
    cases attach s.name catalog s.filters with
    | error e => simp [Except.map]
    | ok fs =>
      obtain ⟨⟨compiled, overrides, defaults⟩, filters⟩ := r
      simp [Except.map, and_assoc, eq_comm]

theorem filterIds_of_rebuild (h : s.rebuild options catalog = .ok r) : r.filterIds = s.filters := by
  obtain ⟨-, -, -, hids, hfilters⟩ := rebuild_eq_ok_iff.1 h
  rw [Route.filterIds, hfilters, map_id_filterMap_get? hids]

/-- The stored patterns come before the overrides, and these before that of the settings. -/
theorem effective_overlay (s : RouteSource) (options : Options) (name : String) :
    Template.effective (s.overrides.overlay s.patterns) options.defaultSegment name =
      s.patternFor options name := by
  rw [Template.effective, Dict.get?_overlay, patternFor]

theorem patterns_of_rebuild (h : s.rebuild options catalog = .ok r) :
    r.patterns =
      .ofList (r.compiled.template.names.map fun name => (name, s.patternFor options name)) := by
  have hcompile := (rebuild_eq_ok_iff.1 h).1
  have hpatterns : r.patterns = r.compiled.template.effectivePatterns
      (s.overrides.overlay s.patterns) options.defaultSegment :=
    (Template.compile_eq_ok_iff.1 hcompile).2
  simpa only [Template.effectivePatterns, effective_overlay] using hpatterns

/-! ## The settled form -/

/-- What is stored of a rebuilt route is the normal form of what it was rebuilt from. -/
theorem ofRoute_eq_normalForm (h : s.rebuild options catalog = .ok r) :
    ofRoute s.name r = s.normalForm options r.compiled.template := by
  obtain ⟨-, hoverrides, hdefaults, -, -⟩ := rebuild_eq_ok_iff.1 h
  rw [ofRoute, rebuild_template h, hoverrides, hdefaults, patterns_of_rebuild h,
    filterIds_of_rebuild h]
  rfl

/-- A stored route that is rebuilt has the patterns of its placeholders from then on, and all else
as it was. Under any settings, and with any filters for its ids, it is then rebuilt to a route with
the same pattern, of which the same is stored. -/
theorem rebuild_settles (h : s.rebuild options catalog = .ok r) :
    ∃ t, parse s.template = .ok t ∧ ofRoute s.name r = s.normalForm options t ∧
      (∀ name, name ∈ (ofRoute s.name r).patterns.keys ↔ name ∈ t.names) ∧
      ∀ (options' : Options) (catalog' : Catalog),
        (∀ id, catalog'.contains id = catalog.contains id) →
          ∃ r', (s.normalForm options t).rebuild options' catalog' = .ok r' ∧
            ofRoute s.name r' = s.normalForm options t ∧ r'.source = r.source := by
  have hparse : parse s.template = .ok r.compiled.template :=
    rebuild_template h ▸ r.compiled.parsed
  refine ⟨r.compiled.template, hparse, ofRoute_eq_normalForm h, fun name => ?_,
    fun options' catalog' hsame => ?_⟩
  · rw [ofRoute_eq_normalForm h]
    exact mem_keys_normalForm
  have hids : ∀ id ∈ r.filterIds, catalog'.contains id = true := by
    intro id hid
    rw [filterIds_of_rebuild h] at hid
    rw [hsame]
    exact (rebuild_eq_ok_iff.1 h).2.2.2.1 id hid
  -- the normal form is stored of a route that there is, so it is rebuilt like any of these
  have hrebuild : (s.normalForm options r.compiled.template).rebuild options' catalog' =
      .ok (r.attached catalog') := by
    rw [← ofRoute_eq_normalForm h]
    exact rebuild_ofRoute hids s.name options'
  have hstored := ofRoute_eq_normalForm hrebuild
  exact ⟨r.attached catalog', hrebuild, hstored.trans (normalForm_normalForm ..), rfl⟩

/-- A stored route that lacks the pattern of one placeholder, has two for the other one, and has
some for names that its template does not have. -/
theorem rebuild_settles_posts :
    let gate : Filter := ⟨"gate", fun _ _ _ => .reject⟩
    let opened : Filter := ⟨"gate", fun _ _ _ => .keep⟩
    let s : RouteSource :=
      { name := "posts", template := "posts(/<page>)(-<lang>)",
        overrides := Dict.ofList [("old", "x"), ("page", "[a-z]+")],
        patterns := Dict.ofList [("page", "[0-9]+"), ("stray", "(")], defaults := ∅,
        filters := ["gate"] }
    let settled : RouteSource :=
      { s with patterns := Dict.ofList [("lang", "[a-z]+"), ("page", "[0-9]+")] }
    ∃ r r', s.rebuild { defaultSegment := "[a-z]+" } (Catalog.empty.register gate) = .ok r ∧
      ofRoute "posts" r = settled ∧
      settled.rebuild { defaultSegment := "[" } (Catalog.empty.register opened) = .ok r' ∧
      ofRoute "posts" r' = settled ∧ r'.source = r.source := by
  intro gate opened s settled
  let options : Options := { defaultSegment := "[a-z]+" }
  let t : Template := .literal "posts" (.group (.literal "/" (.placeholder "page" 7 .empty))
    (.group (.literal "-" (.placeholder "lang" 16 .empty)) .empty))
  have hok : (s.rebuild options (Catalog.empty.register gate)).isOk = true := by decide +kernel
  obtain ⟨r, hr⟩ := exists_of_isOk hok
  obtain ⟨t', ht', hstored, -, hsettles⟩ := rebuild_settles hr
  have hparse : parse "posts(/<page>)(-<lang>)" = .ok t := by decide +kernel
  cases hparse.symm.trans ht'
  have hform : s.normalForm options t = settled := by decide
  rw [hform] at hstored hsettles
  have hsame : ∀ id, (Catalog.empty.register opened).contains id =
      (Catalog.empty.register gate).contains id := by
    intro id
    show ((Catalog.empty.register opened).get? id).isSome =
      ((Catalog.empty.register gate).get? id).isSome
    rw [Catalog.get?_register, Catalog.get?_register]
    by_cases hid : id = "gate" <;> simp [hid, gate, opened]
  obtain ⟨r', hr', hstored', hsource⟩ := hsettles { defaultSegment := "[" } _ hsame
  exact ⟨r, r', hr, hstored, hr', hstored', hsource⟩

end Signpost.RouteSource
