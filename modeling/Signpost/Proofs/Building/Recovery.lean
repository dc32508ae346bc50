import Signpost.Proofs.Building.RoundTrip
import Signpost.Proofs.Matching.Determined

/-!
# What matching recovers of a built path

A path that tidying leaves alone is one that its template reads, each placeholder in it reading the
text that was written for it, as long as these texts are segments (`written_derives`). So a route
matches what is built from it. A value comes back if the path determines its placeholder, as it was
written: encoded if it is part of the path, and as it is if it is the default of a group that was
left out (`Route.match?_written`).

Nothing less will do. An encoded value is not decoded, a value with a separator in it is no segment,
and a path that can be read in two ways is read in the first one (`Route.match?_lossy`).
-/

namespace Signpost

/-! ## Paths that are tidy -/

/-- A path that tidying leaves alone has no slash at its ends. -/
theorem Path.trim_of_tidy {path : String} (h : tidy path = path) : trim path.toList = path.toList :=
  (h ▸ isTidy_tidy path : IsTidy path).trim_eq

namespace Template

section
variable {defaults params : Params}

/-! ## Reading what is written -/

/-- A template reads what is written for it, if the texts of its placeholders are segments. -/
theorem written_derives {t : Template}
    (h : ∀ p ∈ t.needed defaults params, IsSegment (valueChars defaults params p))
    (rest : List Char) :
    t.Derives ((t.written defaults params).toList ++ rest)
      ((t.needed defaults params).map fun p => (p, valueText defaults params p)) rest := by
  induction t generalizing rest with
  | empty => exact .empty
  | literal text t ih =>
    rw [written, String.toList_append, List.append_assoc]
    exact .literal (ih h rest)
  | placeholder name position t ih =>
    obtain ⟨hv, ht⟩ := List.forall_mem_cons.1 h
    rw [written, String.toList_append, List.append_assoc, needed, List.map_cons]
    have hread : (placeholder name position t).Derives _ _ rest := .placeholder hv (ih ht rest)
    rwa [valueChars, String.ofList_toList] at hread
  | group body t ihb ihr =>
    rw [needed] at h ⊢
    obtain ⟨hb, ht⟩ := List.forall_mem_append.1 h
    rw [written, String.toList_append, List.append_assoc, List.map_append]
    split
    · rename_i hactive
      rw [if_pos hactive] at hb
      exact .present (ihb hb _) (ihr ht rest)
    · exact .absent (ihr ht rest)

/-- A placeholder that is left out is not specified. -/
theorem specified_eq_false {t : Template} {p : String} (hp : p ∈ t.names)
    (hnot : p ∉ t.needed defaults params) : specified defaults params p = false := by
  induction t with
  | empty => cases hp
  | literal text t ih => exact ih hp hnot
  | placeholder name position t ih =>
    rw [needed, List.mem_cons, not_or] at hnot
    rcases List.mem_cons.1 hp with rfl | hp
    · exact absurd rfl hnot.1
    · exact ih hp hnot.2
  | group body t ihb ihr =>
    rw [needed, List.mem_append, not_or] at hnot
    rw [names_group] at hp
    rcases List.mem_append.1 hp with hp | hp
    · cases hactive : body.active defaults params with
      | true =>
        rw [if_pos hactive] at hnot
        exact ihb hp hnot.1
      | false => exact Bool.eq_false_iff.2 (List.any_eq_false.1 hactive p hp)
    · exact ihr hp hnot.2

/-- If what is written is one way to read a path, and the path determines a placeholder, then any way
to read it gives the placeholder its value: encoded if it is written, and else as it is. -/
theorem get?_overlay_of_determines {t : Template} {cs : List Char}
    {values : List (String × String)} {p v : String} (hnames : t.names.Nodup)
    (hread : t.Derives cs values [])
    (hwritten : t.Derives cs
      ((t.needed defaults params).map fun p => (p, valueText defaults params p)) [])
    (hp : p ∈ t.names) (hv : params.get? p = some v) (hdet : t.Determines cs p) :
    (defaults.overlay (.ofList values)).get? p =
      some (if p ∈ t.needed defaults params then Percent.encode v else v) := by
  have hnd : (values.map (·.1)).Nodup := hnames.sublist hread.names_sublist
  rw [Dict.get?_overlay]
  split
  · rename_i hneeded
    have hmem : (p, valueText defaults params p) ∈ values :=
      hdet _ _ hwritten hread _ (List.mem_map.2 ⟨p, hneeded, rfl⟩)
    have hvalue : valueText defaults params p = Percent.encode v := by simp [valueText, hv]
    rw [(Dict.get?_ofList_eq_some_iff hnd).2 hmem, hvalue]
    rfl
  · rename_i hneeded
    -- the placeholder was left out, so its value is its default, and it reads nothing
    have hdefault : defaults.get? p = some v := by
      have hspecified := specified_eq_false hp hneeded
      simpa [specified, hv] using hspecified
    have hnone : (Dict.ofList values).get? p = none := by
      refine Option.eq_none_iff_forall_ne_some.2 fun text htext => hneeded ?_
      have hmem := hdet _ _ hread hwritten text ((Dict.get?_ofList_eq_some_iff hnd).1 htext)
      obtain ⟨q, hq, heq⟩ := List.mem_map.1 hmem
      cases heq
      exact hq
    rw [hnone, hdefault]
    rfl

end

end Template

namespace Route

/-- A route matches a path that is built from it, if what is written for its placeholders are
segments and tidying has nothing to do. A supplied value that the path determines comes back: encoded
if it is in the path, and else as it is. -/
theorem match?_written {text : String} {r : Route} {params : Params}
    (hcompile : Template.compile text ∅ defaultSegment = .ok r.compiled)
    (hfilters : r.filters = [])
    (hbuild : r.buildPath params = .ok (r.compiled.template.written r.defaults params))
    (hvalues : ∀ p ∈ r.compiled.template.needed r.defaults params, ∀ v, params.get? p = some v →
      v ≠ "" ∧ '/' ∉ v.toList ∧ '.' ∉ v.toList)
    (hdefaults : ∀ p ∈ r.compiled.template.needed r.defaults params, params.get? p = none →
      ∀ d, r.defaults.get? p = some d → Template.IsSegment d.toList)
    (method : Method) :
    let path := r.compiled.template.written r.defaults params
    ∃ m, r.match? path method = some m ∧
      ∀ p ∈ r.names, ∀ v, params.get? p = some v →
        r.compiled.template.Determines path.toList p →
        m.get? p = some (if p ∈ r.compiled.template.needed r.defaults params then Percent.encode v
          else v) := by
  intro path
  obtain ⟨hlacking, htidy⟩ := buildPath_eq_ok hbuild
  have hwritten := Template.written_derives (fun p hp => Template.isSegment_valueChars
    (Template.lacks_of_mem_needed hlacking hp) (hdefaults p hp) (hvalues p hp)) []
  rw [List.append_nil] at hwritten
  have hmatch := match?_eq_map hcompile hfilters path method
  rw [Path.trim_of_tidy htidy.symm] at hmatch
  cases hderive : r.compiled.template.derive? path.toList with
  | none => exact absurd ⟨_, hwritten⟩ (Template.derive?_eq_none_iff.1 hderive)
  | some values =>
    rw [hderive, Option.map_some] at hmatch
    refine ⟨_, hmatch, fun p hp v hv hdet => ?_⟩
    exact Template.get?_overlay_of_determines (Template.names_nodup r.compiled.parsed)
      (Template.derives_of_derive? hderive) hwritten hp hv hdet

/-- The format is its default, so it is left out of the path, and comes back with the others. -/
theorem match?_written_page :
    ∃ r : Route, Template.compile "<a>(/<b>)(.<c>)" ∅ defaultSegment = .ok r.compiled ∧
      r.buildPath (Dict.ofList [("a", "x y"), ("b", "docs"), ("c", "html")]) =
        .ok "x%20y/docs" ∧
      ∃ m, r.match? "x%20y/docs" .get = some m ∧ m.get? "a" = some "x%20y" ∧
        m.get? "b" = some "docs" ∧ m.get? "c" = some "html" := by
  let defaults : Params := Dict.ofList [("c", "html")]
  let params : Params := Dict.ofList [("a", "x y"), ("b", "docs"), ("c", "html")]
  let t : Template :=
    .placeholder "a" 0 (.group (.literal "/" (.placeholder "b" 5 .empty))
      (.group (.literal "." (.placeholder "c" 11 .empty)) .empty))
  have hrun : (Template.compile "<a>(/<b>)(.<c>)" ∅ defaultSegment).toOption.map (fun c =>
      (c.template, (Route.buildPath ⟨⟨c, ∅, defaults⟩, []⟩ params).toOption)) =
      some (t, some "x%20y/docs") := by
    decide +kernel
  obtain ⟨c, hc, hrun⟩ := Option.map_eq_some_iff.1 hrun
  obtain ⟨ht, hpath⟩ := Prod.mk.inj hrun
  have hcompile := eq_ok_of_toOption hc
  have hbuild := eq_ok_of_toOption hpath
  have hneeded : c.template.needed defaults params = ["a", "b"] := ht ▸ by decide +kernel
  have hwritten : c.template.written defaults params = "x%20y/docs" := ht ▸ by decide +kernel
  have hvalues : ∀ p ∈ c.template.needed defaults params, ∀ v, params.get? p = some v →
      v ≠ "" ∧ '/' ∉ v.toList ∧ '.' ∉ v.toList := by
    rw [hneeded]
    intro p _ v hv
    have hmem := (Dict.get?_ofList_eq_some_iff (by simp)).1 hv
    simp only [List.mem_cons, List.not_mem_nil, or_false, Prod.mk.injEq] at hmem
    rcases hmem with ⟨-, rfl⟩ | ⟨-, rfl⟩ | ⟨-, rfl⟩ <;> decide
  have hdefaults : ∀ p ∈ c.template.needed defaults params, params.get? p = none →
      ∀ d, defaults.get? p = some d → Template.IsSegment d.toList := by
    rw [hneeded]
    intro p hp hnone
    rcases List.mem_cons.1 hp with rfl | hp
    · cases hnone
    · obtain rfl := List.mem_singleton.1 hp
      cases hnone
  have hdet : ∀ p, c.template.Determines (c.template.written defaults params).toList p :=
    Template.determines_of_delimited (ht ▸ by decide) _
  obtain ⟨m, hmatch, hget⟩ := match?_written (r := ⟨⟨c, ∅, defaults⟩, []⟩) hcompile rfl
    (hbuild.trans (congrArg _ hwritten.symm)) hvalues hdefaults .get
  have hnames : c.template.names = ["a", "b", "c"] := ht ▸ rfl
  have hmem : ∀ p, p ∈ ["a", "b", "c"] → p ∈ c.template.names := fun p hp => hnames ▸ hp
  simp only [hwritten, hneeded] at hmatch hget
  refine ⟨_, hcompile, hbuild, m, hmatch, ?_, ?_, ?_⟩
  · exact (hget "a" (hmem _ (by decide)) "x y" rfl (hwritten ▸ hdet "a")).trans rfl
  · exact (hget "b" (hmem _ (by decide)) "docs" rfl (hwritten ▸ hdet "b")).trans rfl
  · exact (hget "c" (hmem _ (by decide)) "html" rfl (hwritten ▸ hdet "c")).trans rfl

/-- Some parameters make a path, which tidying leaves alone, and the path is matched with others. -/
structure Returns (r : Route) (params : Params) (path : String) (found : Option Params) : Prop where
  written : r.compiled.template.written r.defaults params = path
  built : r.buildPath params = .ok path
  found : r.match? path .get = found

/-- What is built may be matched with another value, with none at all, or with values that are cut
in another place. -/
theorem match?_lossy :
    ∃ r s : Route, Route.compile "<a>" ∅ = .ok r ∧ Route.compile "<a><b>" ∅ = .ok s ∧
      r.Returns (Dict.ofList [("a", "x y")]) "x%20y"
        (some (Dict.ofList [("a", "x%20y"), ("action", "index")])) ∧
      r.Returns (Dict.ofList [("a", "v1.2")]) "v1.2" none ∧
      s.Returns (Dict.ofList [("a", "x"), ("b", "yz")]) "xyz"
        (some (Dict.ofList [("a", "xy"), ("b", "z"), ("action", "index")])) := by
  have hr : (Route.compile "<a>" ∅).toOption.map (fun r =>
      ((r.compiled.template.written r.defaults (Dict.ofList [("a", "x y")]),
        (r.buildPath (Dict.ofList [("a", "x y")])).toOption, r.match? "x%20y" .get),
      r.compiled.template.written r.defaults (Dict.ofList [("a", "v1.2")]),
        (r.buildPath (Dict.ofList [("a", "v1.2")])).toOption, r.match? "v1.2" .get)) =
      some (("x%20y", some "x%20y", some (Dict.ofList [("a", "x%20y"), ("action", "index")])),
        "v1.2", some "v1.2", none) := by
    decide +kernel
  have hs : (Route.compile "<a><b>" ∅).toOption.map (fun s =>
      (s.compiled.template.written s.defaults (Dict.ofList [("a", "x"), ("b", "yz")]),
        (s.buildPath (Dict.ofList [("a", "x"), ("b", "yz")])).toOption, s.match? "xyz" .get)) =
      some ("xyz", some "xyz",
        some (Dict.ofList [("a", "xy"), ("b", "z"), ("action", "index")])) := by
    decide +kernel
  obtain ⟨r, hr, hone⟩ := Option.map_eq_some_iff.1 hr
  obtain ⟨s, hs, htwo⟩ := Option.map_eq_some_iff.1 hs
  simp only [Prod.mk.injEq] at hone htwo
  obtain ⟨⟨hwritten, hbuilt, hfound⟩, hwritten', hbuilt', hfound'⟩ := hone
  obtain ⟨hwritten'', hbuilt'', hfound''⟩ := htwo
  exact ⟨r, s, eq_ok_of_toOption hr, eq_ok_of_toOption hs,
    ⟨hwritten, eq_ok_of_toOption hbuilt, hfound⟩,
    ⟨hwritten', eq_ok_of_toOption hbuilt', hfound'⟩,
    ⟨hwritten'', eq_ok_of_toOption hbuilt'', hfound''⟩⟩

end Route

end Signpost
