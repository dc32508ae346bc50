import Signpost.Proofs.Building.Reference
import Signpost.Proofs.Matching.Agreement

/-!
# Building from a match

The parameters of a match make a path again (`buildPath_of_match?`). Whatever values a match adds to
the defaults come from placeholders that it read. So a group that is active when the path is built
was read by the match, with everything that stands directly in it (`Derives.mem_of_mem_needed`).
-/

namespace Signpost

namespace Template

variable {defaults params : Params}

/-- If just placeholders that were read are specified, then those that are needed were read. -/
theorem Derives.mem_of_mem_needed {t : Template} {cs out : List Char}
    {values : List (String × String)} (h : t.Derives cs values out) (hnames : t.names.Nodup)
    (hspecified : ∀ n ∈ t.names, specified defaults params n = true → n ∈ values.map (·.1)) :
    ∀ n ∈ t.needed defaults params, n ∈ values.map (·.1) := by
  induction h with
  | empty => exact fun n hn => nomatch hn
  | literal _ ih => exact ih hnames hspecified
  | @placeholder name position rest value _ values _ _ _ ih =>
    obtain ⟨hnew, hrest⟩ := List.nodup_cons.1 hnames
    refine List.forall_mem_cons.2 ⟨List.mem_cons_self, fun n hn => List.mem_cons_of_mem _ ?_⟩
    refine ih hrest (fun m hm hs => ?_) n hn
    rcases List.mem_cons.1 (hspecified m (List.mem_cons_of_mem _ hm) hs) with rfl | hm'
    · exact absurd hm hnew
    · exact hm'
  | @present body rest _ _ _ values values' hb hr ihb ihr =>
    rw [names_group] at hnames hspecified
    obtain ⟨hnamesb, hnamesr, hdisjoint⟩ := List.nodup_append.1 hnames
    rw [List.map_append] at hspecified ⊢
    intro n hn
    rcases List.mem_append.1 hn with hn | hn
    · split at hn
      · refine List.mem_append_left _ (ihb hnamesb (fun m hm hs => ?_) n hn)
        refine (List.mem_append.1 (hspecified m (List.mem_append_left _ hm) hs)).resolve_right ?_
        exact fun hm' => hdisjoint m hm m (hr.names_sublist.subset hm') rfl
      · cases hn
    · refine List.mem_append_right _ (ihr hnamesr (fun m hm hs => ?_) n hn)
      refine (List.mem_append.1 (hspecified m (List.mem_append_right _ hm) hs)).resolve_left ?_
      exact fun hm' => hdisjoint m (hb.names_sublist.subset hm') m hm rfl
  | @absent body rest _ _ _ hr ih =>
    rw [names_group] at hnames hspecified
    obtain ⟨-, hnamesr, hdisjoint⟩ := List.nodup_append.1 hnames
    -- nothing in the group was read, so nothing in it is specified
    have hinactive : body.active defaults params = false := by
      refine List.any_eq_false.2 fun m hm hs => ?_
      have hread := hspecified m (List.mem_append_left _ hm) hs
      exact hdisjoint m hm m (hr.names_sublist.subset hread) rfl
    intro n hn
    rw [needed, hinactive, if_neg Bool.false_ne_true, List.nil_append] at hn
    exact ih hnamesr (fun m hm => hspecified m (List.mem_append_right _ hm)) n hn

/-- A value that is laid over the defaults was read. -/
theorem mem_of_specified_overlay {values : List (String × String)} {n : String}
    (h : specified defaults (defaults.overlay (.ofList values)) n = true) :
    n ∈ values.map (·.1) := by
  rw [← Dict.contains_ofList]
  unfold specified at h
  rw [Dict.get?_overlay] at h
  cases hread : (Dict.ofList values).get? n with
  | some value => simp [Dict.contains, hread]
  | none =>
    rw [hread, Option.none_or, Option.any_eq_true] at h
    obtain ⟨value, hvalue, hne⟩ := h
    simp [hvalue] at hne

/-- Nothing is lacking for the values that were read, laid over the defaults. -/
theorem Derives.lacking_eq_nil {t : Template} {cs out : List Char}
    {values : List (String × String)} (h : t.Derives cs values out) (hnames : t.names.Nodup) :
    t.lacking defaults (defaults.overlay (.ofList values)) = [] := by
  refine List.filter_eq_nil_iff.2 fun n hn => ?_
  have hread : n ∈ values.map (·.1) :=
    h.mem_of_mem_needed hnames (fun m _ hs => mem_of_specified_overlay hs) n hn
  have hcontains : (defaults.overlay (.ofList values)).contains n = true :=
    Dict.contains_overlay.2 (.inl (Dict.contains_ofList.2 hread))
  simp [lacks, hcontains]

end Template

namespace Route

/-- The parameters of a match make a path: what is written for the template with them, without empty
segments. -/
theorem buildPath_of_match? {text : String} {r : Route}
    (hcompile : Template.compile text ∅ defaultSegment = .ok r.compiled) (hfilters : r.filters = [])
    {path : String} {method : Method} {params : Params}
    (hmatch : r.match? path method = some params) :
    r.buildPath params =
      .ok (Path.tidy (r.compiled.template.written r.defaults params)) := by
  rw [match?_eq_map hcompile hfilters, Option.map_eq_some_iff] at hmatch
  obtain ⟨values, hderive, rfl⟩ := hmatch
  have hlacking : r.compiled.template.lacking r.defaults
      (r.defaults.overlay (.ofList values)) = [] :=
    (Template.derives_of_derive? hderive).lacking_eq_nil (Template.names_nodup r.compiled.parsed)
  rcases buildPath_cases r (r.defaults.overlay (.ofList values)) with ⟨-, hpath⟩ | ⟨name, hmem, -⟩
  · exact hpath
  · rw [hlacking] at hmem
    cases hmem

/-- The page is its default, but the format behind it needs it. -/
theorem buildPath_of_match?_nested :
    ∃ r : Route, Template.compile "blog(/<page>(.<format>))" ∅ defaultSegment = .ok r.compiled ∧
      r.defaults = Dict.ofList [("action", "index"), ("page", "1")] ∧
      ∃ params, r.match? "/blog/1.rss/" .get = some params ∧ params.get? "action" = some "index" ∧
        r.buildPath params = .ok "blog/1.rss" := by
  let defaults : Params := Dict.ofList [("action", "index"), ("page", "1")]
  let values : List (String × String) := [("page", "1"), ("format", "rss")]
  let t : Template := .literal "blog" (.group (.literal "/" (.placeholder "page" 6
    (.group (.literal "." (.placeholder "format" 14 .empty)) .empty))) .empty)
  have hrun : (Template.compile "blog(/<page>(.<format>))" ∅ defaultSegment).toOption.map
      (·.template) = some t := by decide +kernel
  obtain ⟨c, hcompile, ht⟩ := exists_of_map_toOption hrun
  let r : Route := ⟨⟨c, ∅, defaults⟩, []⟩
  have hderive : t.derive? (Path.trim "/blog/1.rss/".toList) = some values := by decide +kernel
  have hmatch : r.match? "/blog/1.rss/" .get = some (defaults.overlay (.ofList values)) := by
    rw [match?_eq_map hcompile rfl, show r.compiled.template = t from ht, hderive]
    rfl
  have hwritten : Path.tidy (t.written defaults (defaults.overlay (.ofList values))) =
      "blog/1.rss" := by decide +kernel
  refine ⟨r, hcompile, rfl, _, hmatch, by decide +kernel, ?_⟩
  rw [buildPath_of_match? hcompile rfl hmatch, show r.compiled.template = t from ht, hwritten]

end Route

end Signpost
