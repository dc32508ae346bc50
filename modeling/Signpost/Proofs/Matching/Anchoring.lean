import Signpost.Proofs.Matching.Agreement
import Signpost.Proofs.Regex.Standalone

/-!
# Patterns of placeholders do not loosen the route

The pattern of a placeholder is accepted if it is one between parentheses, and it is put between
parentheses into the pattern of the route. That is too little: `a)|(?:b` passes, and closes the group
of the placeholder from inside. If every pattern is one by itself too, the pattern of the route is a
sequence between the ends of the text with a group for each placeholder outside of all groups
(`regex_of_standsAlone`), so a match is whole and has all required parameters (`match?_anchored`).
-/

namespace Signpost

open Regex

namespace Regex

/-! ## Reading -/

/-- A pattern between the ends of the text is read from inside of the parentheses. -/
theorem ofString?_anchor (p : String) :
    ofString? (anchor p) = parseFrom (started.inside none) 0 (p.toList ++ [')', '$']) := by
  have hanchor : (anchor p).toList = '^' :: ("(?:".toList ++ (p.toList ++ [')', '$'])) := by
    simp [anchor]
  rw [ofString?, parse?, hanchor]
  exact (parseFrom_cons [] rfl).trans (parseFrom_open rfl _)

/-- A pattern that is one by itself and in parentheses is read inside of groups up to the
parenthesis that closes them. -/
theorem parseFrom_enclosed {p : String} {r₀ : Regex} (halone : ofString? p = some r₀)
    (hproper : isPattern p = true) :
    ∃ b : Reading, b.finish = some r₀ ∧ ∀ gs ns t r,
      parseFrom (Reading.within {} gs ns) 0 (p.toList ++ ')' :: t) = some r →
        parseFrom (b.within gs ns) 0 (')' :: t) = some r := by
  obtain ⟨r₁, hproper⟩ := Option.isSome_iff_exists.1 hproper
  rw [ofString?_anchor] at hproper
  exact parseFrom_within (Nat.zero_le _) halone (List.cons_ne_nil _ _) hproper

theorem step_named_taken {st : Reading} (hf : st.flags = {}) {name : String}
    (hname : Template.isName name.toList = true) (htaken : name ∈ st.names) (rest : List Char) :
    st.step '(' ("?P<".toList ++ name.toList ++ '>' :: rest) = none := by
  rw [Reading.step, if_neg (by simp [hf]), hf, readGroupHead_named hname]
  simp [Reading.openGroup, htaken]

/-- What is read between the parentheses of a placeholder becomes a group with its name. -/
theorem parseFrom_named {st : Reading} (hf : st.flags = {}) {name p : String}
    (hname : Template.isName name.toList = true) (halone : standsAlone p = true)
    (hproper : isPattern p = true) {rest : List Char} {r : Regex}
    (h : parseFrom st 0 ("(?P<".toList ++ name.toList ++ ">".toList ++ p.toList ++ ")".toList ++
      rest) = some r) :
    ∃ body depth ns,
      parseFrom (st.after [⟨.named name body, depth, true⟩] ns) 0 rest = some r := by
  have hsplit : "(?P<".toList ++ name.toList ++ ">".toList ++ p.toList ++ ")".toList ++ rest =
      '(' :: ("?P<".toList ++ name.toList ++ ['>'] ++ (p.toList ++ ')' :: rest)) := by simp
  have happ : "?P<".toList ++ name.toList ++ ['>'] ++ (p.toList ++ ')' :: rest) =
      "?P<".toList ++ name.toList ++ '>' :: (p.toList ++ ')' :: rest) := by simp
  rw [hsplit] at h
  by_cases hnew : name ∈ st.names
  · rw [parseFrom, happ, step_named_taken hf hname hnew] at h
    cases h
  · have hopen := step_named hf hname hnew (p.toList ++ ')' :: rest)
    rw [← happ] at hopen
    rw [parseFrom_cons _ hopen] at h
    obtain ⟨r₀, halone⟩ := Option.isSome_iff_exists.1 halone
    obtain ⟨b, hb, hgo⟩ := parseFrom_enclosed halone hproper
    have hb := Reading.groups_of_finish hb
    let group : OpenGroup := ⟨some name, st.branches, st.flags⟩
    have hclose : (b.within (group :: st.groups) (name :: st.names)).closeGroup =
        some (st.after [⟨.named name b.branches.close.regex, b.branches.close.depth + 1, true⟩]
          (name :: b.names.reverse)) := by
      simp [Reading.closeGroup, Reading.within, hb, Reading.after, Reading.push, Branches.push,
        group]
    have hread := hgo (group :: st.groups) (name :: st.names) rest r h
    exact ⟨_, _, _, (parseFrom_cons [] (step_close hclose rest)).symm.trans hread⟩

end Regex

namespace Template

/-- The pattern of a template is a sequence of pieces, with a group for each placeholder outside of
all groups. -/
theorem exists_pieces (t : Template) {patternOf : String → String} {st : Reading}
    (hf : st.flags = {}) (hnames : ∀ n ∈ t.names, isName n.toList = true)
    (halone : ∀ n ∈ t.names, standsAlone (patternOf n) = true)
    (hproper : ∀ n ∈ t.names, isPattern (patternOf n) = true) {rest : List Char}
    (hrest : rest.head? ≠ some '?') {r : Regex}
    (h : parseFrom st 0 ((t.pattern patternOf).toList ++ rest) = some r) :
    ∃ ps ns, parseFrom (st.after ps ns) 0 rest = some r ∧
      ∀ n ∈ t.outerNames, ∃ body, Regex.named n body ∈ ps.map (·.regex) := by
  induction t generalizing st rest with
  | empty => exact ⟨[], [], h, fun n hn => nomatch hn⟩
  | literal text t ih =>
    have hsplit : ((literal text t).pattern patternOf).toList ++ rest =
        quote text.toList ++ ((t.pattern patternOf).toList ++ rest) := by simp [pattern]
    rw [hsplit, parseFrom_quote hf] at h
    obtain ⟨ps, ns, hread, hall⟩ := ih (by exact hf) hnames halone hproper hrest h
    rw [Reading.after_after] at hread
    refine ⟨_, _, hread, fun n hn => ?_⟩
    obtain ⟨body, hbody⟩ := hall n hn
    exact ⟨body, by simp [hbody]⟩
  | placeholder name position t ih =>
    obtain ⟨hname, hnames⟩ := List.forall_mem_cons.1 hnames
    obtain ⟨hfirst, halone⟩ := List.forall_mem_cons.1 halone
    obtain ⟨hpattern, hproper⟩ := List.forall_mem_cons.1 hproper
    have hsplit : ((placeholder name position t).pattern patternOf).toList ++ rest =
        "(?P<".toList ++ name.toList ++ ">".toList ++ (patternOf name).toList ++ ")".toList ++
          ((t.pattern patternOf).toList ++ rest) := by simp [pattern]
    rw [hsplit] at h
    obtain ⟨body, depth, ns, hgroup⟩ := parseFrom_named hf hname hfirst hpattern h
    obtain ⟨ps, ms, hread, hall⟩ := ih (by exact hf) hnames halone hproper hrest hgroup
    rw [Reading.after_after] at hread
    refine ⟨_, _, hread, List.forall_mem_cons.2 ⟨⟨body, List.mem_cons_self⟩, fun n hn => ?_⟩⟩
    obtain ⟨body', hbody'⟩ := hall n hn
    exact ⟨body', List.mem_cons_of_mem _ hbody'⟩
  | group body t ihb iht =>
    rw [names_group] at hnames halone hproper
    obtain ⟨hnamesb, hnamest⟩ := List.forall_mem_append.1 hnames
    obtain ⟨haloneb, halonet⟩ := List.forall_mem_append.1 halone
    obtain ⟨hproperb, hpropert⟩ := List.forall_mem_append.1 hproper
    have hsplit : ((group body t).pattern patternOf).toList ++ rest =
        "(?:".toList ++ ((body.pattern patternOf).toList ++ ')' :: '?' ::
          ((t.pattern patternOf).toList ++ rest)) := by simp [pattern]
    rw [hsplit, parseFrom_open hf] at h
    obtain ⟨ps, ns, hbody, -⟩ := ihb rfl hnamesb haloneb hproperb (by simp) h
    rw [parseFrom_optional hf ps ns (head?_pattern_append t patternOf hrest)] at hbody
    obtain ⟨qs, ms, hread, hall⟩ := iht (by exact hf) hnamest halonet hpropert hrest hbody
    rw [Reading.after_after] at hread
    refine ⟨_, _, hread, fun n hn => ?_⟩
    obtain ⟨body', hbody'⟩ := hall n hn
    exact ⟨body', List.mem_cons_of_mem _ hbody'⟩

theorem mem_names_of_mem_outerNames {t : Template} {n : String} (h : n ∈ t.outerNames) :
    n ∈ t.names := by
  induction t with
  | empty => cases h
  | literal text t ih => exact ih h
  | placeholder name position t ih =>
    rcases List.mem_cons.1 h with rfl | h
    · exact List.mem_cons_self
    · exact List.mem_cons_of_mem _ (ih h)
  | group body t _ iht =>
    rw [names_group]
    exact List.mem_append_right _ (iht h)

/-- If the patterns of the placeholders stand alone, the pattern of the route is that of some pieces
between the ends of the text. -/
theorem regex_of_standsAlone {c : Compiled}
    (halone : ∀ n p, c.patterns.get? n = some p → standsAlone p = true) :
    ∃ ps, c.regex = joinWith .seq (anchored ps).reverse ∧
      ∀ n ∈ c.required, ∃ body, Regex.named n body ∈ ps.map (·.regex) := by
  let patternOf (name : String) : String := (c.patterns.get? name).getD defaultSegment
  have hget : ∀ n ∈ c.template.names, c.patterns.get? n = some (patternOf n) := by
    intro n hn
    obtain ⟨p, hp⟩ := Dict.contains_iff.1 ((c.named n).2 hn)
    simp [patternOf, hp]
  have hsource : (c.template.source c.patterns).toList =
      '^' :: ((c.template.pattern patternOf).toList ++ ['$']) := by simp [source, patternOf]
  have hreads := c.reads
  rw [ofString?, parse?, hsource] at hreads
  have hstart : parseFrom started 0 ((c.template.pattern patternOf).toList ++ ['$']) =
      some c.regex := (parseFrom_cons [] rfl).symm.trans hreads
  obtain ⟨ps, ns, hread, hall⟩ := exists_pieces c.template rfl (isName_of_mem_names c.parsed)
    (fun n hn => halone n _ (hget n hn)) (fun n hn => c.proper n _ (hget n hn)) (by simp) hstart
  refine ⟨ps, ?_, fun n hn => hall n (mem_required.1 hn)⟩
  rw [parseFrom_textEnd] at hread
  split at hread
  · exact (Option.some.inj hread).symm
  · cases hread

end Template

/-! ## Matching -/

namespace Regex

/-- A named group that stands in a sequence takes part in every match of it. -/
theorem exists_capture {rs : List Regex} {p : Place} {x : Path} (h : x ∈ seqPaths rs p)
    {name : String} {body : Regex} (hmem : Regex.named name body ∈ rs) :
    ∃ g ∈ x.groups, g.name = name := by
  induction rs generalizing p x with
  | nil => cases hmem
  | cons r rs ih =>
    obtain ⟨y, hy, hrest⟩ := List.mem_flatMap.1 h
    obtain ⟨z, hz, rfl⟩ := List.mem_map.1 hrest
    rcases List.mem_cons.1 hmem with rfl | hmem
    · obtain ⟨y', -, rfl⟩ := List.mem_map.1 hy
      exact ⟨⟨name, p, y'.stop⟩, by simp [Path.andThen, Path.capture], rfl⟩
    · obtain ⟨g, hg, hname⟩ := ih hz hmem
      exact ⟨g, List.mem_append_right _ hg, hname⟩

theorem Match.exists_group? {m : Match} {name : String} (h : ∃ g ∈ m.path.groups, g.name = name) :
    ∃ text, m.group? name = some text := by
  obtain ⟨g, hg, hname⟩ := h
  have hfind : (m.path.groups.reverse.find? (·.name == name)).isSome = true :=
    List.find?_isSome.2 ⟨g, List.mem_reverse.2 hg, by simpa using hname⟩
  obtain ⟨g', hg'⟩ := Option.isSome_iff_exists.1 hfind
  exact ⟨g'.text, by rw [Match.group?, hg', Option.map_some]⟩

/-- A match of pieces between the ends of the text reads the whole text, with all their groups. -/
theorem isWhole_of_search? {ps : List Piece} {text : List Char} {m : Match}
    (h : search? (joinWith .seq (anchored ps).reverse) text = some m) :
    m.isWhole = true ∧
      ∀ name body, Regex.named name body ∈ ps.map (·.regex) → ∃ text, m.group? name = some text := by
  rw [search?_anchored] at h
  obtain ⟨x, hx, rfl⟩ := Option.map_eq_some_iff.1 h
  have hstop : x.stop.after.isEmpty = true := by simpa using List.find?_some hx
  exact ⟨by rw [Match.isWhole, hstop]; rfl, fun name body hmem =>
    Match.exists_group? (exists_capture (List.mem_of_find?_eq_some hx) hmem)⟩

end Regex

namespace Route

/-- A placeholder that took part in a match has a value, its own or that of the defaults. -/
theorem contains_of_group? {r : Route} {m : Match} {name : String} {text : List Char}
    (hname : name ∈ r.names) (hgroup : m.group? name = some text) :
    (r.defaults.overlay (r.captured m)).contains name = true := by
  rw [Dict.contains_overlay]
  by_cases hdrop : (text.isEmpty && r.defaults.contains name) = true
  · exact .inr (Bool.and_eq_true_iff.1 hdrop).2
  · refine .inl (Dict.contains_ofList.2 (List.mem_map.2 ⟨(name, String.ofList text), ?_, rfl⟩))
    exact List.mem_filterMap.2 ⟨name, hname, by rw [hgroup]; exact if_neg hdrop⟩

/-- If every placeholder has a pattern that is one by itself, a route matches whole paths only, and
every match has all parameters that the template requires. -/
theorem match?_anchored {text default : String} {overrides : Dict String} {r : Route}
    (hcompile : Template.compile text overrides default = .ok r.compiled)
    (halone : ∀ name ∈ r.names, standsAlone (Template.effective overrides default name) = true)
    (hfilters : r.filters = []) (path : String) (method : Method) {params : Params}
    (hmatch : r.match? path method = some params) :
    ∃ m, r.find? path = some m ∧ m.isWhole = true ∧
      ∀ name ∈ r.required, params.contains name = true := by
  have hpatterns : ∀ n p, r.compiled.patterns.get? n = some p → standsAlone p = true := by
    intro n p hp
    rw [(Template.compile_eq_ok_iff.1 hcompile).2, Template.get?_effectivePatterns] at hp
    split at hp
    · rename_i hn
      cases hp
      exact halone n hn
    · cases hp
  obtain ⟨ps, hregex, hgroups⟩ := Template.regex_of_standsAlone hpatterns
  rw [match?, hfilters] at hmatch
  cases hfind : r.find? path with
  | none => simp [hfind] at hmatch
  | some m =>
    rw [hfind] at hmatch
    cases hmatch
    rw [find?, hregex] at hfind
    obtain ⟨hwhole, hall⟩ := isWhole_of_search? hfind
    refine ⟨m, rfl, hwhole, fun name hname => ?_⟩
    obtain ⟨body, hbody⟩ := hgroups name hname
    obtain ⟨value, hvalue⟩ := hall name body hbody
    exact contains_of_group?
      (Template.mem_names_of_mem_outerNames (Template.mem_required.1 hname)) hvalue

theorem match?_anchored_choice :
    let overrides : Dict String := .ofList [("id", "[0-9]+|new")]
    ∃ r : Route, Template.compile "posts/<id>(/<tag>)" overrides defaultSegment = .ok r.compiled ∧
      (∀ name ∈ r.names, standsAlone (Template.effective overrides defaultSegment name) = true) ∧
      r.filters = [] ∧ "id" ∈ r.required ∧
      ∃ params m, r.match? "/posts/new/" .get = some params ∧ r.find? "/posts/new/" = some m ∧
        m.isWhole = true ∧ params.contains "id" = true := by
  intro overrides
  have hok : ((Template.compile "posts/<id>(/<tag>)" overrides defaultSegment).toOption.bind fun c =>
      (⟨⟨c, overrides, ∅⟩, []⟩ : Route).match? "/posts/new/" .get).isSome = true := by
    decide +kernel
  cases hc : Template.compile "posts/<id>(/<tag>)" overrides defaultSegment with
  | error e => simp [hc, Except.toOption] at hok
  | ok c =>
    rw [hc] at hok
    let r : Route := ⟨⟨c, overrides, ∅⟩, []⟩
    obtain ⟨params, hmatch⟩ : ∃ params, r.match? "/posts/new/" .get = some params :=
      Option.isSome_iff_exists.1 hok
    have htemplate : c.template =
        .literal "posts/" (.placeholder "id" 6 (.group (.literal "/" (.placeholder "tag" 12 .empty)) .empty)) :=
      Except.ok.inj ((Template.compile_text hc ▸ c.parsed).symm.trans rfl)
    have halone : ∀ name ∈ r.names,
        standsAlone (Template.effective overrides defaultSegment name) = true := by
      rw [show r.names = ["id", "tag"] by rw [Route.names, htemplate]; rfl]
      decide +kernel
    have hid : "id" ∈ r.required := by
      rw [Route.required, Template.Compiled.required, htemplate]
      decide
    obtain ⟨m, hfind, hwhole, hall⟩ := match?_anchored hc halone rfl "/posts/new/" .get hmatch
    exact ⟨r, rfl, halone, rfl, hid, params, m, hmatch, hfind, hwhole, hall "id" hid⟩

/-- The pattern of a placeholder closes the group of the placeholder from inside. So the route
matches the end of a path, and that match has no value for the placeholder. -/
theorem match?_unanchored :
    let overrides : Dict String := .ofList [("id", "a)|(?:b")]
    ∃ r : Route, Template.compile "<id>" overrides defaultSegment = .ok r.compiled ∧
      r.filters = [] ∧ "id" ∈ r.required ∧
      ∃ params m, r.match? "zb" .get = some params ∧ r.find? "zb" = some m ∧
        m.isWhole = false ∧ params.contains "id" = false := by
  intro overrides
  have hrun : ((Template.compile "<id>" overrides defaultSegment).toOption.map fun c =>
      let r : Route := ⟨⟨c, overrides, .seeded "index"⟩, []⟩
      (r.required, (r.match? "zb" .get).map (·.contains "id"), (r.find? "zb").map (·.isWhole))) =
      some (["id"], some false, some false) := by
    decide +kernel
  cases hc : Template.compile "<id>" overrides defaultSegment with
  | error e => simp [hc, Except.toOption] at hrun
  | ok c =>
    rw [hc] at hrun
    let r : Route := ⟨⟨c, overrides, .seeded "index"⟩, []⟩
    obtain ⟨hrequired, hruns⟩ := Prod.mk.inj (Option.some.inj hrun)
    obtain ⟨hmatches, hfinds⟩ := Prod.mk.inj hruns
    obtain ⟨params, hmatch, hmissing⟩ := Option.map_eq_some_iff.1 hmatches
    obtain ⟨m, hfind, hpart⟩ := Option.map_eq_some_iff.1 hfinds
    exact ⟨r, rfl, rfl, hrequired ▸ List.mem_singleton_self _, params, m, hmatch, hfind, hpart,
      hmissing⟩

end Route

end Signpost
