import Signpost.Proofs.Building.Reference
import Signpost.Site

/-!
# What a path depends on

A path is built from what each placeholder of the template comes to: whether it is specified, whether it
lacks a value, and its text. Where two choices of defaults and parameters treat every placeholder alike
(`Template.TreatsAlike`), drafting a template with them comes to the same, be it a path or an error
(`Template.draft_congr`). Everything else is a case of this.

So other parameters than those of the placeholders never matter to a path, other defaults neither, and
to a link only the host does, if the route leads abroad (`Route.readsOnlyNames`). Naming a default among
the parameters does not change a path (`Route.buildPath_insert_default`).
-/

namespace Signpost

/-- Whether two sets of parameters have the same values under some names. -/
def Params.AgreeOn (names : List String) (p q : Params) : Prop :=
  ∀ n ∈ names, p.get? n = q.get? n

instance (names : List String) (p q : Params) : Decidable (p.AgreeOn names q) :=
  inferInstanceAs (Decidable (∀ n ∈ names, p.get? n = q.get? n))

namespace Template

/-- Whether a placeholder comes to the same with two choices of defaults and parameters. -/
structure TreatsAlike (defaults params defaults' params' : Params) (name : String) : Prop where
  specified : specified defaults params name = specified defaults' params' name
  lacks : lacks defaults params name = lacks defaults' params' name
  text : valueText defaults params name = valueText defaults' params' name

section
variable {defaults params defaults' params' : Params}

theorem treatsAlike_of_get? {name : String} (hdefault : defaults.get? name = defaults'.get? name)
    (hvalue : params.get? name = params'.get? name) :
    TreatsAlike defaults params defaults' params' name := by
  constructor
  · simp only [Template.specified, hdefault, hvalue]
  · simp only [Template.lacks, Dict.contains, hdefault, hvalue]
  · simp only [valueText, hdefault, hvalue]

/-- A value that is the default is not specified, just as if it were not supplied. -/
theorem specified_insert_default {k d : String} (hfree : params.get? k = none)
    (hdefault : defaults.get? k = some d) (n : String) :
    specified defaults (params.insert k d) n = specified defaults params n := by
  unfold specified
  rw [Dict.get?_insert]
  by_cases hn : n = k
  · subst hn
    rw [if_pos rfl, hfree, hdefault]
    simp
  · rw [if_neg hn]

theorem treatsAlike_insert_default {k d : String} (hfree : params.get? k = none)
    (hdefault : defaults.get? k = some d) (hplain : Percent.encode d = d) (n : String) :
    TreatsAlike defaults (params.insert k d) defaults params n := by
  by_cases hn : n = k
  · subst hn
    constructor
    · exact specified_insert_default hfree hdefault n
    · simp [Template.lacks, Dict.contains, hdefault]
    · unfold valueText
      rw [Dict.get?_insert, if_pos rfl, hfree, hdefault]
      exact hplain
  · refine treatsAlike_of_get? rfl ?_
    rw [Dict.get?_insert, if_neg hn]

/-- A draft is the same where every placeholder comes to the same, in all groups. -/
theorem draft_congr {t : Template}
    (h : ∀ n ∈ t.names, TreatsAlike defaults params defaults' params' n) :
    t.draft defaults params = t.draft defaults' params' := by
  induction t with
  | empty => rfl
  | literal text rest ih => rw [draft, draft, ih h]
  | placeholder name position rest ih =>
    obtain ⟨hname, hrest⟩ := List.forall_mem_cons.1 h
    rw [draft_placeholder, draft_placeholder, ih hrest, hname.specified, hname.lacks, hname.text]
  | group body rest ihb ihr =>
    rw [names_group] at h
    obtain ⟨hbody, hrest⟩ := List.forall_mem_append.1 h
    rw [draft, draft, ihb hbody, ihr hrest]

theorem active_congr {t : Template}
    (h : ∀ n ∈ t.names, specified defaults params n = specified defaults' params' n) :
    t.active defaults params = t.active defaults' params' := by
  unfold active
  rw [Bool.eq_iff_iff, List.any_eq_true, List.any_eq_true]
  constructor
  · rintro ⟨n, hn, hs⟩
    exact ⟨n, hn, h n hn ▸ hs⟩
  · rintro ⟨n, hn, hs⟩
    exact ⟨n, hn, (h n hn).symm ▸ hs⟩

end

end Template

/-! ## Links -/

namespace Hosts

variable {h : Hosts} {r : Route}

theorem resolve_of_local (hlocal : h.isExternal r = false) (params : Params)
    (protocol : Option String) : h.resolve r params protocol = .ok none := by
  unfold resolve
  rw [hlocal]
  rfl

/-- The parameters matter to the start of a link through their host only, and not if the route is
local. -/
theorem resolve_congr {params params' : Params}
    (hhost : h.isExternal r = true → params.get? Params.hostKey = params'.get? Params.hostKey)
    (protocol : Option String) :
    h.resolve r params protocol = h.resolve r params' protocol := by
  cases hexternal : h.isExternal r with
  | false => rw [resolve_of_local hexternal, resolve_of_local hexternal]
  | true =>
    unfold resolve
    rw [hhost hexternal]

end Hosts

namespace Site

theorem uri_congr {s : Site} {r : Route} {params params' : Params} {protocol : Option String}
    (hpath : r.buildPath params = r.buildPath params')
    (hstart : s.hosts.resolve r params protocol = s.hosts.resolve r params' protocol) :
    s.uri r params protocol = s.uri r params' protocol := by
  unfold uri
  rw [hpath, hstart]

theorem url_congr {s : Site} {r : Route} {params params' : Params} {protocol : Option String}
    (hpath : r.buildPath params = r.buildPath params')
    (hstart : s.hosts.resolve r params protocol = s.hosts.resolve r params' protocol) :
    s.url r params protocol = s.url r params' protocol := by
  unfold url
  rw [uri_congr hpath hstart, hpath]

end Site

namespace Route

theorem buildPath_congr {r r' : Route} (hcompiled : r.compiled = r'.compiled)
    {params params' : Params}
    (h : ∀ n ∈ r.names, Template.TreatsAlike r.defaults params r'.defaults params' n) :
    r.buildPath params = r'.buildPath params' := by
  have hdraft := Template.draft_congr h
  unfold buildPath template
  rw [hdraft, hcompiled]

/-! ## Parameters and defaults of other names -/

/-- What paths and links of a route depend on, of parameters and of defaults. -/
structure ReadsOnlyNames (r : Route) : Prop where
  buildPath : ∀ {params params' : Params}, params.AgreeOn r.names params' →
    r.buildPath params = r.buildPath params'
  links : ∀ (s : Site) {params params' : Params}, params.AgreeOn r.names params' →
    (s.isExternal r = true → params.get? Params.hostKey = params'.get? Params.hostKey) →
      ∀ protocol, s.uri r params protocol = s.uri r params' protocol ∧
        s.url r params protocol = s.url r params' protocol
  defaults : ∀ {defaults : Params}, r.defaults.AgreeOn r.names defaults →
    ∀ params, ({ r with defaults } : Route).buildPath params = r.buildPath params

/-- A path depends on parameters and defaults through the names of the placeholders only, also when it
cannot be built. A link depends on one more parameter, the host, and a local link not even on that. -/
theorem readsOnlyNames (r : Route) : r.ReadsOnlyNames := by
  have hbuild : ∀ {params params' : Params}, Params.AgreeOn r.names params params' →
      r.buildPath params = r.buildPath params' := by
    intro params params' hagree
    refine buildPath_congr rfl fun n hn => ?_
    exact Template.treatsAlike_of_get? rfl (hagree n hn)
  constructor
  · exact hbuild
  · intro s params params' hagree hhost protocol
    have hpath := hbuild hagree
    have hstart := Hosts.resolve_congr hhost protocol
    exact ⟨Site.uri_congr hpath hstart, Site.url_congr hpath hstart⟩
  · intro defaults hagree params
    have hcompiled : ({ r with defaults } : Route).compiled = r.compiled := rfl
    refine buildPath_congr hcompiled fun n hn => ?_
    exact Template.treatsAlike_of_get? (hagree n hn).symm rfl

/-- News at home and abroad. At home a host among the parameters is ignored, like every other one that
the template does not have; abroad it has to be the same. -/
theorem readsOnlyNames_news :
    ∃ r : Route, Route.compile "news/<id>" ∅ = .ok r ∧
      let p : Params := Dict.ofList [("id", "7"), ("page", "2")]
      let q : Params := Dict.ofList [("host", "example.org"), ("id", "7")]
      let abroad : Route := r.withDefaults [("host", "example.net")]
      let home : Site := { siteHost := some "example.com" }
      r.buildPath p = r.buildPath q ∧ r.buildPath ∅ = r.buildPath (q.erase "id") ∧
      home.url r p (some "https") = home.url r q (some "https") ∧
      home.uri abroad (p.insert "host" "example.org") none = home.uri abroad q none ∧
      abroad.buildPath p = r.buildPath p := by
  have hrun : (Route.compile "news/<id>" ∅).toOption.map (fun r => (r.names, r.defaults)) =
      some (["id"], Params.seeded "index") := by decide +kernel
  obtain ⟨r, hr, hnames⟩ := exists_of_map_toOption hrun
  obtain ⟨hnames, hdefaults⟩ := Prod.mk.inj hnames
  refine ⟨r, hr, ?_⟩
  intro p q abroad home
  have hreads := r.readsOnlyNames
  have hpq : p.AgreeOn r.names q := by
    rw [hnames]
    decide
  have hlocal : home.isExternal r = false := by
    show r.defaults.host?.any _ = false
    rw [hdefaults]
    decide
  refine ⟨hreads.buildPath hpq, hreads.buildPath ?_,
    (hreads.links home hpq (by simp [hlocal]) (some "https")).2,
    (abroad.readsOnlyNames.links home ?_ (fun _ => by decide) none).1, hreads.defaults ?_ p⟩
  · rw [hnames]
    decide
  · show Params.AgreeOn r.names _ _
    rw [hnames]
    decide
  · rw [hnames]
    show r.defaults.AgreeOn ["id"] (r.defaults.insertAll [("host", "example.net")])
    rw [hdefaults]
    decide

/-! ## Defaults that are named -/

/-- Naming the default of a placeholder among the parameters changes neither the path nor the error,
if encoding leaves the default as it is, and no group becomes active by it. -/
theorem buildPath_insert_default {r : Route} {params : Params} {k d : String}
    (hfree : params.get? k = none) (hdefault : r.defaults.get? k = some d)
    (hplain : Percent.encode d = d) :
    r.buildPath (params.insert k d) = r.buildPath params ∧
      ∀ t : Template, t.active r.defaults (params.insert k d) = t.active r.defaults params := by
  constructor
  · refine buildPath_congr rfl fun n _ => ?_
    exact Template.treatsAlike_insert_default hfree hdefault hplain n
  · intro t
    refine Template.active_congr fun n _ => ?_
    exact Template.specified_insert_default hfree hdefault n

/-- The first page is not written though it is named, and what is missing stays missing. -/
theorem buildPath_insert_default_page :
    ∃ r : Route, (Route.compile "<blog>(/<page>(.<format>))" ∅).map
        (·.withDefaults [("page", "1")]) = .ok r ∧
      let blog : Params := Dict.ofList [("blog", "me")]
      let rss : Params := Dict.ofList [("format", "rss")]
      Percent.encode "1" = "1" ∧
      r.buildPath blog = .ok "me" ∧ r.buildPath (blog.insert "page" "1") = .ok "me" ∧
      r.buildPath rss = .error (.missingParameter "blog" r.template) ∧
      r.buildPath (rss.insert "page" "1") = .error (.missingParameter "blog" r.template) := by
  let route : Except TemplateError Route :=
    (Route.compile "<blog>(/<page>(.<format>))" ∅).map (·.withDefaults [("page", "1")])
  have hrun : route.toOption.map (fun r => (r.defaults.get? "page",
        (r.buildPath (Dict.ofList [("blog", "me")])).toOption,
        r.compiled.template.lacking r.defaults (Dict.ofList [("format", "rss")]))) =
      some (some "1", some "me", ["blog"]) := by decide +kernel
  obtain ⟨r, hr, hrun⟩ := exists_of_map_toOption hrun
  simp only [Prod.mk.injEq] at hrun
  obtain ⟨hdefault, hpath, hlacking⟩ := hrun
  have hplain : Percent.encode "1" = "1" := by decide +kernel
  refine ⟨r, hr, ?_⟩
  intro blog rss
  have hblog : r.buildPath blog = .ok "me" := eq_ok_of_toOption hpath
  have hrss : r.buildPath rss = .error (.missingParameter "blog" r.template) := by
    rcases buildPath_cases r rss with ⟨hnil, -⟩ | ⟨name, hname, herror⟩
    · cases hnil.symm.trans hlacking
    · rw [hlacking, List.mem_singleton] at hname
      rw [herror, hname]
  have hnamed : r.buildPath (blog.insert "page" "1") = r.buildPath blog :=
    (buildPath_insert_default (by decide) hdefault hplain).1
  have hmissing : r.buildPath (rss.insert "page" "1") = r.buildPath rss :=
    (buildPath_insert_default (by decide) hdefault hplain).1
  exact ⟨hplain, hblog, hnamed.trans hblog, hrss, hmissing.trans hrss⟩

end Route

end Signpost
