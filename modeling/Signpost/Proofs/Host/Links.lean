import Signpost.Proofs.Host.Trust

/-!
# Links, case by case

What `Site.uri` and `Site.url` give along a route. A path that cannot be built fails both, before
anything about hosts is looked at. The link along a local route is its path, or the path behind the
base of the site, and only that base can fail then (`Site.LinksLocally`). The link along any other
route has a protocol and a host in front, or is refused because of the host (`Site.LinksAbroad`). A
local host among the parameters counts as none, so no route is made local by its parameters.
-/

namespace Signpost

namespace Hosts

variable {h : Hosts} {host default : String} {params : Params} {protocol : Option String}

/-- Whether there are trusted hosts, and a bare host is none of them. -/
def Refuses (h : Hosts) (bare : String) : Prop :=
  h.trusted.isEmpty = false ∧ h.trusted.trusts bare = false

/-- Only the bare host is looked up among the trusted hosts. -/
theorem absolute_eq_ite (h : Hosts) (host : String) (protocol : Option String) :
    h.absolute host protocol =
      if h.trusted.isEmpty || h.trusted.trusts (split host).2 then
        .ok (h.protocolFor (split host).1 protocol ++ "://" ++ (split host).2)
      else .error (.untrustedHost (split host).2) := by
  by_cases hpass : (h.trusted.isEmpty || h.trusted.trusts (split host).2) = true
  · simp only [absolute, check, if_pos hpass]
  · simp only [absolute, check, if_neg hpass]

/-- A link to a host starts with a protocol and the bare host, unless that is refused. -/
theorem absolute_cases (h : Hosts) (host : String) (protocol : Option String) :
    (h.Refuses (split host).2 ∧
      h.absolute host protocol = .error (.untrustedHost (split host).2)) ∨
    (¬ h.Refuses (split host).2 ∧ h.absolute host protocol =
      .ok (h.protocolFor (split host).1 protocol ++ "://" ++ (split host).2)) := by
  rw [absolute_eq_ite]
  by_cases hpass : (h.trusted.isEmpty || h.trusted.trusts (split host).2) = true
  · exact .inr ⟨fun hrefuses => by simp [hrefuses.1, hrefuses.2] at hpass, if_pos hpass⟩
  · exact .inl ⟨by simpa [Refuses] using hpass, if_neg hpass⟩

theorem absolute_eq_error_iff {e : LinkError} :
    h.absolute host protocol = .error e ↔
      h.Refuses (split host).2 ∧ e = .untrustedHost (split host).2 := by
  rcases absolute_cases h host protocol with ⟨hrefuses, habs⟩ | ⟨hrefuses, habs⟩
  · simp [habs, hrefuses, eq_comm]
  · simp [habs, hrefuses]

/-- The host that a link along a route with a default host leads to: the one among the parameters,
unless that is local, or else the default one. -/
def destination (h : Hosts) (default : String) (params : Params) : String :=
  match params.get? Params.hostKey with
  | some host => if host ∈ h.localHosts then default else host
  | none => default

theorem hostFor?_eq {r : Route} (hdefault : r.defaults.host? = some default) :
    h.hostFor? r params = some (h.destination default params) := by
  rw [hostFor?, destination, hdefault]
  cases params.get? Params.hostKey with
  | none => rfl
  | some host =>
    by_cases hlocal : host ∈ h.localHosts
    · simp [Option.filter, isLocal, hlocal]
    · simp [Option.filter, isLocal, hlocal]

theorem destination_not_mem (hforeign : default ∉ h.localHosts) (params : Params) :
    h.destination default params ∉ h.localHosts := by
  unfold destination
  split
  · split
    · exact hforeign
    · assumption
  · exact hforeign

theorem isExternal_of_not_mem {r : Route} (hdefault : r.defaults.host? = some default)
    (hforeign : default ∉ h.localHosts) : h.isExternal r = true := by
  simp [isExternal, hdefault, isLocal, hforeign]

theorem isExternal_eq_false {r : Route}
    (hlocal : ∀ host, r.defaults.host? = some host → host ∈ h.localHosts) :
    h.isExternal r = false := by
  rw [isExternal, Option.any_eq_false]
  intro host hhost
  simpa [isLocal] using hlocal host hhost

end Hosts

namespace Site

variable {s : Site} {r : Route} {params : Params} {protocol : Option String} {path : String}

/-! ## Local routes -/

/-- The base of a site fails if a protocol is asked for and there is no host to go with it, or one
that is refused. -/
theorem base_eq_error_iff {e : LinkError} :
    s.base protocol = .error e ↔ protocol ≠ none ∧
      ((s.siteHost = none ∧ e = .siteHostUnavailable) ∨
        ∃ host, s.siteHost = some host ∧ s.hosts.Refuses (Hosts.split host).2 ∧
          e = .untrustedHost (Hosts.split host).2) := by
  unfold base
  cases protocol with
  | none => simp
  | some p =>
    cases s.siteHost with
    | none => simp [eq_comm]
    | some host => simp [map_eq_error_iff, Hosts.absolute_eq_error_iff]

/-- The links along a route that is local on a site. -/
structure LinksLocally (s : Site) (r : Route) (params : Params) (protocol : Option String)
    (path : String) : Prop where
  uri : s.uri r params protocol = .ok path
  url_ok : ∀ link, s.url r params protocol = .ok link ↔
    ∃ base, s.base protocol = .ok base ∧ link = base ++ path
  url_siteHost : s.url r params protocol = .error .siteHostUnavailable ↔
    protocol ≠ none ∧ s.siteHost = none
  url_untrusted : ∀ bare, s.url r params protocol = .error (.untrustedHost bare) ↔
    protocol ≠ none ∧ ∃ host, s.siteHost = some host ∧ bare = (Hosts.split host).2 ∧
      s.hosts.Refuses bare
  url_present : ∀ name template,
    s.url r params protocol ≠ .error (.missingParameter name template)

theorem url_of_local (hpath : r.buildPath params = .ok path)
    (hlocal : s.hosts.isExternal r = false) (protocol : Option String) :
    s.url r params protocol = (s.base protocol).map (· ++ path) := by
  rw [url, if_neg (by rw [isExternal, hlocal]; exact Bool.false_ne_true), hpath]

theorem linksLocally (hpath : r.buildPath params = .ok path)
    (hlocal : s.hosts.isExternal r = false) : s.LinksLocally r params protocol path := by
  have hurl := url_of_local hpath hlocal protocol
  have herror : ∀ e, s.url r params protocol = .error e ↔ s.base protocol = .error e := fun e => by
    rw [hurl, map_eq_error_iff]
  refine ⟨?_, fun link => ?_, ?_, fun bare => ?_, fun name template => ?_⟩
  · simp [Site.uri, hpath, Hosts.resolve, hlocal, Except.map]
  · rw [hurl, map_eq_ok_iff]
  · rw [herror, base_eq_error_iff]
    simp
  · rw [herror, base_eq_error_iff]
    -- of the two ways to fail only the refused host is left
    refine and_congr_right fun _ => ?_
    constructor
    · rintro (⟨-, ⟨⟩⟩ | ⟨host, hhost, hrefuses, ⟨⟩⟩)
      exact ⟨host, hhost, rfl, hrefuses⟩
    · rintro ⟨host, hhost, rfl, hrefuses⟩
      exact .inr ⟨host, hhost, hrefuses, rfl⟩
  · rw [ne_eq, herror, base_eq_error_iff]
    simp

/-! ## Routes to other hosts -/

/-- The links along a route that leads to another host, which is the default one here. -/
structure LinksAbroad (s : Site) (r : Route) (params : Params) (protocol : Option String)
    (path default : String) : Prop where
  url : s.url r params protocol = s.uri r params protocol
  uri_ok : ∀ link, s.uri r params protocol = .ok link ↔
    ∃ start, s.hosts.absolute (s.hosts.destination default params) protocol = .ok start ∧
      link = start ++ "/" ++ path
  uri_error : ∀ e, s.uri r params protocol = .error e ↔
    s.hosts.Refuses (Hosts.split (s.hosts.destination default params)).2 ∧
      e = .untrustedHost (Hosts.split (s.hosts.destination default params)).2
  abroad : s.hosts.destination default params ∉ s.hosts.localHosts
  ne_path : s.uri r params protocol ≠ .ok path

theorem uri_of_host {default : String} (hpath : r.buildPath params = .ok path)
    (hdefault : r.defaults.host? = some default) (hforeign : default ∉ s.hosts.localHosts)
    (protocol : Option String) :
    s.uri r params protocol =
      (s.hosts.absolute (s.hosts.destination default params) protocol).map (· ++ "/" ++ path) := by
  have hext := Hosts.isExternal_of_not_mem hdefault hforeign
  obtain ⟨host, hhost, hresolve⟩ := Hosts.resolve_of_isExternal hext params protocol
  cases (Hosts.hostFor?_eq hdefault).symm.trans hhost
  simp only [Site.uri, hpath, hresolve]
  cases s.hosts.absolute (s.hosts.destination default params) protocol <;> rfl

/-- Something in front of a path makes another text of it. -/
theorem append_slash_ne (start path : String) : path ≠ start ++ "/" ++ path := by
  intro h
  have hlength := congrArg String.length h
  simp only [String.length_append] at hlength
  have hslash : ("/" : String).length = 1 := rfl
  omega

theorem linksAbroad {default : String} (hpath : r.buildPath params = .ok path)
    (hdefault : r.defaults.host? = some default) (hforeign : default ∉ s.hosts.localHosts) :
    s.LinksAbroad r params protocol path default := by
  have huri := uri_of_host hpath hdefault hforeign protocol
  have hok : ∀ link, s.uri r params protocol = .ok link ↔
      ∃ start, s.hosts.absolute (s.hosts.destination default params) protocol = .ok start ∧
        link = start ++ "/" ++ path := fun link => by
    rw [huri, map_eq_ok_iff]
  refine ⟨?_, hok, fun e => ?_, Hosts.destination_not_mem hforeign params, fun hsame => ?_⟩
  · have hext : s.isExternal r = true := Hosts.isExternal_of_not_mem hdefault hforeign
    rw [Site.url, if_pos hext]
  · rw [huri, map_eq_error_iff, Hosts.absolute_eq_error_iff]
  · obtain ⟨start, -, hlink⟩ := (hok path).1 hsame
    exact append_slash_ne start path hlink

/-! ## Every route -/

/-- A link fails like the path of the route if that cannot be built. Else the route is local on the
site and its path is the link, or it has a default host that is not, and leads abroad. -/
theorem links_of_buildPath (s : Site) (r : Route) (params : Params) (protocol : Option String) :
    (∀ e, r.buildPath params = .error e → (∃ name, e = .missingParameter name r.template) ∧
      s.uri r params protocol = .error e ∧ s.url r params protocol = .error e) ∧
    ∀ path, r.buildPath params = .ok path →
      ((∀ host, r.defaults.host? = some host → host ∈ s.hosts.localHosts) →
        s.LinksLocally r params protocol path) ∧
      ∀ default, r.defaults.host? = some default → default ∉ s.hosts.localHosts →
        s.LinksAbroad r params protocol path default := by
  constructor
  · intro e herror
    have huri : s.uri r params protocol = .error e := by simp only [Site.uri, herror]
    refine ⟨?_, huri, ?_⟩
    · rcases Route.buildPath_cases r params with ⟨-, hpath⟩ | ⟨name, -, hmissing⟩
      · cases hpath.symm.trans herror
      · cases hmissing.symm.trans herror
        exact ⟨name, rfl⟩
    · rw [Site.url, huri, herror, ite_self]
  · intro path hpath
    constructor
    · intro hlocal
      exact linksLocally hpath (Hosts.isExternal_eq_false hlocal)
    · intro default hdefault hforeign
      exact linksAbroad hpath hdefault hforeign

/-- News on this site and a page on another one, which needs a host that is trusted. The name of
this machine among the parameters does not bring the page home. -/
theorem links_of_buildPath_news :
    ∃ (s : Site) (news page : Route),
      ofOptions { trustedHosts := ["example\\.org"], siteHost := some "http://example.org/" } =
        .ok s ∧
      Route.compile "news/<id>" ∅ = .ok news ∧
      (Route.compile "foo" ∅).map (·.withDefaults [("host", "example.org")]) = .ok page ∧
      s.uri news ∅ (some "https") = .error (.missingParameter "id" "news/<id>") ∧
      s.url news ∅ (some "https") = .error (.missingParameter "id" "news/<id>") ∧
      s.LinksLocally news (Dict.ofList [("id", "7")]) (some "https") "news/7" ∧
      s.url news (Dict.ofList [("id", "7")]) (some "https") = .ok "https://example.org/news/7" ∧
      s.LinksAbroad page (Dict.ofList [("host", "localhost")]) none "foo" "example.org" ∧
      s.uri page (Dict.ofList [("host", "localhost")]) none = .ok "http://example.org/foo" ∧
      s.LinksAbroad page (Dict.ofList [("host", "evil.net")]) none "foo" "example.org" ∧
      s.uri page (Dict.ofList [("host", "evil.net")]) none =
        .error (.untrustedHost "evil.net") := by
  let o : Options :=
    { trustedHosts := ["example\\.org"], siteHost := some "http://example.org/" }
  let route : Except TemplateError Route :=
    (Route.compile "foo" ∅).map (·.withDefaults [("host", "example.org")])
  let id7 : Params := Dict.ofList [("id", "7")]
  let home : Params := Dict.ofList [("host", "localhost")]
  let evil : Params := Dict.ofList [("host", "evil.net")]
  have hnewsRun : ((ofOptions o).toOption.bind fun s =>
        (Route.compile "news/<id>" ∅).toOption.map fun news =>
          (news.template, news.compiled.template.lacking news.defaults ∅,
            (news.buildPath id7).toOption, news.defaults.host?,
            (s.url news id7 (some "https")).toOption)) =
      some ("news/<id>", ["id"], some "news/7", none, some "https://example.org/news/7") := by
    decide +kernel
  have hpageRun : ((ofOptions o).toOption.bind fun s => route.toOption.map fun page =>
        (page.defaults.host?, s.hosts.localHosts, s.hosts.trusted.isEmpty,
          s.hosts.trusted.trusts "evil.net")) =
      some (some "example.org", ["", "local", "localhost"], false, false) := by
    decide +kernel
  have hlinkRun : ((ofOptions o).toOption.bind fun s => route.toOption.map fun page =>
        ((page.buildPath home).toOption, (s.uri page home none).toOption,
          (page.buildPath evil).toOption)) =
      some (some "foo", some "http://example.org/foo", some "foo") := by
    decide +kernel
  obtain ⟨s, news, hs, hnews, hrun⟩ := exists_of_run hnewsRun
  obtain ⟨htemplate, hlacking, hpath, hnone, hurl⟩ : news.template = "news/<id>" ∧
      news.compiled.template.lacking news.defaults ∅ = ["id"] ∧
      (news.buildPath id7).toOption = some "news/7" ∧ news.defaults.host? = none ∧
      (s.url news id7 (some "https")).toOption = some "https://example.org/news/7" := by
    simpa using hrun
  obtain ⟨s₁, page, hs₁, hpage, hrun⟩ := exists_of_run hpageRun
  cases hs.symm.trans hs₁
  obtain ⟨hdefault, hlocals, hlisted, huntrusted⟩ : page.defaults.host? = some "example.org" ∧
      s.hosts.localHosts = ["", "local", "localhost"] ∧ s.hosts.trusted.isEmpty = false ∧
      s.hosts.trusted.trusts "evil.net" = false := by
    simpa using hrun
  obtain ⟨s₂, page₂, hs₂, hpage₂, hrun⟩ := exists_of_run hlinkRun
  cases hs.symm.trans hs₂
  cases hpage.symm.trans hpage₂
  obtain ⟨hhome, huri, hevil⟩ : (page.buildPath home).toOption = some "foo" ∧
      (s.uri page home none).toOption = some "http://example.org/foo" ∧
      (page.buildPath evil).toOption = some "foo" := by
    simpa using hrun
  have hforeign : "example.org" ∉ s.hosts.localHosts := by rw [hlocals]; decide
  have hmissing : news.buildPath ∅ = .error (.missingParameter "id" "news/<id>") := by
    rcases Route.buildPath_cases news ∅ with ⟨hnil, -⟩ | ⟨name, hname, herror⟩
    · cases hnil.symm.trans hlacking
    · rw [hlacking, List.mem_singleton] at hname
      rw [herror, hname, htemplate]
  obtain ⟨-, huriError, hurlError⟩ :=
    (links_of_buildPath s news ∅ (some "https")).1 _ hmissing
  have hlocally : s.LinksLocally news id7 (some "https") "news/7" :=
    ((links_of_buildPath s news id7 (some "https")).2 _ (eq_ok_of_toOption hpath)).1 fun _ h =>
      absurd (hnone.symm.trans h) (Option.some_ne_none _).symm
  have habroad : ∀ {params}, (page.buildPath params).toOption = some "foo" →
      s.LinksAbroad page params none "foo" "example.org" := fun {params} hfoo =>
    ((links_of_buildPath s page params none).2 _ (eq_ok_of_toOption hfoo)).2 _ hdefault hforeign
  have hbare : (Hosts.split (s.hosts.destination "example.org" evil)).2 = "evil.net" := by
    rw [Hosts.destination, hlocals]
    decide
  have hrefused : s.uri page evil none = .error (.untrustedHost "evil.net") := by
    rw [(habroad hevil).uri_error, hbare]
    exact ⟨⟨hlisted, huntrusted⟩, rfl⟩
  exact ⟨s, news, page, hs, hnews, hpage, huriError, hurlError, hlocally, eq_ok_of_toOption hurl,
    habroad hhome, eq_ok_of_toOption huri, habroad hevil, hrefused⟩

end Site

end Signpost
