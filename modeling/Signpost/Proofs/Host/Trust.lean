import Signpost.Proofs.Building.Reference
import Signpost.Site

/-!
# Links to trusted hosts

A site that lists the hosts it trusts should link to these only: each link to another host should be
a protocol, a trusted host and the path (`Site.IsTrustedLink`). What is looked up in the list is the
part of a host behind its first "://", and what stands before that is put in front of the link as it
is. So a link has the right form just if the host brings no protocol or a proper one
(`Site.isTrustedLink_iff`).
-/

namespace Signpost

namespace Text

variable {sep cs a b : List Char}

/-- A split does not depend on what stands behind the separator. -/
theorem splitOnce?_replace (hsep : sep ≠ []) (h : splitOnce? sep cs = some (a, b))
    (b' : List Char) : splitOnce? sep (a ++ sep ++ b') = some (a, b') := by
  induction cs generalizing a with
  | nil => cases h
  | cons c cs ih =>
    have hcs := splitOnce?_eq_some h
    rw [splitOnce?] at h
    split at h
    · cases h
      cases sep with
      | nil => exact absurd rfl hsep
      | cons d ds => simp [splitOnce?]
    · rename_i hnot
      obtain ⟨⟨a', b''⟩, h', he⟩ := Option.map_eq_some_iff.1 h
      cases he
      -- the separator is no longer than what stands before the place of the old tail
      have hnot' : ¬ sep.isPrefixOf (c :: (a' ++ sep ++ b')) := by
        intro hp
        refine hnot (List.isPrefixOf_iff_prefix.2 ?_)
        have hlen : sep.length ≤ (c :: (a' ++ sep)).length := by simp; omega
        have hfront : sep <+: c :: (a' ++ sep) :=
          List.prefix_of_prefix_length_le (List.isPrefixOf_iff_prefix.1 hp)
            (List.prefix_append (c :: (a' ++ sep)) b') hlen
        rw [hcs]
        exact hfront.trans (List.prefix_append (c :: (a' ++ sep)) b)
      rw [List.cons_append, List.cons_append, splitOnce?, if_neg hnot', ih h']
      rfl

/-- A text that lacks the first character of a separator ends at the separator. -/
theorem splitOnce?_of_not_mem {c : Char} {ds : List Char} (h : c ∉ a) (b : List Char) :
    splitOnce? (c :: ds) (a ++ c :: ds ++ b) = some (a, b) := by
  induction a with
  | nil => simp [splitOnce?]
  | cons d a ih =>
    rw [List.mem_cons, not_or] at h
    have hnot : ¬ (c :: ds).isPrefixOf (d :: (a ++ c :: ds ++ b)) := by
      simp [List.isPrefixOf, h.1]
    rw [List.cons_append, List.cons_append, splitOnce?, if_neg hnot, ih h.2]
    rfl

end Text

/-- A list with some pattern in it is not read as the empty list. -/
theorem TrustedHosts.isEmpty_of_ofPatterns {patterns : List String} {t : TrustedHosts}
    (hne : patterns ≠ []) (h : ofPatterns patterns = .ok t) : t.isEmpty = false := by
  cases patterns with
  | nil => exact absurd rfl hne
  | cons p ps =>
    unfold ofPatterns at h
    split at h
    · cases h
    · cases hps : ofPatterns ps with
      | error e => simp [hps, Except.map] at h
      | ok t' =>
        rw [hps] at h
        cases h
        rfl

namespace Hosts

/-- The host that a link along a route leads to: the one among the parameters, unless that is local,
or else the one of the route. -/
def hostFor? (h : Hosts) (r : Route) (params : Params) : Option String :=
  ((params.get? Params.hostKey).filter (!h.isLocal ·)).or r.defaults.host?

theorem resolve_of_isExternal {h : Hosts} {r : Route} (hext : h.isExternal r = true)
    (params : Params) (protocol : Option String) :
    ∃ host, h.hostFor? r params = some host ∧
      h.resolve r params protocol = (h.absolute host protocol).map some := by
  obtain ⟨default, hdefault, -⟩ := (Option.any_eq_true _ _).1 hext
  unfold resolve
  rw [if_pos hext]
  cases hhost : h.hostFor? r params with
  | none => simp [hostFor?, hdefault] at hhost
  | some host =>
    refine ⟨host, rfl, ?_⟩
    rw [hostFor?] at hhost
    rw [hhost]

/-- Without a protocol that is asked for, a link starts with what stands in front of the host, or
else with the default protocol. -/
theorem absolute_eq_ok {h : Hosts} {host start : String}
    (heq : h.absolute host none = .ok start) :
    h.check (split host).2 = .ok () ∧
      start = (split host).1.getD h.defaultProtocol ++ "://" ++ (split host).2 := by
  unfold absolute at heq
  dsimp only at heq
  split at heq
  · cases heq
  · rename_i hcheck
    cases heq
    exact ⟨hcheck, rfl⟩

theorem trusts_of_check {h : Hosts} {host : String} (hlisted : h.trusted.isEmpty = false)
    (hcheck : h.check host = .ok ()) : h.trusted.trusts host = true := by
  unfold check at hcheck
  split at hcheck
  · rename_i htrusted
    simpa [hlisted] using htrusted
  · cases hcheck

theorem ofOptions_eq_ok {o : Options} {h : Hosts} (heq : ofOptions o = .ok h) :
    TrustedHosts.ofPatterns o.trustedHosts = .ok h.trusted ∧
      h.defaultProtocol = o.defaultProtocol := by
  unfold ofOptions at heq
  cases ht : TrustedHosts.ofPatterns o.trustedHosts with
  | error e => simp [ht, Except.map] at heq
  | ok trusted =>
    rw [ht] at heq
    cases heq
    exact ⟨rfl, rfl⟩

/-- What stands in front of a host is the text up to its first "://". -/
theorem splitOnce?_of_split {host scheme : String} (h : (split host).1 = some scheme)
    (rest : List Char) :
    Text.splitOnce? "://".toList (scheme.toList ++ "://".toList ++ rest) =
      some (scheme.toList, rest) := by
  unfold split at h
  split at h
  · rename_i front back hsplit
    cases h
    have hfront : (String.ofList front).toList = front := String.toList_ofList
    rw [hfront]
    exact Text.splitOnce?_replace (by decide) hsplit rest
  · cases h

end Hosts

namespace Site

/-- Whether a link is a protocol, a trusted host and a path. -/
def IsTrustedLink (s : Site) (path link : String) : Prop :=
  ∃ protocol host, Options.isProtocol protocol = true ∧ s.hosts.trusted.trusts host = true ∧
    link = protocol ++ "://" ++ host ++ "/" ++ path

theorem not_mem_of_isProtocol {protocol : String} (h : Options.isProtocol protocol = true) :
    ':' ∉ protocol.toList := by
  intro hmem
  unfold Options.isProtocol at h
  rw [Bool.and_eq_true, List.all_eq_true] at h
  exact absurd (h.2 ':' hmem) (by decide)

/-- A link of the right form, read backwards: what stands before its first "://" is the
protocol. -/
theorem splitOnce?_of_isProtocol {protocol : String} (h : Options.isProtocol protocol = true)
    (rest : List Char) :
    Text.splitOnce? "://".toList (protocol.toList ++ "://".toList ++ rest) =
      some (protocol.toList, rest) :=
  Text.splitOnce?_of_not_mem (not_mem_of_isProtocol h) rest

theorem uri_eq_ok {s : Site} {r : Route} {params : Params} {link : String}
    (hext : s.isExternal r = true) (h : s.uri r params none = .ok link) :
    ∃ host path, s.hosts.hostFor? r params = some host ∧ r.buildPath params = .ok path ∧
      s.hosts.check (Hosts.split host).2 = .ok () ∧
      link = (Hosts.split host).1.getD s.hosts.defaultProtocol ++ "://" ++ (Hosts.split host).2 ++
        "/" ++ path := by
  unfold uri at h
  split at h
  · cases h
  · rename_i path hpath
    obtain ⟨host, hhost, hresolve⟩ := Hosts.resolve_of_isExternal hext params none
    rw [hresolve] at h
    cases habs : s.hosts.absolute host none with
    | error e => simp [habs, Except.map] at h
    | ok start =>
      rw [habs] at h
      cases h
      obtain ⟨hcheck, rfl⟩ := Hosts.absolute_eq_ok habs
      exact ⟨host, path, hhost, hpath, hcheck, rfl⟩

theorem ofOptions_eq_ok {o : Options} {s : Site} (h : ofOptions o = .ok s) :
    TrustedHosts.ofPatterns o.trustedHosts = .ok s.hosts.trusted ∧
      s.hosts.defaultProtocol = o.defaultProtocol := by
  unfold ofOptions at h
  cases hhosts : Hosts.ofOptions o with
  | error e => simp [hhosts, Except.map] at h
  | ok hosts =>
    rw [hhosts] at h
    cases h
    exact Hosts.ofOptions_eq_ok hhosts

/-- If a link has the right form, what its host brings in front is a protocol. -/
theorem isProtocol_of_isTrustedLink {s : Site} {path link host scheme rest : String}
    (h : s.IsTrustedLink path link) (hscheme : (Hosts.split host).1 = some scheme)
    (hlink : link = scheme ++ "://" ++ rest) : Options.isProtocol scheme = true := by
  obtain ⟨protocol, host', hprotocol, -, hlink'⟩ := h
  -- the first "://" of the link ends both texts
  have hread := splitOnce?_of_isProtocol hprotocol (host' ++ "/" ++ path).toList
  have hread' := Hosts.splitOnce?_of_split hscheme rest.toList
  have hsame : protocol.toList ++ "://".toList ++ (host' ++ "/" ++ path).toList =
      scheme.toList ++ "://".toList ++ rest.toList := by
    have htext := congrArg String.toList (hlink'.symm.trans hlink)
    simpa [String.toList_append] using htext
  rw [hsame, hread'] at hread
  have heq : scheme = protocol := String.toList_inj.1 (Prod.mk.inj (Option.some.inj hread)).1
  exact heq ▸ hprotocol

/-- A link to another host, on a site that lists the hosts it trusts, has a trusted host behind the
"://". It is a protocol, a trusted host and the path just if the host does not bring anything but
a protocol in front. -/
theorem isTrustedLink_iff {o : Options} {s : Site} {r : Route} {params : Params} {link : String}
    (hvalid : o.validate = .ok ()) (hlisted : o.trustedHosts ≠ [])
    (hs : ofOptions o = .ok s) (hext : s.isExternal r = true)
    (h : s.uri r params none = .ok link) :
    ∃ host path, s.hosts.hostFor? r params = some host ∧ r.buildPath params = .ok path ∧
      s.hosts.trusted.trusts (Hosts.split host).2 = true ∧
      link = (Hosts.split host).1.getD o.defaultProtocol ++ "://" ++ (Hosts.split host).2 ++ "/" ++
        path ∧
      (s.IsTrustedLink path link ↔
        ∀ scheme, (Hosts.split host).1 = some scheme → Options.isProtocol scheme = true) := by
  obtain ⟨host, path, hhost, hpath, hcheck, hlink⟩ := uri_eq_ok hext h
  obtain ⟨hpatterns, hdefault⟩ := ofOptions_eq_ok hs
  have htrusts : s.hosts.trusted.trusts (Hosts.split host).2 = true :=
    Hosts.trusts_of_check (TrustedHosts.isEmpty_of_ofPatterns hlisted hpatterns) hcheck
  rw [hdefault] at hlink
  refine ⟨host, path, hhost, hpath, htrusts, hlink, ?_⟩
  constructor
  · intro hform scheme hscheme
    rw [hscheme, Option.getD_some, String.append_assoc, String.append_assoc] at hlink
    exact isProtocol_of_isTrustedLink hform hscheme hlink
  · intro hproper
    cases hscheme : (Hosts.split host).1 with
    | none =>
      have hdefaultProper := ((Options.validate_eq_ok_iff o).1 hvalid).2.1
      exact ⟨o.defaultProtocol, _, hdefaultProper, htrusts, by rw [hlink, hscheme]; rfl⟩
    | some scheme => exact ⟨scheme, _, hproper scheme hscheme, htrusts, by rw [hlink, hscheme]; rfl⟩

/-- What is computed from a site and a route that there are. -/
theorem exists_of_run {ε ε' α β γ : Type} {x : Except ε α} {y : Except ε' β} {f : α → β → γ} {c : γ}
    (h : (x.toOption.bind fun a => y.toOption.map (f a)) = some c) :
    ∃ a b, x = .ok a ∧ y = .ok b ∧ f a b = c := by
  obtain ⟨a, ha, h⟩ := Option.bind_eq_some_iff.1 h
  obtain ⟨b, hb, h⟩ := Option.map_eq_some_iff.1 h
  exact ⟨a, b, eq_ok_of_toOption ha, eq_ok_of_toOption hb, h⟩

/-- A host that brings a protocol is linked to with it. -/
theorem isTrustedLink_https :
    ∃ (s : Site) (r : Route), ofOptions { trustedHosts := ["example\\.org"] } = .ok s ∧
      (Route.compile "foo" ∅).map (·.withDefaults [("host", "example.org")]) = .ok r ∧
      s.uri r (Dict.ofList [("host", "https://example.org/")]) none =
        .ok "https://example.org/foo" ∧
      s.IsTrustedLink "foo" "https://example.org/foo" := by
  let o : Options := { trustedHosts := ["example\\.org"] }
  let params : Params := Dict.ofList [("host", "https://example.org/")]
  let route : Except TemplateError Route :=
    (Route.compile "foo" ∅).map (·.withDefaults [("host", "example.org")])
  have hrun : ((ofOptions o).toOption.bind fun s => route.toOption.map fun r =>
        (s.isExternal r, s.hosts.hostFor? r params, (r.buildPath params).toOption,
          (s.uri r params none).toOption)) =
      some (true, some "https://example.org/", some "foo", some "https://example.org/foo") := by
    decide +kernel
  obtain ⟨s, r, hs, hr, hrun⟩ := exists_of_run hrun
  obtain ⟨hext, hhost, hpath, huri⟩ : s.isExternal r = true ∧
      s.hosts.hostFor? r params = some "https://example.org/" ∧
      (r.buildPath params).toOption = some "foo" ∧
      (s.uri r params none).toOption = some "https://example.org/foo" := by
    simpa using hrun
  have hvalid : o.validate = .ok () := eq_ok_of_toOption (by decide +kernel)
  have hok := eq_ok_of_toOption huri
  obtain ⟨host, path, hhost', hpath', -, -, hiff⟩ :=
    isTrustedLink_iff hvalid (by decide) hs hext hok
  cases hhost.symm.trans hhost'
  cases (eq_ok_of_toOption hpath).symm.trans hpath'
  refine ⟨s, r, hs, hr, hok, hiff.2 ?_⟩
  decide +kernel

/-- A host with other text in front of a protocol is let through, and takes the link there. -/
theorem not_isTrustedLink_bypass :
    ∃ (s : Site) (r : Route),
      ({ trustedHosts := ["example\\.org"] } : Options).validate = .ok () ∧
      ofOptions { trustedHosts := ["example\\.org"] } = .ok s ∧
      (Route.compile "foo" ∅).map (·.withDefaults [("host", "example.org")]) = .ok r ∧
      s.isExternal r = true ∧
      s.uri r (Dict.ofList [("host", "//evil.net/?://example.org")]) none =
        .ok "//evil.net/?://example.org/foo" ∧
      r.buildPath (Dict.ofList [("host", "//evil.net/?://example.org")]) = .ok "foo" ∧
      ¬ s.IsTrustedLink "foo" "//evil.net/?://example.org/foo" := by
  let o : Options := { trustedHosts := ["example\\.org"] }
  let params : Params := Dict.ofList [("host", "//evil.net/?://example.org")]
  let route : Except TemplateError Route :=
    (Route.compile "foo" ∅).map (·.withDefaults [("host", "example.org")])
  have hrun : ((ofOptions o).toOption.bind fun s => route.toOption.map fun r =>
        (s.isExternal r, (r.buildPath params).toOption, (s.uri r params none).toOption)) =
      some (true, some "foo", some "//evil.net/?://example.org/foo") := by
    decide +kernel
  obtain ⟨s, r, hs, hr, hrun⟩ := exists_of_run hrun
  obtain ⟨hext, hpath, huri⟩ : s.isExternal r = true ∧
      (r.buildPath params).toOption = some "foo" ∧
      (s.uri r params none).toOption = some "//evil.net/?://example.org/foo" := by
    simpa using hrun
  refine ⟨s, r, eq_ok_of_toOption (by decide +kernel), hs, hr, hext, eq_ok_of_toOption huri,
    eq_ok_of_toOption hpath, ?_⟩
  -- a protocol would begin with the slash that the link begins with
  rintro ⟨protocol, host, hprotocol, -, hlink⟩
  obtain ⟨hne, hchars⟩ : protocol ≠ "" ∧ ∀ c ∈ protocol.toList, Options.isProtocolChar c = true := by
    simpa [Options.isProtocol] using hprotocol
  have htext := congrArg String.toList hlink
  simp only [String.toList_append, List.append_assoc] at htext
  cases hcs : protocol.toList with
  | nil => exact hne (String.toList_inj.1 hcs)
  | cons c cs =>
    rw [hcs] at htext hchars
    obtain ⟨rfl, -⟩ := List.cons.inj htext
    exact absurd (hchars '/' List.mem_cons_self) (by decide)

end Site

end Signpost
