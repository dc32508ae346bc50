import Signpost.Proofs.Registry.Step
import Signpost.Proofs.Template.Effective

/-!
# Settings that are in order

Settings are looked at in three places: they are validated as a whole, their trusted hosts are read for
the links of a site, and their default pattern is used by every route that is compiled. The three agree
on what a pattern is (`Options.checksAgree`). Settings that were validated make a site and a
registry, and a route can fail for the pattern of a placeholder then only if that brought its own. Of
trusted hosts the same one is reported wherever they are read, the first that is no pattern
(`TrustedHosts.ofPatterns_eq_error_iff`, `Options.validate_eq_ofPatterns`).
-/

namespace Signpost

open Regex (isPattern ofString? anchor)

namespace TrustedHosts

variable {patterns : List String} {p : String}

/-- Whether a text is the first one of a list, in order, that is no pattern. -/
def FirstImproper (patterns : List String) (p : String) : Prop :=
  ∃ before after, patterns = before ++ p :: after ∧ isPattern p = false ∧
    ∀ q ∈ before, isPattern q = true

theorem find?_eq_some_iff :
    patterns.find? (!isPattern ·) = some p ↔ FirstImproper patterns p :=
  Template.find?_improper_eq_some_iff

theorem ofPatterns_eq_error_iff_find? {e : OptionsError} :
    ofPatterns patterns = .error e ↔
      ∃ p, patterns.find? (!isPattern ·) = some p ∧ e = .invalidTrustedHost p := by
  induction patterns with
  | nil => simp [ofPatterns]
  | cons q qs ih =>
    rw [ofPatterns]
    cases hread : ofString? (anchor q) with
    | none =>
      have hq : isPattern q = false := by rw [isPattern, hread]; rfl
      simp [hq, eq_comm]
    | some r =>
      have hq : isPattern q = true := by rw [isPattern, hread]; rfl
      rw [map_eq_error_iff, ih, List.find?_cons, hq]
      rfl

/-- Reading the patterns of trusted hosts stops at the first text that is none. -/
theorem ofPatterns_eq_error_iff {e : OptionsError} :
    ofPatterns patterns = .error e ↔
      ∃ p, FirstImproper patterns p ∧ e = .invalidTrustedHost p := by
  simp only [ofPatterns_eq_error_iff_find?, find?_eq_some_iff]

theorem exists_firstImproper_iff :
    (∃ p, FirstImproper patterns p) ↔ ∃ p ∈ patterns, isPattern p = false := by
  simp only [← find?_eq_some_iff, ← Option.isSome_iff_exists, List.find?_isSome,
    Bool.not_eq_true']

end TrustedHosts

theorem Site.ofOptions_eq_error_iff {o : Options} {e : OptionsError} :
    Site.ofOptions o = .error e ↔ TrustedHosts.ofPatterns o.trustedHosts = .error e := by
  rw [ofOptions, map_eq_error_iff, Hosts.ofOptions, map_eq_error_iff]

theorem Route.compileWith_eq_error_iff {text : String} {overrides : Dict String} {o : Options}
    {e : TemplateError} :
    Route.compileWith text overrides o = .error e ↔
      Template.compile text overrides o.defaultSegment = .error e := by
  rw [compileWith]
  cases Template.compile text overrides o.defaultSegment <;> simp

namespace Options

variable {o : Options}

/-! ## Validated settings -/

/-- Settings with which all is in order, but maybe for the patterns of trusted hosts. -/
structure ValidButHosts (o : Options) : Prop where
  action : isBlank o.defaultAction = false
  protocol : isProtocol o.defaultProtocol = true
  segment : isPattern o.defaultSegment = true

/-- Behind the other checks, settings are validated as their trusted hosts are read. -/
theorem validate_eq_ofPatterns (h : o.ValidButHosts) :
    o.validate = (TrustedHosts.ofPatterns o.trustedHosts).map fun _ => () := by
  rw [validate, h.action, h.protocol, h.segment]
  cases hread : TrustedHosts.ofPatterns o.trustedHosts with
  | error e =>
    obtain ⟨p, hfind, rfl⟩ := TrustedHosts.ofPatterns_eq_error_iff_find?.1 hread
    rw [hfind]
    rfl
  | ok t =>
    cases hfind : o.trustedHosts.find? (!isPattern ·) with
    | none => rfl
    | some p =>
      cases hread.symm.trans (TrustedHosts.ofPatterns_eq_error_iff_find?.2 ⟨p, hfind, rfl⟩)

theorem validButHosts_of_validate (h : o.validate = .ok ()) : o.ValidButHosts := by
  obtain ⟨haction, hprotocol, hsegment, -⟩ := (validate_eq_ok_iff o).1 h
  exact ⟨haction, hprotocol, hsegment⟩

theorem exists_site_of_validate (h : o.validate = .ok ()) : ∃ site, Site.ofOptions o = .ok site := by
  cases hsite : Site.ofOptions o with
  | ok site => exact ⟨site, rfl⟩
  | error e =>
    rw [validate_eq_ofPatterns (validButHosts_of_validate h),
      Site.ofOptions_eq_error_iff.1 hsite] at h
    cases h

/-- With a default that is a pattern, only an override can be none. -/
theorem override_of_invalidRegex (h : isPattern o.defaultSegment = true) {text text' n : String}
    {overrides : Dict String}
    (hcompile : Route.compileWith text overrides o = .error ⟨text', .invalidRegex n⟩) :
    ∃ p, overrides.get? n = some p ∧ isPattern p = false := by
  obtain ⟨-, t, -, hn⟩ :=
    Template.compile_eq_invalidRegex_iff.1 (Route.compileWith_eq_error_iff.1 hcompile)
  have himproper := hn.improper
  rw [Template.effective] at himproper
  cases hoverride : overrides.get? n with
  | none =>
    rw [hoverride, Option.getD_none, h] at himproper
    cases himproper
  | some p =>
    rw [hoverride, Option.getD_some] at himproper
    exact ⟨p, rfl, himproper⟩

/-! ## All places agree -/

/-- What the places that look at some settings find. -/
structure ChecksAgree (o : Options) : Prop where
  /-- Settings that are valid make a site and a registry. -/
  accepted : o.validate = .ok () → ∃ site, Site.ofOptions o = .ok site ∧
    ∀ owner, Registry.new owner o = .ok { owner, options := o, site }
  /-- By valid settings, only a placeholder with a pattern of its own is refused for its pattern. -/
  compiled : o.validate = .ok () → ∀ text overrides text' n,
    Route.compileWith text overrides o = .error ⟨text', .invalidRegex n⟩ →
    ∃ p, overrides.get? n = some p ∧ isPattern p = false
  /-- A registry is refused for the fault of its settings. -/
  refused : ∀ e, o.validate = .error e → ∀ owner, Registry.new owner o = .error (.options e)
  /-- A site is refused just if a trusted host is no pattern. -/
  fails : (∃ e, Site.ofOptions o = .error e) ↔ ∃ p ∈ o.trustedHosts, isPattern p = false
  /-- The first such host is the one that is reported. -/
  reported : ∀ e, Site.ofOptions o = .error e ↔
    ∃ p, TrustedHosts.FirstImproper o.trustedHosts p ∧ e = .invalidTrustedHost p
  /-- It is the one that validation reports too, if nothing else is wrong. -/
  same : o.ValidButHosts → ∀ e, o.validate = .error e ↔ Site.ofOptions o = .error e

/-- Validating settings, making a site or a registry by them, and compiling routes by them agree on
every pattern, and on the first one that is reported. -/
theorem checksAgree (o : Options) : o.ChecksAgree where
  accepted hvalid := by
    obtain ⟨site, hsite⟩ := exists_site_of_validate hvalid
    exact ⟨site, hsite, fun owner => Registry.new_eq_ok_iff.2 ⟨hvalid, site, hsite, rfl⟩⟩
  compiled hvalid text overrides text' n :=
    override_of_invalidRegex (validButHosts_of_validate hvalid).segment
  refused e hvalid owner := by rw [Registry.new, hvalid]
  fails := by
    simp only [Site.ofOptions_eq_error_iff, TrustedHosts.ofPatterns_eq_error_iff,
      ← TrustedHosts.exists_firstImproper_iff]
    constructor
    · rintro ⟨e, p, hp, -⟩
      exact ⟨p, hp⟩
    · rintro ⟨p, hp⟩
      exact ⟨_, p, hp, rfl⟩
  reported e := Site.ofOptions_eq_error_iff.trans TrustedHosts.ofPatterns_eq_error_iff
  same hvalid e := by
    rw [validate_eq_ofPatterns hvalid, map_eq_error_iff, Site.ofOptions_eq_error_iff]

/-- Of two trusted hosts that are no patterns the first one is reported everywhere. With one host that
is a pattern, a registry comes about, and compiles no template whose override is none. -/
theorem checksAgree_hosts :
    let wrong : Options := { trustedHosts := ["example\\.org", "(", "["] }
    let right : Options := { trustedHosts := ["example\\.org"] }
    (wrong.validate = .error (.invalidTrustedHost "(") ∧
      Site.ofOptions wrong = .error (.invalidTrustedHost "(") ∧
      Registry.new 0 wrong = .error (.options (.invalidTrustedHost "("))) ∧
    (right.validate = .ok () ∧
      (∃ r, Registry.new 0 right = .ok r ∧ r.options = right) ∧
      let own : Dict String := Dict.ofList [("id", "(")]
      Route.compileWith "<page>(/<id>)" own right = .error ⟨"<page>(/<id>)", .invalidRegex "id"⟩ ∧
      ∃ p, own.get? "id" = some p ∧ isPattern p = false) := by
  intro wrong right
  have hwrong := checksAgree wrong
  have hright := checksAgree right
  have hfirst : TrustedHosts.FirstImproper wrong.trustedHosts "(" :=
    ⟨["example\\.org"], ["["], rfl, by decide +kernel, by decide +kernel⟩
  have hsite := (hwrong.reported _).2 ⟨"(", hfirst, rfl⟩
  have hrefused : wrong.validate = .error (.invalidTrustedHost "(") :=
    (hwrong.same ⟨by decide, by decide, by decide +kernel⟩ _).2 hsite
  have hvalid : right.validate = .ok () :=
    (validate_eq_ok_iff right).2 ⟨by decide, by decide, by decide +kernel, by decide +kernel⟩
  obtain ⟨site, -, hnew⟩ := hright.accepted hvalid
  have hcompile : Route.compileWith "<page>(/<id>)" (Dict.ofList [("id", "(")]) right =
      .error ⟨"<page>(/<id>)", .invalidRegex "id"⟩ := by
    refine Route.compileWith_eq_error_iff.2 (Template.compile_eq_invalidRegex_iff.2 ⟨rfl, _, rfl, ?_⟩)
    exact ⟨["page"], [], rfl, by decide +kernel, by decide +kernel⟩
  exact ⟨⟨hrefused, hsite, hwrong.refused _ hrefused 0⟩, hvalid, ⟨_, hnew 0, rfl⟩, hcompile,
    hright.compiled hvalid _ _ _ _ hcompile⟩

end Options

end Signpost
