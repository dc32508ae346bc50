import Signpost.Except
import Signpost.Host
import Signpost.Proofs.Matching.Anchoring
import Signpost.Proofs.Regex.Language

/-!
# Patterns of trusted hosts

A list of patterns should trust the hosts that some pattern of it matches from the first to the last
character. Each pattern is accepted if it is one between the ends of the text, and for a pattern that
is one by itself that is enough: it stands alone between the ends (`Regex.eq_of_anchor`), so it is found
in a host just if it matches the whole of it.

But `a)|(?:b` is accepted too, which is no pattern by itself. Its halves are bound to one end of the
text each, and it trusts every host that begins with the one or ends with the other
(`TrustedHosts.trusts_iff`).
-/

namespace Signpost

namespace Regex

theorem Reading.eq_of_finish {st : Reading} {r : Regex} (h : st.finish = some r) :
    st.branches.close.regex = r := by
  unfold finish at h
  split at h
  · exact Option.some.inj (Option.ite_none_right_eq_some.1 h).2
  · cases h

/-- A pattern that is one by itself is a single piece between the ends of the text. -/
theorem eq_of_anchor {p : String} {r₀ r : Regex} (halone : ofString? p = some r₀)
    (hr : ofString? (anchor p) = some r) :
    ∃ depth, r = joinWith .seq (anchored [⟨r₀, depth, true⟩]).reverse := by
  obtain ⟨b, hb, hgo⟩ := parseFrom_enclosed halone (Option.isSome_iff_exists.2 ⟨r, hr⟩)
  rw [ofString?_anchor] at hr
  let body := b.branches.close
  have hclose : (b.within (started.inside none).groups []).closeGroup =
      some (started.after [⟨body.regex, body.depth + 1, true⟩] b.names.reverse) := by
    simp [Reading.closeGroup, Reading.within, Reading.groups_of_finish hb, Reading.inside,
      Reading.after, Reading.push, Branches.push, started, body]
  have hread := hgo (started.inside none).groups [] ['$'] r hr
  have hend := (parseFrom_cons [] (step_close hclose ['$'])).symm.trans hread
  rw [parseFrom_textEnd] at hend
  split at hend
  · exact ⟨body.depth + 1, Reading.eq_of_finish hb ▸ (Option.some.inj hend).symm⟩
  · cases hend

/-- Between the ends of the text, a pattern that is one by itself matches whole texts only. -/
theorem matchesIn_anchor_iff {p : String} {r₀ r : Regex} (halone : ofString? p = some r₀)
    (hr : ofString? (anchor p) = some r) (text : List Char) :
    r.MatchesIn text ↔ r₀.MatchesWhole text := by
  obtain ⟨depth, rfl⟩ := eq_of_anchor halone hr
  rw [← isSome_search?_iff, search?_anchored, Option.isSome_map, List.find?_isSome]
  simp only [List.map_cons, List.map_nil, seqPaths_singleton, List.isEmpty_iff]
  constructor
  · rintro ⟨x, hx, hend⟩
    exact ⟨x.stop, hend, (exists_path_iff ..).1 ⟨x, hx, rfl⟩⟩
  · rintro ⟨q, hend, hq⟩
    obtain ⟨x, hx, rfl⟩ := (exists_path_iff ..).2 hq
    exact ⟨x, hx, hend⟩

end Regex

namespace TrustedHosts

open Regex

variable {patterns : List String} {t : TrustedHosts}

/-- The patterns of a list are put between the ends of the text, one by one. -/
theorem ofPatterns_eq_ok (h : ofPatterns patterns = .ok t) :
    patterns.map (fun p => ofString? (anchor p)) = t.patterns.map some := by
  induction patterns generalizing t with
  | nil =>
    cases h
    rfl
  | cons p ps ih =>
    unfold ofPatterns at h
    split at h
    · cases h
    · rename_i r hr
      obtain ⟨t', ht', rfl⟩ := map_eq_ok_iff.1 h
      rw [List.map_cons, List.map_cons, hr, ih ht']

/-- A host is trusted just if a pattern is found in it, between the ends of the text. -/
theorem trusts_iff_anchor (h : ofPatterns patterns = .ok t) (host : String) :
    t.trusts host = true ↔
      ∃ p ∈ patterns, ∃ r, ofString? (anchor p) = some r ∧ r.MatchesIn host.toList := by
  have hread := ofPatterns_eq_ok h
  rw [trusts, List.any_eq_true]
  constructor
  · rintro ⟨r, hr, hfound⟩
    have hmem : some r ∈ patterns.map fun p => ofString? (anchor p) :=
      hread ▸ List.mem_map_of_mem hr
    obtain ⟨p, hp, hpr⟩ := List.mem_map.1 hmem
    exact ⟨p, hp, r, hpr, (isSome_search?_iff r _).1 hfound⟩
  · rintro ⟨p, hp, r, hpr, hfound⟩
    have hmem : some r ∈ t.patterns.map some :=
      hread ▸ List.mem_map.2 ⟨p, hp, hpr⟩
    obtain ⟨r', hr', heq⟩ := List.mem_map.1 hmem
    cases heq
    exact ⟨r, hr', (isSome_search?_iff r _).2 hfound⟩

/-- A pattern that is accepted is one between the ends of the text. -/
theorem exists_anchor (h : ofPatterns patterns = .ok t) {p : String} (hp : p ∈ patterns) :
    ∃ r, ofString? (anchor p) = some r := by
  have hmem : ofString? (anchor p) ∈ t.patterns.map some :=
    ofPatterns_eq_ok h ▸ List.mem_map.2 ⟨p, hp, rfl⟩
  obtain ⟨r, -, hr⟩ := List.mem_map.1 hmem
  exact ⟨r, hr.symm⟩

/-- A host is trusted just if a pattern of the list, taken by itself, matches it from the first to
the last character, or a text of the list that is no pattern by itself is one between the ends of
the text, and is found in the host. -/
theorem trusts_iff (h : ofPatterns patterns = .ok t) (host : String) :
    t.trusts host = true ↔ ∃ p ∈ patterns,
      (∃ r, ofString? p = some r ∧ r.MatchesWhole host.toList) ∨
      (ofString? p = none ∧ ∃ r, ofString? (anchor p) = some r ∧ r.MatchesIn host.toList) := by
  rw [trusts_iff_anchor h]
  refine exists_congr fun p => and_congr_right fun hp => ?_
  obtain ⟨r, hr⟩ := exists_anchor h hp
  cases halone : ofString? p with
  | none => simp
  | some r₀ => simp [hr, matchesIn_anchor_iff halone hr]

/-- A host of a domain is trusted, but none that only begins like a trusted one. -/
theorem trusts_iff_domain :
    let patterns := ["example\\.com", ".*\\.example\\.org"]
    ∃ t, ofPatterns patterns = .ok t ∧
      t.trusts "www.example.org" = true ∧
      (∃ p ∈ patterns,
        (∃ r, ofString? p = some r ∧ r.MatchesWhole "www.example.org".toList) ∨
        (ofString? p = none ∧
          ∃ r, ofString? (anchor p) = some r ∧ r.MatchesIn "www.example.org".toList)) ∧
      t.trusts "example.com.evil.net" = false ∧
      ¬ ∃ p ∈ patterns, ∃ r, ofString? p = some r ∧ r.MatchesWhole "example.com.evil.net".toList := by
  intro patterns
  have hrun : (ofPatterns patterns).toOption.map
      (fun t => (t.trusts "www.example.org", t.trusts "example.com.evil.net")) =
      some (true, false) := by
    decide +kernel
  obtain ⟨t, ht, hrun⟩ := exists_of_map_toOption hrun
  obtain ⟨htrusts, hnot⟩ := Prod.mk.inj hrun
  refine ⟨t, ht, htrusts, (trusts_iff ht _).1 htrusts, hnot, ?_⟩
  rintro ⟨p, hp, hwhole⟩
  exact Bool.eq_false_iff.1 hnot ((trusts_iff ht _).2 ⟨p, hp, .inl hwhole⟩)

/-- The text closes the parentheses around it and opens others. It is no pattern by itself, and
trusts a host that only begins with its first half. -/
theorem trusts_of_not_matchesWhole :
    let patterns := ["example\\.com)|(?:example\\.org"]
    let host := "example.com.evil.net"
    ∃ t, ofPatterns patterns = .ok t ∧ t.trusts host = true ∧
      ¬ ∃ p ∈ patterns, ∃ r, ofString? p = some r ∧ r.MatchesWhole host.toList := by
  intro patterns host
  have hrun : (ofPatterns patterns).toOption.map (·.trusts host) = some true := by
    decide +kernel
  obtain ⟨t, ht, htrusts⟩ := exists_of_map_toOption hrun
  have hnone : ∀ p ∈ patterns, ofString? p = none := by decide +kernel
  refine ⟨t, ht, htrusts, ?_⟩
  rintro ⟨p, hp, r, hr, -⟩
  cases (hnone p hp).symm.trans hr

end TrustedHosts

end Signpost
