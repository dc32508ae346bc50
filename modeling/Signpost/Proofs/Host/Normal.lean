import Signpost.Proofs.Host.Links

/-!
# The start of a link is settled

The start of a link to a host is a protocol, "://" and the bare host. Read as a host again, it is split
at the same place: no protocol has a "://" in it, and none begins in its last characters and ends
behind them (`Text.splitOnce?_separator`). The bare host has no slash left at its end. So the start
of a link to the start of a link is that start, and another protocol can be put in front of it as of
the host it was made from (`Hosts.absolute_absolute`).
-/

namespace Signpost

/-- A text without a "://" in it ends at the first one behind it. -/
theorem Text.splitOnce?_separator {a : List Char} (h : ¬ "://".toList <:+: a) (b : List Char) :
    splitOnce? "://".toList (a ++ "://".toList ++ b) = some (a, b) := by
  induction a with
  | nil => rfl
  | cons c a ih =>
    have ha : ¬ "://".toList <:+: a := fun hsep => h (hsep.trans (List.suffix_cons c a).isInfix)
    have hnot : ¬ "://".toList.isPrefixOf (c :: (a ++ "://".toList ++ b)) = true := by
      intro hsep
      obtain ⟨hc, hsep⟩ := List.cons_prefix_cons.1 (List.isPrefixOf_iff_prefix.1 hsep)
      -- the slashes would stand in the text, or where the colon behind it does
      match a with
      | [] => exact absurd (List.cons_prefix_cons.1 hsep).1 (by decide)
      | [_] => exact absurd (List.cons_prefix_cons.1 (List.cons_prefix_cons.1 hsep).2).1 (by decide)
      | d :: e :: a =>
        obtain ⟨hd, hsep⟩ := List.cons_prefix_cons.1 hsep
        obtain ⟨he, -⟩ := List.cons_prefix_cons.1 hsep
        exact h ⟨[], a, by rw [← hc, ← hd, ← he]; rfl⟩
    rw [List.cons_append, List.cons_append, splitOnce?, if_neg hnot, ih ha]
    rfl

namespace Hosts

variable {h : Hosts} {host : String} {protocol : Option String}

/-- The protocol that is asked for, unless it is empty. -/
theorem protocolFor_of_ne {p : String} (hp : bareProtocol p ≠ "") (embedded : Option String) :
    h.protocolFor embedded (some p) = bareProtocol p := by
  simp [protocolFor, Option.filter, hp]

/-- The protocol of a link ends at the first "://" of the link. -/
theorem splitOnce?_protocolFor (hdefault : Options.isProtocol h.defaultProtocol = true)
    (hasked : ∀ p ∈ protocol, ¬ "://".toList <:+: (bareProtocol p).toList) (rest : List Char) :
    Text.splitOnce? "://".toList
      ((h.protocolFor (split host).1 protocol).toList ++ "://".toList ++ rest) =
      some ((h.protocolFor (split host).1 protocol).toList, rest) := by
  unfold protocolFor
  split
  · rename_i p hp
    obtain ⟨hp, -⟩ := Option.filter_eq_some_iff.1 hp
    obtain ⟨q, hq, rfl⟩ := Option.map_eq_some_iff.1 hp
    exact Text.splitOnce?_separator (hasked q hq) rest
  · cases hscheme : (split host).1 with
    | none => exact Site.splitOnce?_of_isProtocol hdefault rest
    | some scheme => exact splitOnce?_of_split hscheme rest

/-- Slashes at the end are no part of a bare host. -/
theorem getLast?_split_ne (host : String) : (split host).2.toList.getLast? ≠ some '/' := by
  unfold split
  split
  all_goals
    rw [String.toList_ofList]
    exact Text.getLast?_trimEnd_ne '/' _

/-- Whether a text is a protocol, "://" and a bare host, and is split there when it is read as a
host. -/
structure IsStart (scheme bare start : String) : Prop where
  eq : start = scheme ++ "://" ++ bare
  split_eq : split start = (some scheme, bare)
  getLast?_ne : bare.toList.getLast? ≠ some '/'

/-- A text is split at its first "://", and loses nothing if it has no slash at its end. -/
theorem isStart_of_splitOnce? {scheme bare : String}
    (hsplit : Text.splitOnce? "://".toList (scheme.toList ++ "://".toList ++ bare.toList) =
      some (scheme.toList, bare.toList)) (hbare : bare.toList.getLast? ≠ some '/') :
    IsStart scheme bare (scheme ++ "://" ++ bare) := by
  refine ⟨rfl, ?_, hbare⟩
  unfold split
  rw [String.toList_append, String.toList_append, hsplit]
  simp only [Text.trimEnd_eq_self hbare, String.ofList_toList]

theorem isStart_of_absolute {start : String}
    (hdefault : Options.isProtocol h.defaultProtocol = true)
    (hasked : ∀ p ∈ protocol, ¬ "://".toList <:+: (bareProtocol p).toList)
    (hok : h.absolute host protocol = .ok start) :
    IsStart (h.protocolFor (split host).1 protocol) (split host).2 start := by
  rw [absolute_eq_ite] at hok
  split at hok
  · cases hok
    exact isStart_of_splitOnce? (splitOnce?_protocolFor hdefault hasked _) (getLast?_split_ne host)
  · cases hok

/-- The start of a link stays as it is when it is read as a host again, and with another protocol
it is what the host gives with that protocol. It is a protocol, "://" and the bare host that is
looked up among the trusted hosts, whichever these are. -/
theorem absolute_absolute {start : String}
    (hdefault : Options.isProtocol h.defaultProtocol = true)
    (hasked : ∀ p ∈ protocol, ¬ "://".toList <:+: (bareProtocol p).toList)
    (hok : h.absolute host protocol = .ok start) :
    h.absolute start none = .ok start ∧
    (∀ q, bareProtocol q ≠ "" → h.absolute start (some q) = h.absolute host (some q)) ∧
    ∃ scheme bare, IsStart scheme bare start ∧ ∀ trusted : TrustedHosts,
      { h with trusted := trusted }.absolute host protocol =
        if trusted.isEmpty || trusted.trusts bare then .ok start
        else .error (.untrustedHost bare) := by
  have hstart := isStart_of_absolute hdefault hasked hok
  refine ⟨?_, fun q hq => ?_, _, _, hstart, fun trusted => ?_⟩
  · rw [absolute_eq_ite] at hok ⊢
    rw [hstart.split_eq]
    split at hok
    · rename_i hpass
      rw [if_pos hpass, hstart.eq]
      rfl
    · cases hok
  · rw [absolute_eq_ite, absolute_eq_ite, hstart.split_eq, protocolFor_of_ne hq,
      protocolFor_of_ne hq]
  · rw [absolute_eq_ite, hstart.eq]
    rfl

/-- The slashes behind a host are gone, and the protocol in front of it gives way to another. -/
theorem absolute_absolute_ftp :
    ∃ h, ofOptions { trustedHosts := ["example\\.org"] } = .ok h ∧
      Options.isProtocol h.defaultProtocol = true ∧
      (∀ p ∈ some "ftp://", ¬ "://".toList <:+: (bareProtocol p).toList) ∧
      h.absolute "https://example.org//" (some "ftp://") = .ok "ftp://example.org" ∧
      h.absolute "ftp://example.org" none = .ok "ftp://example.org" ∧
      h.absolute "ftp://example.org" (some "ws") =
        h.absolute "https://example.org//" (some "ws") ∧
      ∃ scheme bare, IsStart scheme bare "ftp://example.org" ∧ ∀ trusted : TrustedHosts,
        { h with trusted := trusted }.absolute "https://example.org//" (some "ftp://") =
          if trusted.isEmpty || trusted.trusts bare then .ok "ftp://example.org"
          else .error (.untrustedHost bare) := by
  have hrun : (ofOptions { trustedHosts := ["example\\.org"] }).toOption.map (fun h =>
      (Options.isProtocol h.defaultProtocol,
        (h.absolute "https://example.org//" (some "ftp://")).toOption)) =
      some (true, some "ftp://example.org") := by
    decide +kernel
  obtain ⟨h, hh, hrun⟩ := exists_of_map_toOption hrun
  obtain ⟨hdefault, hok⟩ := Prod.mk.inj hrun
  have hok := eq_ok_of_toOption hok
  have hasked : ∀ p ∈ some "ftp://", ¬ "://".toList <:+: (bareProtocol p).toList := by
    intro p hp
    cases Option.mem_some.1 hp
    decide
  obtain ⟨hsame, hother, hform⟩ := absolute_absolute hdefault hasked hok
  exact ⟨h, hh, hdefault, hasked, hok, hsame, hother "ws" (by decide), hform⟩

end Hosts

end Signpost
