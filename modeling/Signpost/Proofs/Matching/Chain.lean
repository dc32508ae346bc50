import Signpost.Proofs.Matching.Derivation
import Signpost.Proofs.Template.Chain

/-!
# What a chain derives

The template of a chain derives segments with a slash between two of them, at most as many as it has
placeholders (`IsChain.derives_iff`). The slashes tell where each segment ends, so there is one
derivation of a path at most (`IsChain.derive?_joined`).
-/

namespace Signpost

namespace Template

/-! ## Segments between slashes -/

/-- Some segments with a slash between two of them. -/
def joined (vs : List (List Char)) : List Char := (vs.flatMap ('/' :: ·)).tail

theorem joined_cons (v : List Char) (vs : List (List Char)) :
    joined (v :: vs) = v ++ vs.flatMap ('/' :: ·) := rfl

theorem takeWhile_segment {v : List Char} (h : IsSegment v) (vs : List (List Char)) :
    (v ++ vs.flatMap ('/' :: ·)).takeWhile (· != '/') = v := by
  rw [List.takeWhile_append_of_pos fun c hc => bne_iff_ne.2 (h.ne_slash c hc)]
  cases vs with
  | nil => simp
  | cons w ws => simp

/-- Slashes in front of segments tell where each of them ends. -/
theorem flatMap_slash_injective {vs ws : List (List Char)} (hv : ∀ v ∈ vs, IsSegment v)
    (hw : ∀ w ∈ ws, IsSegment w) (h : vs.flatMap ('/' :: ·) = ws.flatMap ('/' :: ·)) : vs = ws := by
  induction vs generalizing ws with
  | nil =>
    cases ws with
    | nil => rfl
    | cons w ws => cases h
  | cons v vs ih =>
    cases ws with
    | nil => cases h
    | cons w ws =>
      obtain ⟨hv1, hvs⟩ := List.forall_mem_cons.1 hv
      obtain ⟨hw1, hws⟩ := List.forall_mem_cons.1 hw
      have htail : v ++ vs.flatMap ('/' :: ·) = w ++ ws.flatMap ('/' :: ·) :=
        (List.cons.inj h).2
      have hvw : v = w := by
        rw [← takeWhile_segment hv1 vs, htail, takeWhile_segment hw1]
      subst hvw
      rw [ih hvs hws (List.append_cancel_left htail)]

theorem joined_eq_nil_iff {vs : List (List Char)} (h : ∀ v ∈ vs, IsSegment v) :
    joined vs = [] ↔ vs = [] := by
  cases vs with
  | nil => exact ⟨fun _ => rfl, fun _ => rfl⟩
  | cons v vs =>
    have hv := (h v List.mem_cons_self).1
    simp [joined_cons, hv]

theorem joined_injective {vs ws : List (List Char)} (hv : ∀ v ∈ vs, IsSegment v)
    (hw : ∀ w ∈ ws, IsSegment w) (h : joined vs = joined ws) : vs = ws := by
  cases vs with
  | nil => exact ((joined_eq_nil_iff hw).1 h.symm).symm
  | cons v vs =>
    cases ws with
    | nil => exact (joined_eq_nil_iff hv).1 h
    | cons w ws => exact flatMap_slash_injective hv hw (congrArg ('/' :: ·) h)

/-! ## Derivations of a chain -/

/-- Segments that the first of some names take, with the values that they have then. -/
structure Takes (ps : List String) (vs : List (List Char)) (values : List (String × String)) :
    Prop where
  length_le : vs.length ≤ ps.length
  segments : ∀ v ∈ vs, IsSegment v
  values_eq : values = ps.zip (vs.map String.ofList)

theorem takes_nil_iff {ps : List String} {values : List (String × String)} :
    Takes ps [] values ↔ values = [] := by
  constructor
  · intro h
    simpa using h.values_eq
  · rintro rfl
    exact ⟨Nat.zero_le _, List.forall_mem_nil _, by simp⟩

theorem takes_cons_iff {p : String} {ps : List String} {v : List Char} {vs : List (List Char)}
    {values : List (String × String)} :
    Takes (p :: ps) (v :: vs) values ↔ IsSegment v ∧
      ∃ values', Takes ps vs values' ∧ values = (p, String.ofList v) :: values' := by
  constructor
  · rintro ⟨hlen, hvs, rfl⟩
    obtain ⟨hv, hvs⟩ := List.forall_mem_cons.1 hvs
    exact ⟨hv, _, ⟨Nat.le_of_succ_le_succ hlen, hvs, rfl⟩, rfl⟩
  · rintro ⟨hv, _, ⟨hlen, hvs, rfl⟩, rfl⟩
    exact ⟨Nat.succ_le_succ hlen, List.forall_mem_cons.2 ⟨hv, hvs⟩, rfl⟩

theorem takes_empty_iff {vs : List (List Char)} {values : List (String × String)} :
    Takes [] vs values ↔ vs = [] ∧ values = [] := by
  constructor
  · rintro ⟨hlen, -, rfl⟩
    exact ⟨List.eq_nil_of_length_eq_zero (Nat.le_zero.1 hlen), rfl⟩
  · rintro ⟨rfl, rfl⟩
    exact takes_nil_iff.2 rfl

/-- The first placeholder of a chain reads a segment, and the links behind it read the others. -/
theorem derives_placeholder_iff {p : String} {ps : List String} {position : Nat} {t : Template}
    (ht : ∀ {cs values}, t.Derives cs values [] ↔
      ∃ vs, Takes ps vs values ∧ cs = vs.flatMap ('/' :: ·))
    {cs : List Char} {values : List (String × String)} :
    (placeholder p position t).Derives cs values [] ↔
      ∃ vs, Takes (p :: ps) vs values ∧ vs ≠ [] ∧ cs = joined vs := by
  constructor
  · intro h
    cases h with
    | @placeholder _ _ _ v cs values _ hv h =>
      obtain ⟨vs, htakes, rfl⟩ := ht.1 h
      exact ⟨v :: vs, takes_cons_iff.2 ⟨hv, values, htakes, rfl⟩, by simp, rfl⟩
  · rintro ⟨vs, htakes, hne, rfl⟩
    cases vs with
    | nil => exact absurd rfl hne
    | cons v vs =>
      obtain ⟨hv, values', hrest, rfl⟩ := takes_cons_iff.1 htakes
      exact .placeholder hv (ht.2 ⟨vs, hrest, rfl⟩)

/-- A group that stands alone reads as its body does, or nothing. -/
theorem derives_group_empty_iff {body : Template} {cs : List Char}
    {values : List (String × String)} :
    (group body empty).Derives cs values [] ↔
      body.Derives cs values [] ∨ cs = [] ∧ values = [] := by
  constructor
  · intro h
    cases h with
    | present hb hr =>
      cases hr
      rw [List.append_nil]
      exact .inl hb
    | absent hr =>
      cases hr
      exact .inr ⟨rfl, rfl⟩
  · rintro (hb | ⟨rfl, rfl⟩)
    · exact List.append_nil values ▸ .present hb .empty
    · exact .absent .empty

/-- Links read segments with a slash in front of each. -/
theorem Links.derives_iff {ps : List String} {t : Template} (h : Links ps t) {cs : List Char}
    {values : List (String × String)} :
    t.Derives cs values [] ↔ ∃ vs, Takes ps vs values ∧ cs = vs.flatMap ('/' :: ·) := by
  induction h generalizing cs values with
  | nil =>
    constructor
    · intro hd
      cases hd
      exact ⟨[], takes_nil_iff.2 rfl, rfl⟩
    · rintro ⟨vs, htakes, rfl⟩
      obtain ⟨rfl, rfl⟩ := takes_empty_iff.1 htakes
      exact .empty
  | @cons p ps position t _ ih =>
    rw [derives_group_empty_iff]
    constructor
    · rintro (hb | ⟨rfl, rfl⟩)
      · cases hb with
        | literal hb =>
          obtain ⟨vs, htakes, hne, rfl⟩ := (derives_placeholder_iff ih).1 hb
          cases vs with
          | nil => exact absurd rfl hne
          | cons v vs => exact ⟨v :: vs, htakes, rfl⟩
      · exact ⟨[], takes_nil_iff.2 rfl, rfl⟩
    · rintro ⟨vs, htakes, rfl⟩
      cases vs with
      | nil => exact .inr ⟨rfl, takes_nil_iff.1 htakes⟩
      | cons v vs =>
        have hhead : (placeholder p position t).Derives (joined (v :: vs)) values [] :=
          (derives_placeholder_iff ih).2 ⟨v :: vs, htakes, by simp, rfl⟩
        have hbody : (literal "/" (placeholder p position t)).Derives
            ("/".toList ++ joined (v :: vs)) values [] := .literal hhead
        exact .inl hbody

/-- A chain reads segments between slashes, at least one of them unless it is wrapped. -/
theorem IsChain.derives_iff {wrapped : Bool} {ps : List String} {t : Template}
    (h : IsChain wrapped ps t) {cs : List Char} {values : List (String × String)} :
    t.Derives cs values [] ↔
      ∃ vs, Takes ps vs values ∧ (wrapped = false → vs ≠ []) ∧ cs = joined vs := by
  cases h with
  | plain ht => simpa using derives_placeholder_iff ht.derives_iff
  | wrapped ht =>
    rw [derives_group_empty_iff, derives_placeholder_iff ht.derives_iff]
    constructor
    · rintro (⟨vs, htakes, -, rfl⟩ | ⟨rfl, rfl⟩)
      · exact ⟨vs, htakes, by simp, rfl⟩
      · exact ⟨[], takes_nil_iff.2 rfl, by simp, rfl⟩
    · rintro ⟨vs, htakes, -, rfl⟩
      cases vs with
      | nil => exact .inr ⟨rfl, takes_nil_iff.1 htakes⟩
      | cons v vs => exact .inl ⟨v :: vs, htakes, by simp, rfl⟩

/-- The segments of a path are read in one way only. -/
theorem IsChain.derive?_joined {wrapped : Bool} {ps : List String} {t : Template}
    (h : IsChain wrapped ps t) {vs : List (List Char)} {values : List (String × String)}
    (htakes : Takes ps vs values) (hne : wrapped = false → vs ≠ []) :
    t.derive? (joined vs) = some values := by
  refine derive?_eq_some_of_unique (h.derives_iff.2 ⟨vs, htakes, hne, rfl⟩) fun values' hd => ?_
  obtain ⟨ws, htakes', -, hjoined⟩ := h.derives_iff.1 hd
  rw [htakes.values_eq, htakes'.values_eq,
    joined_injective htakes.segments htakes'.segments hjoined]

end Template

end Signpost
