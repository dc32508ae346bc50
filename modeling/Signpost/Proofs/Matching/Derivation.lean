import Mathlib.Data.List.Basic
import Signpost.Template.Basic

/-!
# Derivations of a template

What a path means by the tree of a template alone, without a pattern. A derivation reads the front
of a text: literal text reads itself, a placeholder reads one or more characters of a segment, and a
group is read or left out.

`derivations` tries these ways in order, the longest value of a placeholder first and a group before
its absence; `derive?` takes the first one that reads the whole text. `Derives` says the same
without an order, and `mem_derivations` ties the two together.
-/

namespace Signpost

namespace Template

/-- Whether a character may stand in a segment of a path. -/
def isSegmentChar (c : Char) : Bool := !(['/', '.', ',', ';', '?', '\n'].contains c)

/-- Some characters of one segment, at least one. -/
def IsSegment (cs : List Char) : Prop := cs ≠ [] ∧ ∀ c ∈ cs, isSegmentChar c = true

theorem isSegment_iff_all {cs : List Char} :
    (!cs.isEmpty && cs.all isSegmentChar) = true ↔ IsSegment cs := by
  simp [IsSegment]

instance (cs : List Char) : Decidable (IsSegment cs) := decidable_of_iff _ isSegment_iff_all

theorem IsSegment.ne_slash {v : List Char} (h : IsSegment v) : ∀ c ∈ v, c ≠ '/' := by
  intro c hc he
  have hslash : isSegmentChar '/' = true := he ▸ h.2 c hc
  cases hslash

/-- The ways to cut a value off the front of a text, the longest value first. -/
def segmentCuts : List Char → List (List Char × List Char)
  | [] => []
  | c :: cs =>
    if isSegmentChar c then (segmentCuts cs).map (fun x => (c :: x.1, x.2)) ++ [([c], cs)] else []

/-- A way in which a template reads the front of a text: what its placeholders read, in order, and
the text that is left. -/
structure Derivation where
  values : List (String × String)
  rest : List Char
deriving Repr, DecidableEq

/-- One derivation after another. -/
def Derivation.andThen (d e : Derivation) : Derivation := ⟨d.values ++ e.values, e.rest⟩

theorem map_nil_andThen (cs : List Char) (ds : List Derivation) :
    ds.map (Derivation.andThen ⟨[], cs⟩) = ds := List.map_id ds

/-- The ways in which a template reads the front of a text, in the order in which they are tried. -/
def derivations : Template → List Char → List Derivation
  | empty, cs => [⟨[], cs⟩]
  | literal text rest, cs =>
    match cs.dropPrefix? text.toList with
    | none => []
    | some cs => rest.derivations cs
  | placeholder name _ rest, cs =>
    (segmentCuts cs).flatMap fun x =>
      (rest.derivations x.2).map (Derivation.andThen ⟨[(name, String.ofList x.1)], x.2⟩)
  | group body rest, cs =>
    (body.derivations cs).flatMap (fun d => (rest.derivations d.rest).map d.andThen) ++
      rest.derivations cs

/-- The values of the first derivation that reads a whole text. -/
def derive? (t : Template) (cs : List Char) : Option (List (String × String)) :=
  ((t.derivations cs).find? (·.rest.isEmpty)).map (·.values)

/-- `t.Derives cs values rest`: the template can read `cs` up to `rest`, its placeholders reading
`values`. -/
inductive Derives : Template → List Char → List (String × String) → List Char → Prop
  | empty {cs} : Derives .empty cs [] cs
  | literal {text rest cs values out} :
    Derives rest cs values out → Derives (.literal text rest) (text.toList ++ cs) values out
  | placeholder {name position rest value cs values out} :
    IsSegment value → Derives rest cs values out →
    Derives (.placeholder name position rest) (value ++ cs)
      ((name, String.ofList value) :: values) out
  | present {body rest cs mid out values values'} :
    Derives body cs values mid → Derives rest mid values' out →
    Derives (.group body rest) cs (values ++ values') out
  | absent {body rest cs values out} :
    Derives rest cs values out → Derives (.group body rest) cs values out

/-! ## The order does not change what can be read -/

theorem mem_segmentCuts {cs : List Char} {x : List Char × List Char} :
    x ∈ segmentCuts cs ↔ IsSegment x.1 ∧ cs = x.1 ++ x.2 := by
  obtain ⟨value, rest⟩ := x
  show _ ↔ IsSegment value ∧ cs = value ++ rest
  induction cs generalizing value with
  | nil =>
    constructor
    · intro h
      cases h
    · rintro ⟨hv, h⟩
      exact absurd (List.append_eq_nil_iff.1 h.symm).1 hv.1
  | cons c cs ih =>
    rw [segmentCuts]
    constructor
    · intro h
      split at h
      · rename_i hc
        rcases List.mem_append.1 h with h | h
        · obtain ⟨⟨v, r⟩, hm, he⟩ := List.mem_map.1 h
          cases he
          obtain ⟨hv, rfl⟩ := (ih v).1 hm
          exact ⟨⟨(by simp), List.forall_mem_cons.2 ⟨hc, hv.2⟩⟩, rfl⟩
        · cases List.mem_singleton.1 h
          exact ⟨⟨(by simp), by simpa using hc⟩, rfl⟩
      · cases h
    · rintro ⟨⟨hne, hv⟩, h⟩
      cases value with
      | nil => exact absurd rfl hne
      | cons d ds =>
        cases h
        obtain ⟨hc, hds⟩ := List.forall_mem_cons.1 hv
        rw [if_pos hc, List.mem_append]
        cases ds with
        | nil => exact .inr List.mem_cons_self
        | cons e es =>
          exact .inl (List.mem_map.2
            ⟨(e :: es, rest), (ih _).2 ⟨⟨(by simp), hds⟩, rfl⟩, rfl⟩)

/-- Exactly what can be read is tried. -/
theorem mem_derivations {t : Template} {cs : List Char} {d : Derivation} :
    d ∈ t.derivations cs ↔ t.Derives cs d.values d.rest := by
  induction t generalizing cs d with
  | empty =>
    refine ⟨fun h => ?_, fun h => ?_⟩
    · cases List.mem_singleton.1 h
      exact .empty
    · obtain ⟨values, rest⟩ := d
      cases h
      exact List.mem_cons_self
  | literal text rest ih =>
    rw [derivations]
    refine ⟨fun h => ?_, fun h => ?_⟩
    · split at h
      · cases h
      · rename_i out hp
        obtain ⟨_, rfl, hpre⟩ := List.dropPrefix?_eq_some_iff.1 hp
        rw [eq_of_beq hpre]
        exact .literal (ih.1 h)
    · cases h with
      | literal h =>
        rw [List.dropPrefix?_append_of_beq _ BEq.rfl]
        exact ih.2 h
  | placeholder name position rest ih =>
    rw [derivations, List.mem_flatMap]
    refine ⟨fun ⟨x, hx, h⟩ => ?_, fun h => ?_⟩
    · obtain ⟨hv, rfl⟩ := mem_segmentCuts.1 hx
      obtain ⟨e, he, rfl⟩ := List.mem_map.1 h
      exact .placeholder hv (ih.1 he)
    · obtain ⟨values, out⟩ := d
      cases h with
      | @placeholder _ _ _ value cs values _ hv h =>
        exact ⟨(value, cs), mem_segmentCuts.2 ⟨hv, rfl⟩,
          List.mem_map.2 ⟨⟨values, out⟩, ih.2 h, rfl⟩⟩
  | group body rest ihb ihr =>
    rw [derivations, List.mem_append, List.mem_flatMap]
    refine ⟨fun h => ?_, fun h => ?_⟩
    · rcases h with ⟨x, hx, h⟩ | h
      · obtain ⟨e, he, rfl⟩ := List.mem_map.1 h
        exact .present (ihb.1 hx) (ihr.1 he)
      · exact .absent (ihr.1 h)
    · obtain ⟨values, out⟩ := d
      cases h with
      | @present _ _ _ mid _ values values' hb hr =>
        exact .inl ⟨⟨values, mid⟩, ihb.2 hb, List.mem_map.2 ⟨⟨values', out⟩, ihr.2 hr, rfl⟩⟩
      | absent hr => exact .inr (ihr.2 hr)

theorem derives_of_derive? {t : Template} {cs : List Char} {values : List (String × String)}
    (h : t.derive? cs = some values) : t.Derives cs values [] := by
  obtain ⟨d, hd, rfl⟩ := Option.map_eq_some_iff.1 h
  have hrest : d.rest = [] := by simpa using List.find?_some hd
  exact hrest ▸ mem_derivations.1 (List.mem_of_find?_eq_some hd)

/-- There is no first derivation only if there is none. -/
theorem derive?_eq_none_iff {t : Template} {cs : List Char} :
    t.derive? cs = none ↔ ¬ ∃ values, t.Derives cs values [] := by
  rw [derive?, Option.map_eq_none_iff, List.find?_eq_none]
  refine ⟨fun h ⟨values, hv⟩ => ?_, fun h d hd hr => ?_⟩
  · exact h ⟨values, []⟩ (mem_derivations.2 hv) rfl
  · have hrest : d.rest = [] := by simpa using hr
    exact h ⟨d.values, hrest ▸ mem_derivations.1 hd⟩

/-- A derivation that is the only one is the first one. -/
theorem derive?_eq_some_of_unique {t : Template} {cs : List Char} {values : List (String × String)}
    (h : t.Derives cs values []) (hu : ∀ values', t.Derives cs values' [] → values' = values) :
    t.derive? cs = some values := by
  cases hd : t.derive? cs with
  | none => exact absurd ⟨values, h⟩ (derive?_eq_none_iff.1 hd)
  | some values' => rw [hu values' (derives_of_derive? hd)]

/-! ## Names and values -/

/-- Placeholders read in the order of the template, each of them at most once. -/
theorem Derives.names_sublist {t : Template} {cs out : List Char} {values : List (String × String)}
    (h : t.Derives cs values out) : (values.map (·.1)).Sublist t.names := by
  induction h with
  | empty => exact List.nil_sublist _
  | literal _ ih => exact ih
  | placeholder _ _ ih => exact ih.cons_cons _
  | present _ _ ihb ihr =>
    rw [List.map_append, names_group]
    exact ihb.append ihr
  | absent _ ih =>
    rw [names_group]
    exact ih.trans (List.sublist_append_right ..)

theorem Derives.value_ne_empty {t : Template} {cs out : List Char}
    {values : List (String × String)} (h : t.Derives cs values out) :
    ∀ x ∈ values, x.2 ≠ "" := by
  induction h with
  | empty => exact fun _ hx => nomatch hx
  | literal _ ih => exact ih
  | placeholder hv _ ih =>
    refine List.forall_mem_cons.2 ⟨fun he => hv.1 ?_, ih⟩
    simpa using he
  | present _ _ ihb ihr =>
    exact fun x hx => (List.mem_append.1 hx).elim (ihb x) (ihr x)
  | absent _ ih => exact ih

end Template

end Signpost
