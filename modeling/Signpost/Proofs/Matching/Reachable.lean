import Signpost.Except
import Signpost.Proofs.Matching.Agreement

/-!
# Which routes match something

A request path is trimmed before it is matched, and the text of a template is not. So a route whose
template keeps a slash at an end, whichever groups are left out, matches no path at all
(`match?_leading_slash`). The texts that decide this are the `samples` of the template: in each of
them some groups are left out, and every placeholder is a letter. A route matches some path just if
one of its samples has no slash at its ends, and then it matches that sample (`exists_match?_iff`).

Every text that a template derives has the ends of a sample (`Derives.exists_sample`), since a value
of a placeholder has no slash in it and is not empty.
-/

namespace Signpost

/-- Whether a path has no slash at its ends. -/
def Path.isTrimmed (cs : List Char) : Bool := cs.head? != some '/' && cs.getLast? != some '/'

theorem Path.isTrimmed_trim (cs : List Char) : isTrimmed (trim cs) = true := by
  simp [isTrimmed, trim, Text.head?_trim_ne, Text.getLast?_trim_ne]

theorem Path.trim_of_isTrimmed {cs : List Char} (h : isTrimmed cs = true) : trim cs = cs := by
  simp only [isTrimmed, Bool.and_eq_true, bne_iff_ne] at h
  exact Text.trim_eq_self h.1 h.2

namespace Template

/-- The texts of a template in which some groups are left out and every placeholder is a letter. -/
def samples : Template → List (List Char)
  | empty => [[]]
  | literal text rest => rest.samples.map (text.toList ++ ·)
  | placeholder _ _ rest => rest.samples.map ('x' :: ·)
  | group body rest => (body.samples.flatMap fun s => rest.samples.map (s ++ ·)) ++ rest.samples

example : samples (group (literal "/" (placeholder "a" 2 empty)) (literal "/b" empty)) =
    ["/x/b".toList, "/b".toList] := by decide +kernel

/-! ## Ends of a text -/

/-- Whether two texts begin alike and end alike, if all characters but slashes are alike. -/
structure SameEnds (as bs : List Char) : Prop where
  head : as.head?.map (· == '/') = bs.head?.map (· == '/')
  last : as.getLast?.map (· == '/') = bs.getLast?.map (· == '/')

theorem SameEnds.refl (cs : List Char) : SameEnds cs cs := ⟨rfl, rfl⟩

theorem SameEnds.append {as bs cs ds : List Char} (h : SameEnds as bs) (h' : SameEnds cs ds) :
    SameEnds (as ++ cs) (bs ++ ds) := by
  constructor
  · simp only [List.head?_append, Option.map_or, h.head, h'.head]
  · simp only [List.getLast?_append, Option.map_or, h.last, h'.last]

theorem sameEnds_of_isSegment {value : List Char} (h : IsSegment value) :
    SameEnds value ['x'] := by
  have hends : ∀ c ∈ value, (c == '/') = ('x' == '/') := fun c hc => by
    simpa using h.ne_slash c hc
  constructor
  · rw [List.head?_eq_some_head h.1]
    exact congrArg some (hends _ (List.head_mem h.1))
  · rw [List.getLast?_eq_some_getLast h.1]
    exact congrArg some (hends _ (List.getLast_mem h.1))

theorem SameEnds.isTrimmed {as bs : List Char} (h : SameEnds as bs) :
    Path.isTrimmed as = Path.isTrimmed bs := by
  have hbne : ∀ o : Option Char, (o != some '/') = (o.map (· == '/') != some true) := by
    rintro (_ | c)
    · rfl
    · cases hc : c == '/' <;> simp [bne, hc]
  unfold Path.isTrimmed
  rw [hbne, hbne as.getLast?, h.head, h.last, ← hbne, ← hbne]

/-! ## Samples -/

/-- What a template reads has the ends of a sample. -/
theorem Derives.exists_sample {t : Template} {cs out : List Char}
    {values : List (String × String)} (h : t.Derives cs values out) :
    ∃ front, cs = front ++ out ∧ ∃ s ∈ t.samples, SameEnds front s := by
  induction h with
  | empty => exact ⟨[], rfl, [], List.mem_singleton_self _, .refl _⟩
  | @literal text _ _ _ _ _ ih =>
    obtain ⟨front, rfl, s, hs, hends⟩ := ih
    exact ⟨text.toList ++ front, (List.append_assoc ..).symm, text.toList ++ s,
      List.mem_map_of_mem hs, (SameEnds.refl _).append hends⟩
  | @placeholder _ _ _ value _ _ _ hvalue _ ih =>
    obtain ⟨front, rfl, s, hs, hends⟩ := ih
    exact ⟨value ++ front, (List.append_assoc ..).symm, 'x' :: s, List.mem_map_of_mem hs,
      (sameEnds_of_isSegment hvalue).append hends⟩
  | present _ _ ihb ihr =>
    obtain ⟨front, rfl, s, hs, hends⟩ := ihb
    obtain ⟨front', rfl, s', hs', hends'⟩ := ihr
    exact ⟨front ++ front', (List.append_assoc ..).symm, s ++ s', List.mem_append_left _
      (List.mem_flatMap.2 ⟨s, hs, List.mem_map_of_mem hs'⟩), hends.append hends'⟩
  | absent _ ih =>
    obtain ⟨front, rfl, s, hs, hends⟩ := ih
    exact ⟨front, rfl, s, List.mem_append_right _ hs, hends⟩

/-- A template reads its samples. -/
theorem derives_of_mem_samples {t : Template} {s : List Char} (hs : s ∈ t.samples)
    (rest : List Char) : ∃ values, t.Derives (s ++ rest) values rest := by
  induction t generalizing s rest with
  | empty =>
    obtain rfl := List.mem_singleton.1 hs
    exact ⟨[], .empty⟩
  | literal text t ih =>
    obtain ⟨s, hs', rfl⟩ := List.mem_map.1 hs
    obtain ⟨values, hread⟩ := ih hs' rest
    rw [List.append_assoc]
    exact ⟨values, .literal hread⟩
  | placeholder name position t ih =>
    obtain ⟨s, hs', rfl⟩ := List.mem_map.1 hs
    obtain ⟨values, hread⟩ := ih hs' rest
    have hletter : IsSegment ['x'] := by decide
    have hwhole : (placeholder name position t).Derives (['x'] ++ (s ++ rest)) _ rest :=
      .placeholder hletter hread
    exact ⟨_, hwhole⟩
  | group body t ihb ih =>
    rcases List.mem_append.1 hs with hs | hs
    · obtain ⟨front, hfront, hs⟩ := List.mem_flatMap.1 hs
      obtain ⟨s, hs', rfl⟩ := List.mem_map.1 hs
      obtain ⟨values', hread'⟩ := ih hs' rest
      obtain ⟨values, hread⟩ := ihb hfront (s ++ rest)
      rw [List.append_assoc]
      exact ⟨values ++ values', .present hread hread'⟩
    · obtain ⟨values, hread⟩ := ih hs rest
      exact ⟨values, .absent hread⟩

end Template

namespace Route

section
variable {text : String} {r : Route}
  (hcompile : Template.compile text ∅ defaultSegment = .ok r.compiled) (hfilters : r.filters = [])
include hcompile hfilters

/-- A path that is matched has the ends of a sample, but for the slashes that are trimmed. -/
theorem exists_sample_of_match? {path : String} {method : Method} {params : Params}
    (h : r.match? path method = some params) :
    ∃ s ∈ r.compiled.template.samples, Path.isTrimmed s = true := by
  rw [match?_eq_map hcompile hfilters, Option.map_eq_some_iff] at h
  obtain ⟨values, hderive, -⟩ := h
  obtain ⟨front, hfront, s, hs, hends⟩ := (Template.derives_of_derive? hderive).exists_sample
  rw [List.append_nil] at hfront
  exact ⟨s, hs, hends.isTrimmed ▸ hfront ▸ Path.isTrimmed_trim path.toList⟩

theorem match?_sample {s : List Char} (hs : s ∈ r.compiled.template.samples)
    (htrimmed : Path.isTrimmed s = true) (method : Method) :
    ∃ params, r.match? (String.ofList s) method = some params := by
  obtain ⟨values, hread⟩ := Template.derives_of_mem_samples hs []
  rw [List.append_nil] at hread
  rw [match?_eq_map hcompile hfilters, String.toList_ofList, Path.trim_of_isTrimmed htrimmed]
  cases hderive : r.compiled.template.derive? s with
  | none => exact absurd ⟨values, hread⟩ (Template.derive?_eq_none_iff.1 hderive)
  | some values => exact ⟨_, rfl⟩

/-- A route matches some path just if one of its samples has no slash at its ends, and it matches
each such sample. -/
theorem exists_match?_iff (method : Method) :
    ((∃ path params, r.match? path method = some params) ↔
      ∃ s ∈ r.compiled.template.samples, Path.isTrimmed s = true) ∧
    ∀ s ∈ r.compiled.template.samples, Path.isTrimmed s = true →
      ∃ params, r.match? (String.ofList s) method = some params := by
  refine ⟨⟨?_, ?_⟩, fun s hs htrimmed => match?_sample hcompile hfilters hs htrimmed method⟩
  · rintro ⟨path, params, h⟩
    exact exists_sample_of_match? hcompile hfilters h
  · rintro ⟨s, hs, htrimmed⟩
    exact ⟨String.ofList s, match?_sample hcompile hfilters hs htrimmed method⟩

end

/-- Without its groups the template has no slash at its ends. -/
theorem exists_match?_iff_optional :
    ∃ r : Route, Template.compile "(/<lang>/)users(/)" ∅ defaultSegment = .ok r.compiled ∧
      r.compiled.template.samples =
        ["/x/users/", "/x/users", "users/", "users"].map String.toList ∧
      (∃ path params, r.match? path .get = some params) ∧
      ∃ params, r.match? "users" .get = some params := by
  let t : Template := .group (.literal "/" (.placeholder "lang" 2 (.literal "/" .empty)))
    (.literal "users" (.group (.literal "/" .empty) .empty))
  have hrun : (Template.compile "(/<lang>/)users(/)" ∅ defaultSegment).toOption.map (·.template) =
      some t := by decide +kernel
  obtain ⟨c, hcompile, ht⟩ := exists_of_map_toOption hrun
  let r : Route := ⟨⟨c, ∅, ∅⟩, []⟩
  have hsamples : r.compiled.template.samples =
      ["/x/users/", "/x/users", "users/", "users"].map String.toList := by
    rw [show r.compiled.template = t from ht]
    decide +kernel
  have hmem : "users".toList ∈ r.compiled.template.samples := by simp [hsamples]
  obtain ⟨hiff, hsample⟩ := exists_match?_iff (r := r) hcompile rfl .get
  have husers := hsample _ hmem (by decide +kernel)
  rw [String.ofList_toList] at husers
  exact ⟨r, hcompile, hsamples, hiff.2 ⟨_, hmem, by decide +kernel⟩, husers⟩

/-- No path matches this route, since a slash in front of a path is trimmed. -/
theorem match?_leading_slash :
    ∃ r : Route, Template.compile "/users" ∅ defaultSegment = .ok r.compiled ∧ r.filters = [] ∧
      ∀ path method, r.match? path method = none := by
  have hrun : (Template.compile "/users" ∅ defaultSegment).toOption.map (·.template) =
      some (.literal "/users" .empty) := by decide +kernel
  obtain ⟨c, hcompile, ht⟩ := exists_of_map_toOption hrun
  let r : Route := ⟨⟨c, ∅, ∅⟩, []⟩
  have hsamples : r.compiled.template.samples = ["/users".toList] := by
    rw [show r.compiled.template = .literal "/users" .empty from ht]
    decide +kernel
  refine ⟨r, hcompile, rfl, fun path method => ?_⟩
  cases hmatch : r.match? path method with
  | none => rfl
  | some params =>
    obtain ⟨s, hs, htrimmed⟩ := exists_sample_of_match? hcompile rfl hmatch
    rw [hsamples] at hs
    obtain rfl := List.mem_singleton.1 hs
    cases htrimmed

end Route

end Signpost
