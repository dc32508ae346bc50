import Signpost.Except
import Signpost.Route.Build

/-!
# What a built path is

Building keeps a flag and the first missing name while it walks through a template, and fails from
inside a group as soon as the group is needed. This module says what comes of it without a walk. A
placeholder is `specified` if a value is supplied for it that differs from its default; a group is
`active` if something in it is specified, however deep; a value is `lacking` if its placeholder
stands at the top or directly in an active group, and has neither a value nor a default. The path is
then what is `written` if nothing is lacking, and else something that is lacking is reported
(`draft_ok`, `draft_error`).
-/

namespace Signpost

namespace Draft

/-- A draft is accepted as it is, or is needed and misses the value that is reported. -/
theorem settle_cases (needed : Bool) (d : Draft) :
    (d.settle needed = .ok d ∧ ((needed || d.specified) = true → d.missing = none)) ∨
    ∃ name, d.settle needed = .error name ∧ (needed || d.specified) = true ∧
      d.missing = some name := by
  unfold settle
  split
  · rename_i h
    cases hm : d.missing with
    | some name => exact .inr ⟨name, rfl, h, rfl⟩
    | none => exact .inl ⟨rfl, fun _ => rfl⟩
  · rename_i h
    exact .inl ⟨rfl, fun h' => absurd h' h⟩

end Draft

namespace Template

section
variable (defaults params : Params)

/-- Whether a value is supplied that differs from the default, or has no default. -/
def specified (name : String) : Bool :=
  (params.get? name).any fun value => defaults.get? name != some value

/-- Whether some placeholder is specified, at whatever depth. -/
def active (t : Template) : Bool := t.names.any (specified defaults params)

/-- Whether there is neither a value nor a default. -/
def lacks (name : String) : Bool := !params.contains name && !defaults.contains name

/-- The placeholders that stand directly in a sequence or in an active group of it. -/
def needed : Template → List String
  | empty => []
  | literal _ rest => rest.needed
  | placeholder name _ rest => name :: rest.needed
  | group body rest =>
    (if body.active defaults params then body.needed else []) ++ rest.needed

/-- The placeholders that need a value and have none. -/
def lacking (t : Template) : List String :=
  (t.needed defaults params).filter (lacks defaults params)

/-- The text of a placeholder: the encoded value, or else the default as it is. -/
def valueText (name : String) : String :=
  match params.get? name with
  | some value => Percent.encode value
  | none => (defaults.get? name).getD ""

/-- The text of a sequence with its active groups. -/
def written : Template → String
  | empty => ""
  | literal text rest => text ++ rest.written
  | placeholder name _ rest => valueText defaults params name ++ rest.written
  | group body rest => (if body.active defaults params then body.written else "") ++ rest.written

end

section
variable {defaults params : Params}

theorem mem_lacking {t : Template} {name : String} :
    name ∈ t.lacking defaults params ↔
      name ∈ t.needed defaults params ∧ lacks defaults params name = true :=
  List.mem_filter

theorem lacks_of_mem_needed {t : Template} {name : String} (h : t.lacking defaults params = [])
    (hname : name ∈ t.needed defaults params) : lacks defaults params name = false := by
  have hnot : name ∉ t.lacking defaults params := h ▸ List.not_mem_nil
  simpa [mem_lacking, hname] using hnot

theorem lacking_placeholder (name : String) (position : Nat) (rest : Template) :
    (placeholder name position rest).lacking defaults params =
      if lacks defaults params name then name :: rest.lacking defaults params
      else rest.lacking defaults params :=
  List.filter_cons

theorem lacking_group (body rest : Template) :
    (group body rest).lacking defaults params =
      (if body.active defaults params then body.lacking defaults params else []) ++
        rest.lacking defaults params := by
  rw [lacking, needed, List.filter_append]
  split <;> rfl

theorem active_group (body rest : Template) :
    (group body rest).active defaults params =
      (body.active defaults params || rest.active defaults params) := by
  simp [active, names, placeholders]

theorem active_placeholder (name : String) (position : Nat) (rest : Template) :
    (placeholder name position rest).active defaults params =
      (specified defaults params name || rest.active defaults params) := by
  simp [active, names, placeholders]

/-- A placeholder puts its text in front, which is empty if its value is lacking. Then its name is the
one that is missing. -/
theorem draft_placeholder (name : String) (position : Nat) (rest : Template) :
    (placeholder name position rest).draft defaults params =
      (rest.draft defaults params).map fun d =>
        ⟨valueText defaults params name ++ d.text, specified defaults params name || d.specified,
          if lacks defaults params name then some name else d.missing⟩ := by
  rw [draft]
  cases rest.draft defaults params with
  | error e => rfl
  | ok d =>
    unfold lacks valueText specified Dict.contains
    cases params.get? name with
    | some value => rfl
    | none =>
      cases defaults.get? name with
      | some default => rfl
      | none =>
        show _ = Except.ok (Draft.mk ("" ++ d.text) _ _)
        rw [String.empty_append]
        rfl

/-- A value deep in a template makes the groups around it needed. -/
example :
    (group (literal "/" (placeholder "b" 2 (group (placeholder "c" 6 empty) empty))) empty).lacking
      ∅ (Dict.ofList [("c", "x")]) = ["b"] := by decide +kernel

/-- A sequence that is drafted has the text that is written for it. It misses a value only if one
is lacking, and then one that is. -/
theorem draft_ok {t : Template} {d : Draft} (h : t.draft defaults params = .ok d) :
    d.text = t.written defaults params ∧ d.specified = t.active defaults params ∧
      (d.missing = none → t.lacking defaults params = []) ∧
      ∀ name ∈ d.missing, name ∈ t.lacking defaults params := by
  induction t generalizing d with
  | empty =>
    cases h
    exact ⟨rfl, rfl, fun _ => rfl, fun _ hn => nomatch hn⟩
  | literal text rest ih =>
    obtain ⟨e, he, h⟩ := exists_of_bind_eq_ok h
    obtain ⟨htext, hspecified, hnone, hmissing⟩ := ih he
    cases h
    exact ⟨congrArg (text ++ ·) htext, hspecified, hnone, hmissing⟩
  | placeholder name position rest ih =>
    rw [draft_placeholder] at h
    obtain ⟨e, he, rfl⟩ := map_eq_ok_iff.1 h
    obtain ⟨htext, hspecified, hnone, hmissing⟩ := ih he
    rw [active_placeholder, written, lacking_placeholder, ← htext, ← hspecified]
    refine ⟨rfl, rfl, ?_⟩
    cases lacks defaults params name with
    | false => exact ⟨hnone, hmissing⟩
    | true =>
      refine ⟨fun hd => ?_, ?_⟩
      · cases hd
      · rintro _ ⟨⟩
        exact List.mem_cons_self
  | group body rest ihb ihr =>
    obtain ⟨b, hb, h⟩ := exists_of_bind_eq_ok h
    obtain ⟨inner, hsettle, h⟩ := exists_of_bind_eq_ok h
    rcases b.settle_cases false with ⟨hb', hsettled⟩ | ⟨_, hb', -⟩
    case inr => cases hb'.symm.trans hsettle
    cases hb'.symm.trans hsettle
    obtain ⟨e, he, h⟩ := exists_of_bind_eq_ok h
    obtain ⟨htextb, hspecifiedb, hnoneb, -⟩ := ihb hb
    obtain ⟨htext, hspecified, hnone, hmissing⟩ := ihr he
    cases h
    rw [active_group, written, lacking_group, ← hspecifiedb]
    cases hs : b.specified with
    | false => simpa using ⟨htext, hspecified, hnone, hmissing⟩
    | true =>
      have hbody : body.lacking defaults params = [] := hnoneb (hsettled hs)
      rw [hbody]
      refine ⟨?_, rfl, hnone, hmissing⟩
      show b.text ++ e.text = _
      rw [htextb, htext]
      rfl

/-- A sequence that is not drafted lacks the value that is reported. It is active, because the value
is missing from an active group in it. -/
theorem draft_error {t : Template} {name : String} (h : t.draft defaults params = .error name) :
    name ∈ t.lacking defaults params ∧ t.active defaults params = true := by
  induction t with
  | empty => cases h
  | literal text rest ih =>
    rcases exists_of_bind_eq_error h with he | ⟨e, he, h⟩
    · exact ih he
    · cases h
  | placeholder name' position rest ih =>
    rw [draft_placeholder] at h
    obtain ⟨hmem, hactive⟩ := ih (map_eq_error_iff.1 h)
    rw [lacking_placeholder, active_placeholder, hactive, Bool.or_true]
    refine ⟨?_, rfl⟩
    split
    · exact List.mem_cons_of_mem _ hmem
    · exact hmem
  | group body rest ihb ihr =>
    rw [lacking_group, active_group]
    have hinside : name ∈ body.lacking defaults params → body.active defaults params = true →
        name ∈ (if body.active defaults params then body.lacking defaults params else []) ++
          rest.lacking defaults params ∧
        (body.active defaults params || rest.active defaults params) = true := by
      intro hmem hactive
      rw [if_pos hactive, hactive]
      exact ⟨List.mem_append_left _ hmem, rfl⟩
    rcases exists_of_bind_eq_error h with hb | ⟨b, hb, h⟩
    · exact hinside (ihb hb).1 (ihb hb).2
    rcases exists_of_bind_eq_error h with hsettle | ⟨inner, hsettle, h⟩
    · rcases b.settle_cases false with ⟨hb', -⟩ | ⟨_, hb', hs, hmissing⟩
      case inl => cases hb'.symm.trans hsettle
      cases hb'.symm.trans hsettle
      obtain ⟨-, hspecified, -, hmissingb⟩ := draft_ok hb
      exact hinside (hmissingb _ hmissing) (hspecified ▸ hs)
    rcases exists_of_bind_eq_error h with he | ⟨e, he, h⟩
    · obtain ⟨hmem, hactive⟩ := ihr he
      rw [hactive, Bool.or_true]
      exact ⟨List.mem_append_right _ hmem, rfl⟩
    · split at h <;> cases h

end

end Template

namespace Route

/-- The path of a route is what is written for its template, or something that is lacking in it is
reported. -/
theorem buildPath_cases (r : Route) (params : Params) :
    (r.compiled.template.lacking r.defaults params = [] ∧
      r.buildPath params = .ok (Path.tidy (r.compiled.template.written r.defaults params))) ∨
    ∃ name ∈ r.compiled.template.lacking r.defaults params,
      r.buildPath params = .error (.missingParameter name r.template) := by
  rw [buildPath]
  cases hd : r.compiled.template.draft r.defaults params with
  | error name => exact .inr ⟨name, (Template.draft_error hd).1, rfl⟩
  | ok d =>
    obtain ⟨htext, -, hnone, hmissing⟩ := Template.draft_ok hd
    have hbind : (Except.ok d).bind (·.settle true) = d.settle true := rfl
    rw [hbind]
    rcases d.settle_cases true with ⟨hs, hsettled⟩ | ⟨name, hs, -, hm⟩
    · exact .inl ⟨hnone (hsettled rfl), by rw [hs, ← htext]⟩
    · exact .inr ⟨name, hmissing name hm, by rw [hs]⟩

/-- If a path is built, nothing is lacking and it is what is written, without empty segments. -/
theorem buildPath_eq_ok {r : Route} {params : Params} {path : String}
    (h : r.buildPath params = .ok path) :
    r.compiled.template.lacking r.defaults params = [] ∧
      path = Path.tidy (r.compiled.template.written r.defaults params) := by
  rcases buildPath_cases r params with ⟨hlacking, hpath⟩ | ⟨name, -, hpath⟩
  · exact ⟨hlacking, Except.ok.inj (h.symm.trans hpath)⟩
  · cases h.symm.trans hpath

/-- A path is built just if nothing is lacking, and is then what is written, without empty segments.
Groups that are not active have no part in either. -/
theorem buildPath_reference (r : Route) (params : Params) :
    if r.compiled.template.lacking r.defaults params = [] then
      r.buildPath params = .ok (Path.tidy (r.compiled.template.written r.defaults params))
    else
      ∃ name ∈ r.compiled.template.lacking r.defaults params,
        r.buildPath params = .error (.missingParameter name r.template) := by
  rcases buildPath_cases r params with ⟨hlacking, hpath⟩ | ⟨name, hmem, hpath⟩
  · rw [if_pos hlacking]
    exact hpath
  · rw [if_neg (List.ne_nil_of_mem hmem)]
    exact ⟨name, hmem, hpath⟩

end Route

end Signpost
