import Signpost.Proofs.Matching.Derivation

/-!
# What a path tells

A template may read one path in several ways. A path `Determines` a placeholder if all of them give
it the same value, or all give it none. This holds of every path and every placeholder if the
template can be read without looking ahead: what stands behind a placeholder never begins as a
segment does, and what stands behind a group never begins as the group does (`delimited`). Then no
path has two derivations (`Derives.unique`), so it determines everything (`determines_of_delimited`).
-/

namespace Signpost

namespace Template

/-- Whether every derivation of a text gives a placeholder the same value, or none. -/
def Determines (t : Template) (cs : List Char) (name : String) : Prop :=
  ∀ values values', t.Derives cs values [] → t.Derives cs values' [] →
    ∀ text, (name, text) ∈ values → (name, text) ∈ values'

/-! ## How a text begins -/

/-- How a text may begin: with one character, or with any one of a segment. Or it is at its end. -/
inductive Start
  | char (c : Char)
  | segment
  | stop
deriving Repr, DecidableEq

namespace Start

def Fits : Start → List Char → Prop
  | char c, cs => cs.head? = some c
  | segment, cs => ∃ c, cs.head? = some c ∧ isSegmentChar c = true
  | stop, cs => cs = []

/-- Whether a text may begin in both ways. -/
def meets : Start → Start → Bool
  | char c, char d => c == d
  | char c, segment => isSegmentChar c
  | segment, char c => isSegmentChar c
  | segment, segment => true
  | stop, stop => true
  | _, _ => false

theorem meets_of_fits {s s' : Start} {cs : List Char} (h : s.Fits cs) (h' : s'.Fits cs) :
    s.meets s' = true := by
  cases cs with
  | nil =>
    -- nothing but the end of a text is at its end
    have hstop : ∀ {s : Start}, s.Fits [] → s = .stop := by
      intro s hs
      cases s with
      | char c => cases hs
      | segment =>
        obtain ⟨c, hc, -⟩ := hs
        cases hc
      | stop => rfl
    rw [hstop h, hstop h']
    rfl
  | cons c cs =>
    have hhead : ∀ {s : Start}, s.Fits (c :: cs) →
        s = .char c ∨ s = .segment ∧ isSegmentChar c = true := by
      intro s hs
      cases s with
      | char d =>
        cases hs
        exact .inl rfl
      | segment =>
        obtain ⟨d, hd, hsegment⟩ := hs
        cases hd
        exact .inr ⟨rfl, hsegment⟩
      | stop => cases hs
    rcases hhead h with rfl | ⟨rfl, hc⟩
    · rcases hhead h' with rfl | ⟨rfl, hc⟩
      · exact beq_self_eq_true c
      · exact hc
    · rcases hhead h' with rfl | ⟨rfl, -⟩
      · exact hc
      · rfl

end Start

/-- Whether a text begins in one of some ways. -/
def Begins (cs : List Char) (starts : List Start) : Prop := ∃ s ∈ starts, s.Fits cs

/-- Whether no text begins both in one of some ways and in one of some others. -/
def apart (starts starts' : List Start) : Bool :=
  starts.all fun s => starts'.all fun s' => !s.meets s'

theorem not_begins_of_apart {starts starts' : List Start} {cs : List Char}
    (h : apart starts starts' = true) (hcs : Begins cs starts) : ¬ Begins cs starts' := by
  rintro ⟨s', hs', hfits'⟩
  obtain ⟨s, hs, hfits⟩ := hcs
  have hnot := List.all_eq_true.1 (List.all_eq_true.1 h s hs) s' hs'
  rw [Start.meets_of_fits hfits hfits'] at hnot
  cases hnot

/-- How the texts that a template reads may begin, if what follows them begins in one of some
ways. -/
def starts : Template → List Start → List Start
  | empty, follow => follow
  | literal text rest, follow =>
    match text.toList with
    | [] => rest.starts follow
    | c :: _ => [.char c]
  | placeholder _ _ _, _ => [.segment]
  | group body rest, follow => body.starts [] ++ rest.starts follow

/-- Whether the next character always tells where a placeholder ends and whether a group is read. -/
def delimited : Template → List Start → Bool
  | empty, _ => true
  | literal _ rest, follow => rest.delimited follow
  | placeholder _ _ rest, follow =>
    apart [.segment] (rest.starts follow) && rest.delimited follow
  | group body rest, follow =>
    body.delimited (rest.starts follow) && apart (body.starts []) (rest.starts follow) &&
      rest.delimited follow

theorem IsSegment.begins {value : List Char} (h : IsSegment value) (cs : List Char) :
    Begins (value ++ cs) [.segment] := by
  cases value with
  | nil => exact absurd rfl h.1
  | cons c value => exact ⟨_, List.mem_cons_self, c, rfl, h.2 c List.mem_cons_self⟩

section
variable {t : Template} {cs rest : List Char} {values : List (String × String)}

/-- A template that reads something begins in one of its own ways. -/
theorem Derives.begins_or_eq (h : t.Derives cs values rest) :
    (cs = rest ∧ values = []) ∨ Begins cs (t.starts []) := by
  induction h with
  | empty => exact .inl ⟨rfl, rfl⟩
  | @literal text _ _ _ _ _ ih =>
    rw [starts]
    cases htext : text.toList with
    | nil => exact ih
    | cons c cs => exact .inr ⟨_, List.mem_cons_self, rfl⟩
  | placeholder hv _ _ => exact .inr (hv.begins _)
  | present _ _ ihb ihr =>
    rcases ihb with ⟨rfl, rfl⟩ | ⟨s, hs, hfits⟩
    · rcases ihr with hnone | ⟨s, hs, hfits⟩
      · exact .inl hnone
      · exact .inr ⟨s, List.mem_append_right _ hs, hfits⟩
    · exact .inr ⟨s, List.mem_append_left _ hs, hfits⟩
  | absent _ ih =>
    exact ih.imp id fun ⟨s, hs, hfits⟩ => ⟨s, List.mem_append_right _ hs, hfits⟩

theorem Derives.begins {follow : List Start} (h : t.Derives cs values rest)
    (hrest : Begins rest follow) : Begins cs (t.starts follow) := by
  induction h with
  | empty => exact hrest
  | @literal text _ _ _ _ _ ih =>
    rw [starts]
    cases htext : text.toList with
    | nil => exact ih hrest
    | cons c cs => exact ⟨_, List.mem_cons_self, rfl⟩
  | placeholder hv _ _ => exact hv.begins _
  | present hb _ _ ihr =>
    rcases hb.begins_or_eq with ⟨rfl, -⟩ | ⟨s, hs, hfits⟩
    · obtain ⟨s, hs, hfits⟩ := ihr hrest
      exact ⟨s, List.mem_append_right _ hs, hfits⟩
    · exact ⟨s, List.mem_append_left _ hs, hfits⟩
  | absent _ ih =>
    obtain ⟨s, hs, hfits⟩ := ih hrest
    exact ⟨s, List.mem_append_right _ hs, hfits⟩

end

/-! ## One derivation -/

/-- A segment ends where what follows does not begin as a segment does. -/
theorem IsSegment.append_inj {v v' cs cs' : List Char} (hv : IsSegment v) (hv' : IsSegment v')
    (hcs : ¬ Begins cs [.segment]) (hcs' : ¬ Begins cs' [.segment])
    (h : v ++ cs = v' ++ cs') : v = v' ∧ cs = cs' := by
  have hread : ∀ {u ds : List Char}, IsSegment u → ¬ Begins ds [.segment] →
      (u ++ ds).takeWhile isSegmentChar = u := by
    intro u ds hu hds
    rw [List.takeWhile_append_of_pos hu.2]
    cases ds with
    | nil => simp
    | cons d ds =>
      have hd : ¬ isSegmentChar d = true := fun hd =>
        hds ⟨_, List.mem_cons_self, d, rfl, hd⟩
      rw [List.takeWhile_cons, if_neg hd, List.append_nil]
  have hvv : v = v' := by rw [← hread hv hcs, h, hread hv' hcs']
  subst hvv
  exact ⟨rfl, List.append_cancel_left h⟩

/-- If the next character always tells how to go on, a text is read in one way up to what
follows. -/
theorem Derives.unique {t : Template} {follow : List Start} (hd : t.delimited follow = true)
    {cs rest rest' : List Char} {values values' : List (String × String)}
    (h : t.Derives cs values rest) (h' : t.Derives cs values' rest') (hrest : Begins rest follow)
    (hrest' : Begins rest' follow) : values = values' ∧ rest = rest' := by
  induction t generalizing follow cs rest rest' values values' with
  | empty =>
    cases h
    cases h'
    exact ⟨rfl, rfl⟩
  | literal text t ih =>
    generalize hcs : cs = ds at h'
    cases h with
    | literal h =>
      cases h' with
      | literal h' =>
        cases List.append_cancel_left hcs
        exact ih hd h h' hrest hrest'
  | placeholder name position t ih =>
    obtain ⟨hapart, hd⟩ := Bool.and_eq_true_iff.1 hd
    have hends : ∀ {ds rest values}, t.Derives ds values rest → Begins rest follow →
        ¬ Begins ds [.segment] := fun hderives hrest hbegins =>
      not_begins_of_apart hapart hbegins (hderives.begins hrest)
    generalize hcs : cs = ds at h'
    cases h with
    | placeholder hv h =>
      cases h' with
      | placeholder hv' h' =>
        obtain ⟨rfl, rfl⟩ := hv.append_inj hv' (hends h hrest) (hends h' hrest') hcs
        obtain ⟨rfl, rfl⟩ := ih hd h h' hrest hrest'
        exact ⟨rfl, rfl⟩
  | group body t ihb ihr =>
    obtain ⟨hbody, hd⟩ := Bool.and_eq_true_iff.1 hd
    obtain ⟨hdb, hapart⟩ := Bool.and_eq_true_iff.1 hbody
    -- a group that is read in one way only has read nothing
    have hmixed : ∀ {mid rest rest' values values' values''}, body.Derives cs values mid →
        t.Derives mid values' rest → t.Derives cs values'' rest' → Begins rest follow →
        Begins rest' follow → values ++ values' = values'' ∧ rest = rest' := by
      intro mid rest rest' values values' values'' hb hr hr' hrest hrest'
      rcases hb.begins_or_eq with ⟨rfl, rfl⟩ | hbegins
      · exact ihr hd hr hr' hrest hrest'
      · exact absurd (hr'.begins hrest') (not_begins_of_apart hapart hbegins)
    cases h with
    | present hb hr =>
      cases h' with
      | present hb' hr' =>
        obtain ⟨rfl, rfl⟩ := ihb hdb hb hb' (hr.begins hrest) (hr'.begins hrest')
        obtain ⟨rfl, rfl⟩ := ihr hd hr hr' hrest hrest'
        exact ⟨rfl, rfl⟩
      | absent hr' => exact hmixed hb hr hr' hrest hrest'
    | absent hr =>
      cases h' with
      | present hb' hr' =>
        obtain ⟨hvalues, hrests⟩ := hmixed hb' hr' hr hrest' hrest
        exact ⟨hvalues.symm, hrests.symm⟩
      | absent hr' => exact ihr hd hr hr' hrest hrest'

/-- A template that is read without looking ahead tells all its placeholders apart. -/
theorem determines_of_delimited {t : Template} (hd : t.delimited [.stop] = true) (cs : List Char)
    (name : String) : t.Determines cs name := by
  intro values values' h h' text hmem
  have hstop : Begins [] [.stop] := ⟨_, List.mem_cons_self, rfl⟩
  exact (h.unique hd h' hstop hstop).1 ▸ hmem

/-- An optional part with a separator of its own can be told from the one behind it. -/
example : (placeholder "a" 0 (group (literal "/" (placeholder "b" 4 empty))
    (group (literal "." (placeholder "c" 9 empty)) empty))).delimited [.stop] = true := by decide

end Template

end Signpost
