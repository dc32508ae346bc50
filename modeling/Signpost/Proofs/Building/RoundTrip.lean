import Mathlib.Data.List.DropRight
import Signpost.Proofs.Building.Tidy
import Signpost.Proofs.Matching.Agreement
import Signpost.Proofs.Matching.Chain

/-!
# Chains match what is built from them

A path that is built from the template of a chain is some segments with a slash between two of them,
as many as the last specified placeholder asks for (`IsChain.needed_written`). Tidying leaves such a
path alone, and the chain takes its segments for the values of the placeholders
(`IsChain.takes_valueChars`). So matching gives the parameters of the path back.
-/

namespace Signpost

namespace Template

/-! ## What is written for a chain -/

section
variable (defaults params : Params)

/-- The number of names up to the last one that is specified. -/
def reach (ps : List String) : Nat :=
  (ps.rdropWhile (!specified defaults params ·)).length

/-- The number of placeholders in the path of a chain: those up to the last one that is specified,
and the first one at least unless the chain is wrapped. -/
def shown (wrapped : Bool) (ps : List String) : Nat :=
  max (if wrapped then 0 else 1) (reach defaults params ps)

/-- The text of a placeholder as characters. -/
def valueChars (name : String) : List Char := (valueText defaults params name).toList

end

section
variable {defaults params : Params}

theorem reach_eq_zero_iff {ps : List String} :
    reach defaults params ps = 0 ↔ ps.any (specified defaults params) = false := by
  rw [reach, List.length_eq_zero_iff, List.rdropWhile_eq_nil_iff]
  simp

theorem reach_cons (p : String) (ps : List String) :
    reach defaults params (p :: ps) =
      if (p :: ps).any (specified defaults params) then reach defaults params ps + 1 else 0 := by
  have happend : reach defaults params (p :: ps) =
      if reach defaults params ps = 0 then if specified defaults params p then 1 else 0
      else reach defaults params ps + 1 := by
    simp only [reach, List.rdropWhile, List.length_reverse, List.reverse_cons,
      List.dropWhile_append, List.isEmpty_iff, List.length_eq_zero_iff]
    split
    · cases hp : specified defaults params p <;> simp [hp]
    · simp
  rw [happend, List.any_cons]
  cases hany : ps.any (specified defaults params) with
  | true =>
    have hne : ¬ reach defaults params ps = 0 := by simp [reach_eq_zero_iff, hany]
    simp [hne]
  | false => simp [reach_eq_zero_iff.2 hany]

theorem Links.active {ps : List String} {t : Template} (h : Links ps t) :
    t.active defaults params = ps.any (specified defaults params) := by
  rw [Template.active, h.names]

/-- Links are written up to the last one that is specified. -/
theorem Links.needed_written {ps : List String} {t : Template} (h : Links ps t) :
    t.needed defaults params = ps.take (reach defaults params ps) ∧
      (t.written defaults params).toList =
        ((ps.take (reach defaults params ps)).map (valueChars defaults params)).flatMap
          ('/' :: ·) := by
  induction h with
  | nil => exact ⟨rfl, rfl⟩
  | @cons p ps position t ht ih =>
    obtain ⟨hneeded, hwritten⟩ := ih
    have hactive : (literal "/" (placeholder p position t)).active defaults params =
        (p :: ps).any (specified defaults params) := by
      rw [List.any_cons, ← ht.active, ← active_placeholder]
      rfl
    rw [needed, written, hactive, reach_cons]
    split
    · simp [needed, written, hneeded, hwritten, valueChars]
    · simp [needed, written]

/-- The first placeholder of a chain is written in front of its links. -/
theorem Links.needed_written_placeholder {p : String} {ps : List String} {position : Nat}
    {t : Template} (h : Links ps t) :
    (placeholder p position t).needed defaults params =
        (p :: ps).take (reach defaults params ps + 1) ∧
      ((placeholder p position t).written defaults params).toList =
        joined (((p :: ps).take (reach defaults params ps + 1)).map
          (valueChars defaults params)) := by
  obtain ⟨hneeded, hwritten⟩ : t.needed defaults params = _ ∧ _ := h.needed_written
  rw [needed, written, hneeded, String.toList_append, hwritten]
  exact ⟨rfl, rfl⟩

theorem shown_false (p : String) (ps : List String) :
    shown defaults params false (p :: ps) = reach defaults params ps + 1 := by
  have hshown : shown defaults params false (p :: ps) =
      max 1 (reach defaults params (p :: ps)) := rfl
  rw [hshown, reach_cons]
  cases hany : (p :: ps).any (specified defaults params) with
  | true =>
    rw [if_pos rfl]
    omega
  | false =>
    have hnone : ps.any (specified defaults params) = false :=
      (Bool.or_eq_false_iff.1 hany).2
    rw [reach_eq_zero_iff.2 hnone]
    rfl

/-- A chain is written as the texts of its placeholders, as many as are shown. -/
theorem IsChain.needed_written {wrapped : Bool} {ps : List String} {t : Template}
    (h : IsChain wrapped ps t) :
    t.needed defaults params = ps.take (shown defaults params wrapped ps) ∧
      (t.written defaults params).toList =
        joined ((ps.take (shown defaults params wrapped ps)).map (valueChars defaults params)) := by
  cases h with
  | plain ht =>
    rw [shown_false]
    exact ht.needed_written_placeholder
  | @wrapped p ps position t ht =>
    obtain ⟨hneeded, hwritten⟩ : (placeholder p position t).needed defaults params = _ ∧ _ :=
      ht.needed_written_placeholder
    have hactive : (placeholder p position t).active defaults params =
        (p :: ps).any (specified defaults params) := by
      rw [List.any_cons, ← ht.active, ← active_placeholder]
    have hshown : shown defaults params true (p :: ps) = reach defaults params (p :: ps) :=
      Nat.zero_max _
    rw [hshown, reach_cons, needed, written, hactive]
    split
    · rw [hneeded, String.toList_append, hwritten]
      simp [needed, written]
    · exact ⟨rfl, rfl⟩

end

end Template

/-! ## Values in a path -/

namespace Percent

theorem isSegmentChar_hexDigit {n : Nat} (h : n < 16) :
    Template.isSegmentChar (hexDigit n) = true := by
  have hall : ∀ n < 16, Template.isSegmentChar (hexDigit n) = true := by decide
  exact hall n h

/-- A character that is no separator of a path is encoded as characters of a segment. -/
theorem isSegmentChar_of_mem_encodeChar {c d : Char} (hslash : c ≠ '/') (hdot : c ≠ '.')
    (hd : d ∈ encodeChar c) : Template.isSegmentChar d = true := by
  rcases mem_encodeChar hd with ⟨hkept, rfl⟩ | rfl | ⟨n, hn, rfl⟩
  · have hne : ∀ e, isKept e = false → d ≠ e := by
      rintro e he rfl
      exact Bool.noConfusion (hkept.symm.trans he)
    simp [Template.isSegmentChar, hslash, hdot, hne ',' rfl, hne ';' rfl, hne '?' rfl,
      hne '\n' rfl]
  · rfl
  · exact isSegmentChar_hexDigit hn

theorem encodeChar_ne_nil (c : Char) : encodeChar c ≠ [] := by
  rw [encodeChar]
  split
  · simp
  · cases hb : String.utf8EncodeChar c with
    | nil => exact absurd hb String.utf8EncodeChar_ne_nil
    | cons b bs => simp [encodeByte]

/-- A value without separators is encoded as a segment. -/
theorem isSegment_encode {s : String} (hne : s ≠ "") (hslash : '/' ∉ s.toList)
    (hdot : '.' ∉ s.toList) : Template.IsSegment (encode s).toList := by
  rw [toList_encode]
  constructor
  · cases hs : s.toList with
    | nil => exact absurd (String.toList_eq_nil_iff.1 hs) hne
    | cons c cs => simp [encodeChar_ne_nil]
  · intro d hd
    obtain ⟨c, hc, hd⟩ := List.mem_flatMap.1 hd
    exact isSegmentChar_of_mem_encodeChar (fun h => hslash (h ▸ hc)) (fun h => hdot (h ▸ hc)) hd

end Percent

/-! ## Tidying -/

namespace Path

theorem joined_eq_join (vs : List (List Char)) : Template.joined vs = join vs := by
  induction vs with
  | nil => rfl
  | cons v vs ih =>
    cases vs with
    | nil => simp [Template.joined, join]
    | cons w vs => rw [join_cons_cons, ← ih]; rfl

theorem isTidy_joined {vs : List (List Char)} (h : ∀ v ∈ vs, Template.IsSegment v) :
    IsTidy (String.ofList (Template.joined vs)) := by
  rw [joined_eq_join]
  exact isTidy_join fun v hv => ⟨(h v hv).1, fun hslash => (h v hv).ne_slash '/' hslash rfl⟩

/-- Segments between slashes begin and end with something else. -/
theorem trim_joined {vs : List (List Char)} (h : ∀ v ∈ vs, Template.IsSegment v) :
    trim (Template.joined vs) = Template.joined vs := by
  simpa using (isTidy_joined h).trim_eq

theorem tidy_of_toList {path : String} {vs : List (List Char)}
    (h : ∀ v ∈ vs, Template.IsSegment v) (hpath : path.toList = Template.joined vs) :
    tidy path = String.ofList (Template.joined vs) := by
  have htidy : IsTidy path := by
    have hsegments := isTidy_joined h
    rwa [← hpath, String.ofList_toList] at hsegments
  rw [htidy.tidy_eq, ← hpath, String.ofList_toList]

end Path

/-! ## Reading back -/

namespace Template

section
variable {defaults params : Params}

theorem some_valueText {p : String} (hlacks : lacks defaults params p = false) :
    some (valueText defaults params p) =
      ((params.get? p).map Percent.encode).or (defaults.get? p) := by
  rw [valueText]
  cases hp : params.get? p with
  | some v => rfl
  | none =>
    cases hd : defaults.get? p with
    | some d => rfl
    | none => simp [lacks, Dict.contains, hp, hd] at hlacks

theorem isSegment_valueChars {p : String} (hlacks : lacks defaults params p = false)
    (hdefault : params.get? p = none → ∀ d, defaults.get? p = some d → IsSegment d.toList)
    (hvalue : ∀ v, params.get? p = some v → v ≠ "" ∧ '/' ∉ v.toList ∧ '.' ∉ v.toList) :
    IsSegment (valueChars defaults params p) := by
  have hsome := some_valueText hlacks
  cases hp : params.get? p with
  | some v =>
    obtain ⟨hne, hslash, hdot⟩ := hvalue v hp
    rw [hp, Option.map_some, Option.some_or, Option.some.injEq] at hsome
    rw [valueChars, hsome]
    exact Percent.isSegment_encode hne hslash hdot
  | none =>
    rw [hp, Option.map_none, Option.none_or] at hsome
    exact hdefault hp _ hsome.symm

theorem zip_map_take (f : String → String) (ps : List String) (n : Nat) :
    ps.zip ((ps.take n).map f) = (ps.take n).map fun p => (p, f p) := by
  induction ps generalizing n with
  | nil => simp
  | cons p ps ih =>
    cases n with
    | zero => simp
    | succ n => rw [List.take_succ_cons, List.map_cons, List.zip_cons_cons, ih, List.map_cons]

theorem IsChain.lacks_eq_false {wrapped : Bool} {ps : List String} {t : Template}
    (h : IsChain wrapped ps t) (hlacking : t.lacking defaults params = []) :
    ∀ p ∈ ps.take (shown defaults params wrapped ps), lacks defaults params p = false := by
  intro p hp
  rw [← h.needed_written.1] at hp
  exact lacks_of_mem_needed hlacking hp

/-- If nothing is lacking, the texts of the placeholders that are shown are segments, and the chain
takes them for their values. -/
theorem IsChain.takes_valueChars {wrapped : Bool} {ps : List String} {t : Template}
    (h : IsChain wrapped ps t) (hlacking : t.lacking defaults params = [])
    (hdefaults : ∀ p ∈ ps, ∀ d, defaults.get? p = some d → IsSegment d.toList)
    (hvalues : ∀ p ∈ ps, ∀ v, params.get? p = some v →
      v ≠ "" ∧ '/' ∉ v.toList ∧ '.' ∉ v.toList) :
    Takes ps ((ps.take (shown defaults params wrapped ps)).map (valueChars defaults params))
      ((ps.take (shown defaults params wrapped ps)).map fun p =>
        (p, valueText defaults params p)) := by
  refine ⟨?_, ?_, ?_⟩
  · rw [List.length_map]
    exact List.length_take_le' ..
  · intro v hv
    obtain ⟨p, hp, rfl⟩ := List.mem_map.1 hv
    have hmem := List.mem_of_mem_take hp
    exact isSegment_valueChars (h.lacks_eq_false hlacking p hp) (fun _ => hdefaults p hmem)
      (hvalues p hmem)
  · have htexts : String.ofList ∘ valueChars defaults params = valueText defaults params :=
      funext fun p => String.ofList_toList
    rw [List.map_map, htexts, zip_map_take]

end

end Template

namespace Route

/-- The path that is built from a chain gives back the parameters that are in it. -/
theorem match?_of_buildPath {wrapped : Bool} {ps : List String} {r : Route} {params : Params}
    {path : String} (hps : ps ≠ []) (hnames : ∀ p ∈ ps, Template.isName p.toList = true)
    (hcompile :
      Template.compile (Template.chainText wrapped ps) ∅ defaultSegment = .ok r.compiled)
    (hfilters : r.filters = [])
    (hdefaults : ∀ p ∈ ps, ∀ d, r.defaults.get? p = some d → Template.IsSegment d.toList)
    (hvalues : ∀ p ∈ ps, ∀ v, params.get? p = some v →
      v ≠ "" ∧ '/' ∉ v.toList ∧ '.' ∉ v.toList)
    (hbuild : r.buildPath params = .ok path) (method : Method) :
    let j := Template.shown r.defaults params wrapped ps
    ∃ m, r.match? path method = some m ∧
      (∀ p ∈ ps.take j, m.contains p = true ∧
        m.get? p = ((params.get? p).map Percent.encode).or (r.defaults.get? p)) ∧
      (∀ p ∈ ps.drop j, m.get? p = r.defaults.get? p) ∧
      ∀ k ∉ ps, m.get? k = r.defaults.get? k := by
  intro j
  let value := Template.valueText r.defaults params
  have hchain : Template.IsChain wrapped ps r.compiled.template :=
    Template.isChain_of_parse hps hnames (Template.compile_text hcompile ▸ r.compiled.parsed)
  have hnodup : ps.Nodup := hchain.names ▸ Template.names_nodup r.compiled.parsed
  obtain ⟨hlacking, hpath⟩ : r.compiled.template.lacking r.defaults params = [] ∧
      path = Path.tidy (r.compiled.template.written r.defaults params) := by
    rcases buildPath_cases r params with ⟨hlacking, h⟩ | ⟨name, -, h⟩
    · exact ⟨hlacking, Except.ok.inj (hbuild.symm.trans h)⟩
    · cases hbuild.symm.trans h
  -- the path is the segments of the placeholders that are shown, which are read back
  have htakes := hchain.takes_valueChars hlacking hdefaults hvalues
  have htrim : Path.trim path.toList =
      Template.joined ((ps.take j).map (Template.valueChars r.defaults params)) := by
    rw [hpath, Path.tidy_of_toList htakes.segments hchain.needed_written.2, String.toList_ofList,
      Path.trim_joined htakes.segments]
  have hshown : wrapped = false →
      (ps.take j).map (Template.valueChars r.defaults params) ≠ [] := by
    intro hw
    subst hw
    have hj : 1 ≤ j := Nat.le_max_left ..
    simp only [ne_eq, List.map_eq_nil_iff, List.take_eq_nil_iff, not_or]
    exact ⟨by omega, hps⟩
  have hmatch := match?_eq_map hcompile hfilters path method
  rw [htrim, hchain.derive?_joined htakes hshown] at hmatch
  have hget : ∀ k, (r.defaults.overlay (.ofList ((ps.take j).map fun p => (p, value p)))).get? k =
      (if k ∈ ps.take j then some (value k) else none).or (r.defaults.get? k) := by
    intro k
    rw [Dict.get?_overlay, Dict.get?_ofList_map]
  refine ⟨_, hmatch, fun p hp => ?_, fun p hp => ?_, fun k hk => ?_⟩
  · have hp' := hget p
    rw [if_pos hp, Option.some_or] at hp'
    rw [Dict.contains, hp', ← Template.some_valueText (hchain.lacks_eq_false hlacking p hp)]
    exact ⟨rfl, rfl⟩
  · have hnot : p ∉ ps.take j := fun ht =>
      List.disjoint_take_drop hnodup (Nat.le_refl j) ht hp
    rw [hget, if_neg hnot, Option.none_or]
  · rw [hget, if_neg fun ht => hk (List.mem_of_mem_take ht), Option.none_or]

/-- One link is shown, and the other placeholder keeps its default. -/
theorem match?_of_buildPath_pages :
    ∃ r : Route,
      Template.compile (Template.chainText true ["a", "b", "c"]) ∅ defaultSegment =
        .ok r.compiled ∧
      r.buildPath (Dict.ofList [("b", "x y")]) = .ok "w/x%20y" ∧
      ∃ m, r.match? "w/x%20y" .get = some m ∧ m.get? "a" = some "w" ∧
        m.get? "b" = some "x%20y" ∧ m.get? "c" = some "z" ∧ m.get? "action" = some "v" := by
  have hok : (Template.compile (Template.chainText true ["a", "b", "c"]) ∅ defaultSegment).isOk =
      true := by decide +kernel
  cases hc : Template.compile (Template.chainText true ["a", "b", "c"]) ∅ defaultSegment with
  | error e => simp [hc, Except.isOk, Except.toBool] at hok
  | ok c =>
    let defaults : Params := Dict.ofList [("a", "w"), ("c", "z"), ("action", "v")]
    let params : Params := Dict.ofList [("b", "x y")]
    let r : Route := ⟨⟨c, ∅, defaults⟩, []⟩
    let t : Template :=
      .group (.placeholder "a" 1 (.group (.literal "/" (.placeholder "b" 6
        (.group (.literal "/" (.placeholder "c" 11 .empty)) .empty))) .empty)) .empty
    have hparse : Template.parse (Template.chainText true ["a", "b", "c"]) = .ok t := rfl
    have ht : c.template = t :=
      Except.ok.inj (c.parsed.symm.trans (Template.compile_text hc ▸ hparse))
    have hbuild : r.buildPath params = .ok "w/x%20y" := by
      have hdraft : (t.draft defaults params).bind (·.settle true) =
          .ok ⟨"w/x%20y", true, none⟩ := by decide +kernel
      have htidy : Path.tidy "w/x%20y" = "w/x%20y" := by decide +kernel
      have hr : (r.compiled.template.draft r.defaults params).bind (·.settle true) =
          .ok ⟨"w/x%20y", true, none⟩ := ht ▸ hdraft
      rw [buildPath, hr]
      exact congrArg Except.ok htidy
    have hdefaults : ∀ p ∈ ["a", "b", "c"], ∀ d, defaults.get? p = some d →
        Template.IsSegment d.toList := by
      intro p _ d hd
      have hmem := (Dict.get?_ofList_eq_some_iff (by simp)).1 hd
      simp only [List.mem_cons, List.not_mem_nil, or_false, Prod.mk.injEq] at hmem
      rcases hmem with ⟨-, rfl⟩ | ⟨-, rfl⟩ | ⟨-, rfl⟩ <;> decide
    have hvalues : ∀ p ∈ ["a", "b", "c"], ∀ v, params.get? p = some v →
        v ≠ "" ∧ '/' ∉ v.toList ∧ '.' ∉ v.toList := by
      intro p _ v hv
      have hmem := (Dict.get?_ofList_eq_some_iff (by simp)).1 hv
      simp only [List.mem_cons, List.not_mem_nil, or_false, Prod.mk.injEq] at hmem
      obtain ⟨-, rfl⟩ := hmem
      decide
    obtain ⟨m, hmatch, htake, hdrop, hother⟩ :=
      match?_of_buildPath (r := r) (by simp) (by decide) hc rfl hdefaults hvalues hbuild .get
    have hshown : Template.shown defaults params true ["a", "b", "c"] = 2 := by decide +kernel
    rw [show r.defaults = defaults from rfl, hshown] at htake hdrop
    refine ⟨r, rfl, hbuild, m, hmatch, ?_, ?_, ?_, ?_⟩
    · exact (htake "a" (by decide)).2.trans rfl
    · exact (htake "b" (by decide)).2.trans rfl
    · exact (hdrop "c" (by decide)).trans rfl
    · exact (hother "action" (by decide)).trans rfl

end Route

end Signpost
