import Mathlib.Data.List.Nodup
import Signpost.Proofs.Matching.Derivation
import Signpost.Proofs.Matching.Source
import Signpost.Proofs.Template.Verdict
import Signpost.Regex.Preferred
import Signpost.Route.Match

/-!
# Matching agrees with the tree

A route whose placeholders all have the default pattern matches a path just if the tree of its
template derives the path without the slashes at its ends, and the parameters are the values of the
first derivation over the defaults of the route.

The paths of the template's pieces are its derivations, in the same order (`map_view_seqPaths`).
A search can start at the beginning of the text only and stop at its end (`search?_anchored`), so
it finds the first derivation that reads everything (`match?_eq_map`).
-/

namespace Signpost

open Regex

/-! ## Patterns one after the other -/

namespace Regex

theorem Path.andThen_assoc (x y z : Path) : (x.andThen y).andThen z = x.andThen (y.andThen z) := by
  simp [Path.andThen]

/-- The ways in which some patterns match one after the other, the preferred ones first. -/
def seqPaths : List Regex → Place → List Path
  | [], p => [⟨p, []⟩]
  | r :: rs, p => (paths r p).flatMap fun x => (seqPaths rs x.stop).map x.andThen

theorem seqPaths_append (rs ss : List Regex) (p : Place) :
    seqPaths (rs ++ ss) p =
      (seqPaths rs p).flatMap fun x => (seqPaths ss x.stop).map x.andThen := by
  induction rs generalizing p with
  | nil =>
    have : (Path.mk p []).andThen = id := by
      funext x
      simp [Path.andThen]
    simp [seqPaths, this]
  | cons r rs ih =>
    simp only [List.cons_append, seqPaths, ih, List.flatMap_assoc, List.map_flatMap,
      List.flatMap_map, List.map_map]
    congr 2
    funext x
    congr 1
    funext y
    refine List.map_congr_left fun z _ => ?_
    exact (Path.andThen_assoc x y z).symm

theorem seqPaths_singleton (r : Regex) (p : Place) : seqPaths [r] p = paths r p := by
  have : ∀ x : Path, x.andThen ⟨x.stop, []⟩ = x := fun x => by simp [Path.andThen]
  simp [seqPaths, this]

/-- A sequence of pieces matches as its patterns do one after the other. -/
theorem paths_joinWith (ps : List Piece) (p : Place) :
    paths (joinWith .seq ps) p = seqPaths (ps.reverse.map (·.regex)) p := by
  induction ps generalizing p with
  | nil => rfl
  | cons q ps ih =>
    cases ps with
    | nil => exact (seqPaths_singleton ..).symm
    | cons q' ps =>
      rw [joinWith, paths_seq, List.reverse_cons, List.map_append, seqPaths_append, ← ih]
      · simp only [List.map_cons, List.map_nil, seqPaths_singleton]
      · simp

/-- The derivation that a path is, by what its groups matched. -/
def Path.view (x : Path) : Template.Derivation :=
  ⟨x.groups.map fun g => (g.name, String.ofList g.text), x.stop.after⟩

theorem view_andThen (x y : Path) : (x.andThen y).view = x.view.andThen y.view := by
  simp [Path.view, Path.andThen, Template.Derivation.andThen]

/-- What follows a pattern depends on where it stops only, so it can be told from derivations. -/
theorem map_view_seqPaths_cons {r : Regex} {rs : List Regex}
    {f : List Char → List Template.Derivation}
    (h : ∀ q, (seqPaths rs q).map Path.view = f q.after) (p : Place) :
    (seqPaths (r :: rs) p).map Path.view =
      ((paths r p).map Path.view).flatMap fun d => (f d.rest).map d.andThen := by
  rw [seqPaths, List.map_flatMap, List.flatMap_map]
  congr 1
  funext x
  have hrest : x.view.rest = x.stop.after := rfl
  rw [hrest, ← h, List.map_map, List.map_map]
  exact List.map_congr_left fun y _ => view_andThen x y

/-! ## Characters and segments -/

theorem paths_chars_cons (s : CharSet) (b : Option Char) (c : Char) (cs : List Char) :
    paths (.chars s) ⟨b, c :: cs⟩ = if s.contains c then [⟨⟨some c, cs⟩, []⟩] else [] := rfl

/-- Characters one after the other match the text that they are. -/
theorem map_view_seqPaths_chars {rs : List Regex} {f : List Char → List Template.Derivation}
    (h : ∀ q, (seqPaths rs q).map Path.view = f q.after) (text : List Char) (p : Place) :
    (seqPaths (text.map char ++ rs) p).map Path.view =
      match p.after.dropPrefix? text with
      | none => []
      | some cs => f cs := by
  induction text generalizing p with
  | nil => simpa using h p
  | cons c text ih =>
    obtain ⟨b, after⟩ := p
    rw [List.map_cons, List.cons_append,
      map_view_seqPaths_cons (f := fun cs =>
        match cs.dropPrefix? text with
        | none => []
        | some cs => f cs) ih]
    cases after with
    | nil => rfl
    | cons d ds =>
      rw [char, paths_chars_cons]
      by_cases hd : d = c
      · simp [CharSet.contains, List.dropPrefix?, hd, Path.view, Template.map_nil_andThen]
      · simp [CharSet.contains, List.dropPrefix?, hd]

theorem contains_segmentSet (c : Char) : segmentSet.contains c = Template.isSegmentChar c := by
  simp [segmentSet, CharSet.contains, Template.isSegmentChar, beq_eq_decide, Bool.and_assoc]

/-- The rounds of a segment stop where its values end, the longest value first. -/
theorem map_rounds_segment {n : Nat} {p : Place} (hn : p.after.length ≤ n) :
    (rounds (paths (.chars segmentSet)) true n p).map (fun x => (x.groups, x.stop.after)) =
      (Template.segmentCuts p.after).map fun x => ([], x.2) := by
  induction n generalizing p with
  | zero =>
    rw [List.eq_nil_of_length_eq_zero (Nat.le_zero.1 hn)]
    rfl
  | succ n ih =>
    obtain ⟨b, after⟩ := p
    cases after with
    | nil => rfl
    | cons c cs =>
      rw [rounds, paths_chars_cons, contains_segmentSet, Template.segmentCuts]
      split
      · have hle : (Place.mk (some c) cs).after.length ≤ n := by simpa using hn
        simp [weave, Path.andThen, Function.comp_def, ih hle]
      · rfl

/-- One or more characters of a segment are rounds of one. -/
theorem paths_segment (p : Place) :
    paths segment p = rounds (paths (.chars segmentSet)) true (p.after.length + 1) p := by
  obtain ⟨b, after⟩ := p
  cases after with
  | nil => rfl
  | cons c cs =>
    rw [segment, paths, rounds, paths_chars_cons]
    split
    · simp
    · rfl

/-- A group of the default pattern reads the values that can be cut off, the longest one first. -/
theorem map_view_paths_named (n : String) (p : Place) :
    (paths (.named n segment) p).map Path.view =
      (Template.segmentCuts p.after).map fun x => ⟨[(n, String.ofList x.1)], x.2⟩ := by
  let read (x : List Capture × List Char) : Template.Derivation :=
    ⟨x.1.map (fun g => (g.name, String.ofList g.text)) ++
      [(n, String.ofList (p.after.take (p.after.length - x.2.length)))], x.2⟩
  have hread : Path.view ∘ Path.capture n p = read ∘ fun x => (x.groups, x.stop.after) := by
    funext x
    simp [read, Path.view, Path.capture, Capture.text]
  rw [paths, paths_segment, List.map_map, hread, ← List.map_map,
    map_rounds_segment (Nat.le_succ _), List.map_map]
  refine List.map_congr_left fun x hx => ?_
  obtain ⟨-, hcut⟩ := Template.mem_segmentCuts.1 hx
  simp [read, hcut]

end Regex

namespace Template

/-- The paths of the pieces of a template are its derivations, in the same order. -/
theorem map_view_seqPaths (t : Template) (p : Place) :
    (seqPaths (t.pieces.map (·.regex)) p).map Regex.Path.view = t.derivations p.after := by
  induction t generalizing p with
  | empty => rfl
  | literal text t ih =>
    have hpieces : (literal text t).pieces.map (·.regex) =
        text.toList.map char ++ t.pieces.map (·.regex) := by
      simp [pieces, charPiece, Function.comp_def]
    rw [hpieces, map_view_seqPaths_chars ih]
    rfl
  | placeholder name position t ih =>
    rw [pieces, List.map_cons, map_view_seqPaths_cons ih, map_view_paths_named, List.flatMap_map]
    rfl
  | group body t ihb iht =>
    have hbody : paths (groupPiece none body.pieces).regex p =
        seqPaths (body.pieces.map (·.regex)) p := by
      simp [groupPiece, combine, paths_joinWith]
    rw [pieces, List.map_cons, map_view_seqPaths_cons iht, paths_opt, hbody]
    simp only [weave, if_true, List.map_append, ihb, List.flatMap_append, derivations]
    congr 1
    simp [Regex.Path.view, map_nil_andThen]

end Template

namespace Regex

/-! ## Searching -/

/-- Between the ends of the text pieces match at the beginning only, and stop at the end only. -/
theorem paths_anchored (ps : List Piece) (p : Place) :
    paths (joinWith .seq (anchored ps).reverse) p =
      if p.before.isNone then
        (seqPaths (ps.map (·.regex)) p).filter (·.stop.after.isEmpty)
      else [] := by
  have hend : ∀ x : Path, (paths (.look .textEnd) x.stop).map x.andThen =
      if x.stop.after.isEmpty then [x] else [] := fun x => by
    rw [paths, Look.holds]
    split <;> simp [Path.andThen]
  have hstart : (Path.mk p []).andThen = id := by
    funext x
    simp [Path.andThen]
  rw [paths_joinWith, List.reverse_reverse, anchored, List.map_cons, List.map_append, seqPaths,
    paths, Look.holds]
  split
  · simp only [List.flatMap_cons, List.flatMap_nil, List.append_nil, hstart, List.map_id,
      seqPaths_append, List.map_cons, List.map_nil, seqPaths_singleton, hend]
    induction seqPaths (ps.map (·.regex)) p with
    | nil => rfl
    | cons x xs ih =>
      rw [List.flatMap_cons, List.filter_cons, ih]
      split <;> rfl
  · rfl

theorem before_of_mem_places {c : Char} {text : List Char} {p : Place}
    (h : p ∈ places (some c) text) : p.before.isNone = false := by
  induction text generalizing c with
  | nil =>
    cases List.mem_singleton.1 h
    rfl
  | cons d text ih =>
    rcases List.mem_cons.1 h with rfl | h
    · rfl
    · exact ih h

/-- A search finds the first path over the pieces that reads the whole text. -/
theorem search?_anchored (ps : List Piece) (text : List Char) :
    search? (joinWith .seq (anchored ps).reverse) text =
      ((seqPaths (ps.map (·.regex)) ⟨none, text⟩).find? (·.stop.after.isEmpty)).map
        (Match.mk ⟨none, text⟩) := by
  have hfirst : ∀ qs : List Place, places none text = ⟨none, text⟩ :: qs →
      (∀ q ∈ qs, q.before.isNone = false) →
      search? (joinWith .seq (anchored ps).reverse) text =
        ((seqPaths (ps.map (·.regex)) ⟨none, text⟩).find? (·.stop.after.isEmpty)).map
          (Match.mk ⟨none, text⟩) := by
    intro qs hqs hbefore
    have hnone : qs.findSome? (fun q =>
        (paths (joinWith .seq (anchored ps).reverse) q).head?.map (Match.mk q)) = none :=
      List.findSome?_eq_none_iff.2 fun q hq => by simp [paths_anchored, hbefore q hq]
    have hwhole := (paths_anchored ps ⟨none, text⟩).trans (if_pos rfl)
    rw [search?_eq, hqs, List.findSome?_cons, hnone, hwhole, List.head?_filter]
    cases List.find? (fun x : Path => x.stop.after.isEmpty)
      (seqPaths (ps.map (·.regex)) ⟨none, text⟩) <;> rfl
  cases text with
  | nil => exact hfirst [] rfl (by simp)
  | cons c cs => exact hfirst (places (some c) cs) rfl fun _ => before_of_mem_places

end Regex

namespace Template

/-- The pattern of a template that was compiled with the default pattern is that of its pieces. -/
theorem regex_of_compile {text : String} {c : Compiled}
    (h : compile text ∅ defaultSegment = .ok c) :
    c.regex = joinWith .seq c.template.wholePieces.reverse := by
  have hdefault : ∀ n, (c.patterns.get? n).getD defaultSegment = defaultSegment := fun n => by
    rw [(compile_eq_ok_iff.1 h).2, get?_effectivePatterns]
    split <;> rfl
  have hreads := c.reads
  rw [ofString?_source (isName_of_mem_names c.parsed) (names_nodup c.parsed) hdefault] at hreads
  split at hreads
  · exact (Option.some.inj hreads).symm
  · cases hreads

end Template

/-! ## Parameters -/

/-- With different keys no pair hides another one. -/
theorem Dict.get?_ofList_eq_some_iff {α : Type u} {pairs : List (String × α)}
    (hnd : (pairs.map (·.1)).Nodup) {k : String} {v : α} :
    (Dict.ofList pairs).get? k = some v ↔ (k, v) ∈ pairs := by
  have hall : ∀ d : Dict α, (d.insertAll pairs).get? k = some v ↔
      (k, v) ∈ pairs ∨ k ∉ pairs.map (·.1) ∧ d.get? k = some v := by
    induction pairs with
    | nil => simp [Dict.insertAll]
    | cons p ps ih =>
      intro d
      obtain ⟨key, w⟩ := p
      obtain ⟨hp, hnd⟩ := List.nodup_cons.1 hnd
      rw [Dict.insertAll_cons, ih hnd, Dict.get?_insert, List.map_cons, List.mem_cons,
        List.mem_cons]
      by_cases hk : k = key
      · subst hk
        have hnot : (k, v) ∉ ps := fun hm => hp (List.mem_map.2 ⟨_, hm, rfl⟩)
        simp [hp, hnot, eq_comm]
      · simp [hk]
  exact (hall ∅).trans (by simp)

namespace Regex

/-- A group whose name is given once is found by it. -/
theorem Match.group?_eq_some_iff {m : Match} (hnd : (m.path.groups.map (·.name)).Nodup)
    {name : String} {text : List Char} :
    m.group? name = some text ↔ ∃ g ∈ m.path.groups, g.name = name ∧ g.text = text := by
  rw [Match.group?, Option.map_eq_some_iff]
  refine ⟨fun ⟨g, hg, htext⟩ => ?_, fun ⟨g, hg, hname, htext⟩ => ?_⟩
  · exact ⟨g, List.mem_reverse.1 (List.mem_of_find?_eq_some hg), by simpa using List.find?_some hg,
      htext⟩
  · cases hf : m.path.groups.reverse.find? (·.name == name) with
    | none => exact absurd hname (by simpa using List.find?_eq_none.1 hf g (List.mem_reverse.2 hg))
    | some g' =>
      have hmem := List.mem_reverse.1 (List.mem_of_find?_eq_some hf)
      have hname' : g'.name = name := by simpa using List.find?_some hf
      have : g' = g := List.inj_on_of_nodup_map hnd hmem hg (hname'.trans hname.symm)
      exact ⟨g', rfl, this ▸ htext⟩

end Regex

namespace Route

/-- The keys of the pairs that some keys have are in their order. -/
theorem map_fst_filterMap_sublist (f : String → Option String) (keys : List String) :
    ((keys.filterMap fun key => (f key).map (key, ·)).map (·.1)).Sublist keys := by
  induction keys with
  | nil => exact .slnil
  | cons key keys ih =>
    rw [List.filterMap_cons]
    cases f key with
    | none => exact ih.cons _
    | some v => exact ih.cons_cons _

/-- If no group matched nothing, each group that took part gives the value of its name. -/
theorem captured_eq_filterMap {r : Route} {m : Match}
    (h : ∀ name text, m.group? name = some text → text ≠ []) :
    r.captured m = .ofList (r.names.filterMap fun name =>
      ((m.group? name).map String.ofList).map (name, ·)) := by
  rw [captured]
  congr 2
  funext name
  cases hg : m.group? name with
  | none => rfl
  | some text => simp [h name text hg]

/-- The parameters of a match are the values of the derivation that its path is. -/
theorem captured_eq {r : Route} {m : Match} {cs : List Char}
    (h : m.path.view ∈ r.compiled.template.derivations cs) :
    r.captured m = .ofList m.path.view.values := by
  have hderives := Template.mem_derivations.1 h
  have hsub := hderives.names_sublist
  have hnames : r.names.Nodup := Template.names_nodup r.compiled.parsed
  have hnd : (m.path.view.values.map (·.1)).Nodup := hnames.sublist hsub
  have hgroups : (m.path.groups.map (·.name)).Nodup := by
    simpa [Regex.Path.view, Function.comp_def] using hnd
  have hmem : ∀ k v, (k, v) ∈ m.path.view.values ↔
      ∃ text, m.group? k = some text ∧ String.ofList text = v := by
    intro k v
    simp only [Match.group?_eq_some_iff hgroups, Regex.Path.view, List.mem_map, Prod.mk.injEq]
    exact ⟨fun ⟨g, hg, hname, htext⟩ => ⟨g.text, ⟨g, hg, hname, rfl⟩, htext⟩,
      fun ⟨_, ⟨g, hg, hname, he⟩, htext⟩ => ⟨g, hg, hname, he ▸ htext⟩⟩
  have hkeys := map_fst_filterMap_sublist (fun name => (m.group? name).map String.ofList) r.names
  rw [captured_eq_filterMap fun name text hg he =>
    hderives.value_ne_empty _ ((hmem name "").2 ⟨text, hg, he ▸ rfl⟩) rfl]
  refine Dict.ext_get? fun k => Option.ext fun v => ?_
  rw [Dict.get?_ofList_eq_some_iff hnd, Dict.get?_ofList_eq_some_iff (hnames.sublist hkeys), hmem,
    List.mem_filterMap]
  simp only [Option.map_map, Option.map_eq_some_iff, Function.comp_apply, Prod.mk.injEq]
  constructor
  · rintro ⟨_, _, text, hg, rfl, ht⟩
    exact ⟨text, hg, ht⟩
  · rintro ⟨text, hg, ht⟩
    have hk := hsub.subset (List.mem_map.2 ⟨_, (hmem k v).2 ⟨text, hg, ht⟩, rfl⟩)
    exact ⟨k, hk, text, hg, rfl, ht⟩

/-- A route without filters has the parameters of the first derivation over its defaults. -/
theorem match?_eq_map {text : String} {r : Route}
    (hcompile : Template.compile text ∅ defaultSegment = .ok r.compiled) (hfilters : r.filters = [])
    (path : String) (method : Method) :
    r.match? path method =
      (r.compiled.template.derive? (Path.trim path.toList)).map fun values =>
        r.defaults.overlay (.ofList values) := by
  let start : Place := ⟨none, Path.trim path.toList⟩
  let xs := seqPaths (r.compiled.template.pieces.map (·.regex)) start
  have hsearch : r.find? path = (xs.find? (·.view.rest.isEmpty)).map (Match.mk start) := by
    rw [find?, Template.regex_of_compile hcompile]
    exact search?_anchored ..
  have hview : xs.map Regex.Path.view = r.compiled.template.derivations start.after :=
    Template.map_view_seqPaths ..
  have hderive : r.compiled.template.derive? start.after =
      (xs.find? (·.view.rest.isEmpty)).map (·.view.values) := by
    rw [Template.derive?, ← hview, List.find?_map, Option.map_map]
    rfl
  rw [match?, hsearch, hderive, hfilters]
  cases hf : xs.find? (·.view.rest.isEmpty) with
  | none => rfl
  | some x =>
    have hmem : x.view ∈ r.compiled.template.derivations start.after :=
      hview ▸ List.mem_map_of_mem (List.mem_of_find?_eq_some hf)
    exact congrArg (fun p => some (r.defaults.overlay p)) (captured_eq (m := ⟨start, x⟩) hmem)

/-- A route with the default patterns matches just the paths that its tree derives without the
slashes at their ends. The values of the first derivation are laid over the defaults of the route. -/
theorem match?_agrees {text : String} {t : Template} {r : Route}
    (hparse : Template.parse text = .ok t)
    (hcompile : Template.compile text ∅ defaultSegment = .ok r.compiled) (hfilters : r.filters = [])
    (path : String) (method : Method) :
    r.match? path method =
        (t.derive? (Path.trim path.toList)).map (fun values =>
          r.defaults.overlay (.ofList values)) ∧
      (r.match? path method = none ↔
        ¬ ∃ values, t.Derives (Path.trim path.toList) values []) := by
  have htext := Template.compile_text hcompile
  have ht : r.compiled.template = t :=
    Except.ok.inj (r.compiled.parsed.symm.trans (htext ▸ hparse))
  have hmatch := match?_eq_map hcompile hfilters path method
  rw [ht] at hmatch
  refine ⟨hmatch, ?_⟩
  rw [hmatch, Option.map_eq_none_iff]
  exact Template.derive?_eq_none_iff

/-- The group is left out, so its placeholder has the value of the defaults. -/
theorem match?_agrees_nested :
    ∃ r : Route, Template.compile "a/<b>(/<c>)" ∅ defaultSegment = .ok r.compiled ∧
      r.match? "/a/x/" .get = some (Dict.ofList [("b", "x"), ("c", "z")]) ∧
      r.match? "/b" .get = none := by
  have hok : (Template.compile "a/<b>(/<c>)" ∅ defaultSegment).isOk = true := by decide +kernel
  cases hc : Template.compile "a/<b>(/<c>)" ∅ defaultSegment with
  | error e => simp [hc, Except.isOk, Except.toBool] at hok
  | ok c =>
    let r : Route := ⟨⟨c, ∅, Dict.ofList [("b", "w"), ("c", "z")]⟩, []⟩
    let t : Template :=
      .literal "a/" (.placeholder "b" 2 (.group (.literal "/" (.placeholder "c" 7 .empty)) .empty))
    have hparse : Template.parse "a/<b>(/<c>)" = .ok t := rfl
    have hmatches := (match?_agrees (r := r) hparse hc rfl "/a/x/" .get).1
    have hrefuses := (match?_agrees (r := r) hparse hc rfl "/b" .get).1
    exact ⟨r, rfl, hmatches.trans rfl, hrefuses.trans rfl⟩

end Route

end Signpost
