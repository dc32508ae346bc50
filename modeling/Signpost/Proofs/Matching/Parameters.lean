import Signpost.Except
import Signpost.Route.Match

/-!
# The parameters of a match

What a match without filters gives, key by key. A placeholder that captured some text has that
text, whatever the default is. One that captured nothing has its default, and the empty text only
where there is none (`Route.Captures`). Every other key has its default or no value. So groups that
the patterns of placeholders bring along leave no trace in the parameters
(`Route.Gives.mem_of_contains`).
-/

namespace Signpost

open Regex

namespace Dict

variable {α : Type u}

/-- Each key for which a function has a value is bound to that. -/
theorem get?_insertAll_filterMap (d : Dict α) (keys : List String) (f : String → Option α)
    (k : String) :
    (d.insertAll (keys.filterMap fun key => (f key).map (key, ·))).get? k =
      if k ∈ keys then (f k).or (d.get? k) else d.get? k := by
  -- a key that comes twice has the same value both times, so their order does not matter
  induction keys generalizing d with
  | nil => simp [insertAll]
  | cons key keys ih =>
    cases hf : f key with
    | none =>
      rw [List.filterMap_cons_none (by simp [hf]), ih]
      by_cases hk : k = key
      · simp [hk, hf]
      · simp [hk]
    | some value =>
      rw [List.filterMap_cons_some (by simp [hf]; rfl), insertAll_cons, ih, get?_insert]
      by_cases hk : k = key
      · simp [hk, hf]
      · simp [hk]

end Dict

namespace Route

variable {r : Route} {m : Match}

/-- Whether the text that a placeholder captured is its value: if it is some text, or if no default
stands in for it. -/
def Captures (r : Route) (m : Match) (key : String) (text : List Char) : Prop :=
  key ∈ r.names ∧ m.group? key = some text ∧ (text ≠ [] ∨ r.defaults.contains key = false)

theorem captured_eq_insertAll (r : Route) (m : Match) :
    r.captured m = (∅ : Params).insertAll (r.names.filterMap fun name =>
      ((m.group? name).bind fun text =>
        if text.isEmpty && r.defaults.contains name then none
        else some (String.ofList text)).map (name, ·)) := by
  rw [captured, Dict.ofList]
  congr 2
  funext name
  cases m.group? name with
  | none => rfl
  | some text =>
    simp only [Option.bind_some]
    split <;> rfl

/-- The captured values are those of the placeholders whose text counts. -/
theorem get?_captured_eq_some_iff {key value : String} :
    (r.captured m).get? key = some value ↔
      ∃ text, r.Captures m key text ∧ String.ofList text = value := by
  rw [captured_eq_insertAll, Dict.get?_insertAll_filterMap, Dict.get?_empty, Option.or_none]
  split
  · rename_i hkey
    rw [Option.bind_eq_some_iff]
    refine exists_congr fun text => ?_
    have hdrops : (text.isEmpty && r.defaults.contains key) = true ↔
        ¬ (text ≠ [] ∨ r.defaults.contains key = false) := by
      cases text <;> simp
    rw [Captures, and_iff_right hkey, and_assoc]
    refine and_congr_right fun _ => ?_
    split
    · rename_i hdrop
      exact iff_of_false nofun fun h => hdrops.1 hdrop h.1
    · rename_i hkeep
      rw [Option.some.injEq, and_iff_right (Decidable.not_not.1 fun h => hkeep (hdrops.2 h))]
  · rename_i hkey
    simp [Captures, hkey]

/-- The parameters that a match gives a route without filters, key by key. -/
structure Gives (r : Route) (m : Match) (params : Params) : Prop where
  captured : ∀ key text, r.Captures m key text → params.get? key = some (String.ofList text)
  otherwise : ∀ key, (¬ ∃ text, r.Captures m key text) → params.get? key = r.defaults.get? key

theorem gives_overlay (r : Route) (m : Match) : r.Gives m (r.defaults.overlay (r.captured m)) where
  captured key text h := by
    rw [Dict.get?_overlay, get?_captured_eq_some_iff.2 ⟨text, h, rfl⟩, Option.some_or]
  otherwise key h := by
    have hnone : (r.captured m).get? key = none := by
      refine Option.eq_none_iff_forall_ne_some.2 fun value hvalue => ?_
      obtain ⟨text, htext, -⟩ := get?_captured_eq_some_iff.1 hvalue
      exact h ⟨text, htext⟩
    rw [Dict.get?_overlay, hnone, Option.none_or]

section
variable {params : Params} (h : r.Gives m params)
include h

theorem Gives.contains_default {key : String} (hkey : r.defaults.contains key = true) :
    params.contains key = true := by
  by_cases hcaptured : ∃ text, r.Captures m key text
  · obtain ⟨text, htext⟩ := hcaptured
    exact Dict.contains_iff.2 ⟨_, h.captured key text htext⟩
  · rw [Dict.contains, h.otherwise key hcaptured]
    exact hkey

/-- Text that was captured is never replaced by a default. -/
theorem Gives.get?_of_ne_nil {key : String} {text : List Char} (hkey : key ∈ r.names)
    (hgroup : m.group? key = some text) (hne : text ≠ []) :
    params.get? key = some (String.ofList text) :=
  h.captured key text ⟨hkey, hgroup, .inl hne⟩

/-- Groups inside of the patterns of placeholders add no key. -/
theorem Gives.mem_of_contains {key : String} (hkey : params.contains key = true) :
    key ∈ r.names ∨ r.defaults.contains key = true := by
  by_cases hcaptured : ∃ text, r.Captures m key text
  · obtain ⟨text, htext⟩ := hcaptured
    exact .inl htext.1
  · rw [Dict.contains, h.otherwise key hcaptured] at hkey
    exact .inr hkey

end

/-- Where the pattern of a route without filters finds a match, the parameters are what that gives.
They have each default, unless some text was captured for its key, and no keys but those of
placeholders and defaults. -/
theorem match?_of_find? (hfilters : r.filters = []) {path : String}
    (hfind : r.find? path = some m) (method : Method) :
    ∃ params, r.match? path method = some params ∧ r.Gives m params ∧
      (∀ key, r.defaults.contains key = true → params.contains key = true) ∧
      (∀ key ∈ r.names, ∀ text, m.group? key = some text → text ≠ [] →
        params.get? key = some (String.ofList text)) ∧
      ∀ key, params.contains key = true → key ∈ r.names ∨ r.defaults.contains key = true := by
  have hmatch : r.match? path method = some (r.defaults.overlay (r.captured m)) := by
    rw [match?, hfind, hfilters]
    rfl
  have hgives := r.gives_overlay m
  exact ⟨_, hmatch, hgives, fun _ => hgives.contains_default,
    fun _ hkey _ => hgives.get?_of_ne_nil hkey, fun _ => hgives.mem_of_contains⟩

/-- A placeholder that captured some text, two that captured nothing, of which one has a default,
and one that had no part in the match. The group inside of the first one is no parameter. -/
theorem match?_of_find?_pages :
    ∃ (r : Route) (m : Match),
      (Route.compile "<a>-<b>-<c>(-<d>)"
        (Dict.ofList [("a", "(?P<in>[a-z])+"), ("b", "[0-9]*"), ("c", "[0-9]*")])).map
          (·.withDefaults [("b", "1"), ("d", "9")]) = .ok r ∧
      r.find? "/xy--/" = some m ∧ m.group? "in" = some ['y'] ∧ m.group? "d" = none ∧
      ∃ params, r.match? "/xy--/" .get = some params ∧
        params.get? "a" = some "xy" ∧ params.get? "b" = some "1" ∧ params.get? "c" = some "" ∧
        params.get? "d" = some "9" ∧ params.get? "in" = none := by
  let route : Except TemplateError Route :=
    (Route.compile "<a>-<b>-<c>(-<d>)"
      (Dict.ofList [("a", "(?P<in>[a-z])+"), ("b", "[0-9]*"), ("c", "[0-9]*")])).map
        (·.withDefaults [("b", "1"), ("d", "9")])
  let keys := ["a", "b", "c", "d", "in"]
  have hroute : (route.toOption.map fun r => (r.names, r.filters.length)) =
      some (["a", "b", "c", "d"], 0) := by decide +kernel
  have hdefaults : (route.toOption.map fun r => keys.map r.defaults.get?) =
      some [none, some "1", none, some "9", none] := by decide +kernel
  have hmatch : (route.toOption.map fun r => (r.find? "/xy--/").map fun m => keys.map m.group?) =
      some (some [some ['x', 'y'], some [], some [], none, some ['y']]) := by decide +kernel
  obtain ⟨r, hr, hroute⟩ := exists_of_map_toOption hroute
  rw [hr] at hdefaults hmatch
  simp only [Except.toOption, Option.map_some, Option.some.injEq, Option.map_eq_some_iff, keys,
    Prod.mk.injEq, List.length_eq_zero_iff, List.map_cons, List.map_nil, List.cons.injEq,
    and_true] at hroute hdefaults hmatch
  obtain ⟨hnames, hfilters⟩ := hroute
  obtain ⟨-, hb, hc, hd, hin⟩ := hdefaults
  obtain ⟨m, hm, hgroupa, hgroupb, hgroupc, hgroupd, hgroupin⟩ := hmatch
  obtain ⟨params, hparams, hgives, -, hkept, -⟩ := match?_of_find? hfilters hm .get
  refine ⟨r, m, hr, hm, hgroupin, hgroupd, params, hparams, ?_, ?_, ?_, ?_, ?_⟩
  · exact hkept "a" (by simp [hnames]) _ hgroupa (List.cons_ne_nil _ _)
  · rw [hgives.otherwise "b" ?_, hb]
    rintro ⟨text, -, hgroup, hcounts⟩
    cases hgroupb.symm.trans hgroup
    simp [Dict.contains, hb] at hcounts
  · exact hgives.captured "c" [] ⟨by simp [hnames], hgroupc, .inr (by rw [Dict.contains, hc]; rfl)⟩
  · rw [hgives.otherwise "d" ?_, hd]
    rintro ⟨text, -, hgroup, -⟩
    cases hgroupd.symm.trans hgroup
  · rw [hgives.otherwise "in" ?_, hin]
    rintro ⟨text, hkey, -⟩
    simp [hnames] at hkey

end Route

end Signpost
