import Signpost.Except
import Signpost.Route.Match

/-!
# Filters one after the other

Filters pass parameters on from one to the next (`Route.Passes`): a filter that keeps them hands on what
it was given, and one that replaces them hands on what it puts in their place. The first filter that
rejects what it is given ends the match (`Route.Rejects`). Running a list of filters comes to just one
of the two (`applyFilters_eq_some_iff`, `applyFilters_eq_none_iff`).

So the list of a route can be cut anywhere, and what is behind the cut only sees the parameters that
arrive there (`Route.filtersInTurn`). The parameters in the end are those that the first filter was given,
if every filter kept them, or else just those that some filter put in place of all others
(`Passes.kept_or_put`).
-/

namespace Signpost.Route

/-! ## What a list of filters comes to -/

/-- Filters that let some parameters pass, and the parameters behind the last one. -/
inductive Passes (plan : Plan) (request : Request) : List Filter → Params → Params → Prop
  | done (params : Params) : Passes plan request [] params params
  | keep {f : Filter} {fs : List Filter} {params last : Params}
      (hkeep : f.apply plan params request = .keep) (hrest : Passes plan request fs params last) :
      Passes plan request (f :: fs) params last
  | replace {f : Filter} {fs : List Filter} {params next last : Params}
      (hreplace : f.apply plan params request = .replace next)
      (hrest : Passes plan request fs next last) : Passes plan request (f :: fs) params last

/-- Some filters let parameters pass up to the first one that rejects what it is given. -/
def Rejects (plan : Plan) (request : Request) (fs : List Filter) (params : Params) : Prop :=
  ∃ before f after mid, fs = before ++ f :: after ∧ Passes plan request before params mid ∧
    f.apply plan mid request = .reject

section
variable {plan : Plan} {request : Request} {f : Filter} {fs gs : List Filter}
  {params mid last : Params}

theorem Rejects.cons_keep (hkeep : f.apply plan params request = .keep)
    (h : Rejects plan request fs params) : Rejects plan request (f :: fs) params := by
  obtain ⟨before, g, after, mid, rfl, hbefore, hg⟩ := h
  exact ⟨f :: before, g, after, mid, rfl, .keep hkeep hbefore, hg⟩

theorem Rejects.cons_replace {next : Params} (hreplace : f.apply plan params request = .replace next)
    (h : Rejects plan request fs next) : Rejects plan request (f :: fs) params := by
  obtain ⟨before, g, after, mid, rfl, hbefore, hg⟩ := h
  exact ⟨f :: before, g, after, mid, rfl, .replace hreplace hbefore, hg⟩

/-- A run of filters gives the parameters that they let pass, or else some filter rejects. -/
theorem applyFilters_cases (plan : Plan) (request : Request) (fs : List Filter) (params : Params) :
    (∃ last, applyFilters plan request fs params = some last ∧
      Passes plan request fs params last) ∨
    (applyFilters plan request fs params = none ∧ Rejects plan request fs params) := by
  induction fs generalizing params with
  | nil => exact .inl ⟨params, rfl, .done params⟩
  | cons f fs ih =>
    cases happly : f.apply plan params request with
    | keep =>
      simp only [applyFilters, happly]
      rcases ih params with ⟨last, hrun, hpasses⟩ | ⟨hrun, hrejects⟩
      · exact .inl ⟨last, hrun, .keep happly hpasses⟩
      · exact .inr ⟨hrun, hrejects.cons_keep happly⟩
    | replace next =>
      simp only [applyFilters, happly]
      rcases ih next with ⟨last, hrun, hpasses⟩ | ⟨hrun, hrejects⟩
      · exact .inl ⟨last, hrun, .replace happly hpasses⟩
      · exact .inr ⟨hrun, hrejects.cons_replace happly⟩
    | reject =>
      simp only [applyFilters, happly]
      exact .inr ⟨trivial, [], f, fs, params, rfl, .done params, happly⟩

theorem applyFilters_of_passes (h : Passes plan request fs params last) :
    applyFilters plan request fs params = some last := by
  induction h with
  | done => rfl
  | keep hkeep _ ih => rw [applyFilters, hkeep]; exact ih
  | replace hreplace _ ih => rw [applyFilters, hreplace]; exact ih

theorem applyFilters_eq_some_iff :
    applyFilters plan request fs params = some last ↔ Passes plan request fs params last := by
  refine ⟨fun h => ?_, applyFilters_of_passes⟩
  rcases applyFilters_cases plan request fs params with ⟨last', hrun, hpasses⟩ | ⟨hrun, -⟩
  · cases hrun.symm.trans h
    exact hpasses
  · cases hrun.symm.trans h

/-- What is behind a filter that rejects is never asked. -/
theorem applyFilters_of_rejects (h : Rejects plan request fs params) :
    applyFilters plan request fs params = none := by
  obtain ⟨before, f, after, mid, rfl, hbefore, hreject⟩ := h
  rw [applyFilters_append, applyFilters_of_passes hbefore, Option.bind_some, applyFilters, hreject]

theorem applyFilters_eq_none_iff :
    applyFilters plan request fs params = none ↔ Rejects plan request fs params := by
  refine ⟨fun h => ?_, applyFilters_of_rejects⟩
  rcases applyFilters_cases plan request fs params with ⟨last, hrun, -⟩ | ⟨-, hrejects⟩
  · cases hrun.symm.trans h
  · exact hrejects

theorem passes_append_iff : Passes plan request (fs ++ gs) params last ↔
    ∃ mid, Passes plan request fs params mid ∧ Passes plan request gs mid last := by
  simp only [← applyFilters_eq_some_iff, applyFilters_append, Option.bind_eq_some_iff]

/-- Parameters that pass are kept by every filter, or else they are just what the last filter that
replaces any puts in their place. -/
theorem Passes.kept_or_put (h : Passes plan request fs params last) :
    (last = params ∧ ∀ f ∈ fs, f.apply plan params request = .keep) ∨
    ∃ before f after mid, fs = before ++ f :: after ∧ Passes plan request before params mid ∧
      f.apply plan mid request = .replace last ∧
      ∀ g ∈ after, g.apply plan last request = .keep := by
  induction h with
  | done => exact .inl ⟨rfl, nofun⟩
  | @keep f fs params last hkeep _ ih =>
    rcases ih with ⟨rfl, hall⟩ | ⟨before, g, after, mid, rfl, hbefore, hput, hafter⟩
    · exact .inl ⟨rfl, List.forall_mem_cons.2 ⟨hkeep, hall⟩⟩
    · exact .inr ⟨f :: before, g, after, mid, rfl, .keep hkeep hbefore, hput, hafter⟩
  | @replace f fs params next last hreplace _ ih =>
    rcases ih with ⟨rfl, hall⟩ | ⟨before, g, after, mid, rfl, hbefore, hput, hafter⟩
    · exact .inr ⟨[], f, fs, params, rfl, .done params, hreplace, hall⟩
    · exact .inr ⟨f :: before, g, after, mid, rfl, .replace hreplace hbefore, hput, hafter⟩

end

/-! ## The filters of a route -/

/-- What the first filter of a route is given: what the placeholders matched, over the defaults. -/
def merged? (r : Route) (path : String) : Option Params :=
  (r.find? path).map fun m => r.defaults.overlay (r.captured m)

/-- What is given to the filter that stands behind some filters of a route. -/
def Reaches (r : Route) (path : String) (method : Method) (before : List Filter)
    (params : Params) : Prop :=
  ∃ first, r.merged? path = some first ∧ Passes r.toPlan ⟨path, method⟩ before first params

/-- A route with other filters. -/
def withFilters (r : Route) (fs : List Filter) : Route := { r with filters := fs }

/-- What the filters of a route do with a request, wherever their list is cut. -/
structure FiltersInTurn (r : Route) (path : String) (method : Method) : Prop where
  /-- A match runs the filters in front of the cut, and those behind it on what comes out. -/
  split : ∀ before after, r.filters = before ++ after →
    r.match? path method =
      (r.merged? path).bind fun first =>
        (applyFilters r.toPlan ⟨path, method⟩ before first).bind
          (applyFilters r.toPlan ⟨path, method⟩ after)
  /-- Parameters match if they pass on both sides of the cut. -/
  passes : ∀ before after, r.filters = before ++ after → ∀ last,
    (r.match? path method = some last ↔
      ∃ params, r.Reaches path method before params ∧
        Passes r.toPlan ⟨path, method⟩ after params last)
  /-- Parameters are refused just if some filter rejects what is given to it. -/
  refuses : ∀ first, r.merged? path = some first →
    (r.match? path method = none ↔ Rejects r.toPlan ⟨path, method⟩ r.filters first)
  /-- A filter that keeps what it is given can be left out. -/
  keep : ∀ before f after, r.filters = before ++ f :: after →
    (∀ params, r.Reaches path method before params →
      f.apply r.toPlan params ⟨path, method⟩ = .keep) →
    (r.withFilters (before ++ after)).match? path method = r.match? path method
  /-- Nothing behind a filter that rejects has any influence. -/
  reject : ∀ before f after params, r.filters = before ++ f :: after →
    r.Reaches path method before params →
    f.apply r.toPlan params ⟨path, method⟩ = .reject →
    r.match? path method = none ∧
      ∀ others, (r.withFilters (before ++ f :: others)).match? path method = none
  /-- Where a filter puts other parameters in place, only these and the later filters count. -/
  replace : ∀ before f after params next, r.filters = before ++ f :: after →
    r.Reaches path method before params →
    f.apply r.toPlan params ⟨path, method⟩ = .replace next →
    r.match? path method = applyFilters r.toPlan ⟨path, method⟩ after next
  /-- The parameters of a match are those that the first filter was given, if all filters keep them,
  or just what the last filter that replaces any puts in place. -/
  final : ∀ last, r.match? path method = some last →
    (r.merged? path = some last ∧
      ∀ f ∈ r.filters, f.apply r.toPlan last ⟨path, method⟩ = .keep) ∨
    ∃ before f after params, r.filters = before ++ f :: after ∧
      r.Reaches path method before params ∧
      f.apply r.toPlan params ⟨path, method⟩ = .replace last ∧
      ∀ g ∈ after, g.apply r.toPlan last ⟨path, method⟩ = .keep

section
variable {r : Route} {path : String} {method : Method} {f : Filter} {before after : List Filter}
  {params : Params}

theorem match?_eq_bind (r : Route) (path : String) (method : Method) :
    r.match? path method =
      (r.merged? path).bind (applyFilters r.toPlan ⟨path, method⟩ r.filters) := by
  rw [match?, merged?]
  cases r.find? path <;> rfl

/-- What is given to the first filter behind a cut decides, with the filters there, over the match. -/
theorem match?_of_reaches (hfilters : r.filters = before ++ after)
    (h : r.Reaches path method before params) :
    r.match? path method = applyFilters r.toPlan ⟨path, method⟩ after params := by
  obtain ⟨first, hfirst, hbefore⟩ := h
  rw [match?_eq_bind, hfirst, hfilters, Option.bind_some, applyFilters_append,
    applyFilters_of_passes hbefore, Option.bind_some]

theorem match?_eq_none_of_not_reaches (hfilters : r.filters = before ++ after)
    (h : ¬ ∃ params, r.Reaches path method before params) : r.match? path method = none := by
  rw [match?_eq_bind, hfilters, Option.bind_eq_none_iff]
  intro first hfirst
  rw [applyFilters_append, Option.bind_eq_none_iff]
  intro params hbefore
  exact absurd ⟨params, first, hfirst, applyFilters_eq_some_iff.1 hbefore⟩ h

theorem match?_eq_some_iff_of_append (hfilters : r.filters = before ++ after) {last : Params} :
    r.match? path method = some last ↔
      ∃ params, r.Reaches path method before params ∧
        Passes r.toPlan ⟨path, method⟩ after params last := by
  rw [match?_eq_bind, Option.bind_eq_some_iff, hfilters]
  simp only [applyFilters_eq_some_iff, passes_append_iff, Reaches]
  constructor
  · rintro ⟨first, hfirst, params, hbefore, hafter⟩
    exact ⟨params, ⟨first, hfirst, hbefore⟩, hafter⟩
  · rintro ⟨params, ⟨first, hfirst, hbefore⟩, hafter⟩
    exact ⟨first, hfirst, params, hbefore, hafter⟩

theorem match?_withFilters_of_keep (hfilters : r.filters = before ++ f :: after)
    (hkeep : ∀ params, r.Reaches path method before params →
      f.apply r.toPlan params ⟨path, method⟩ = .keep) :
    (r.withFilters (before ++ after)).match? path method = r.match? path method := by
  let short := r.withFilters (before ++ after)
  by_cases hreached : ∃ params, r.Reaches path method before params
  · obtain ⟨params, hparams⟩ := hreached
    have hshort : short.Reaches path method before params := hparams
    rw [match?_of_reaches hfilters hparams, applyFilters, hkeep params hparams]
    exact match?_of_reaches (r := short) rfl hshort
  · -- an earlier filter rejects, or no filter is asked at all
    have hshort : ¬ ∃ params, short.Reaches path method before params := hreached
    rw [match?_eq_none_of_not_reaches hfilters hreached]
    exact match?_eq_none_of_not_reaches (r := short) rfl hshort

theorem match?_of_reject (hfilters : r.filters = before ++ f :: after)
    (hparams : r.Reaches path method before params)
    (hreject : f.apply r.toPlan params ⟨path, method⟩ = .reject) : r.match? path method = none := by
  rw [match?_of_reaches hfilters hparams, applyFilters, hreject]

theorem match?_of_replace {next : Params} (hfilters : r.filters = before ++ f :: after)
    (hparams : r.Reaches path method before params)
    (hreplace : f.apply r.toPlan params ⟨path, method⟩ = .replace next) :
    r.match? path method = applyFilters r.toPlan ⟨path, method⟩ after next := by
  rw [match?_of_reaches hfilters hparams, applyFilters, hreplace]

end

/-- The filters of a route run one after the other, each on the parameters that the one before left.
One that keeps them could be left out, none behind one that rejects counts, and what one puts in
place is all that the later ones and the match get to see. -/
theorem filtersInTurn (r : Route) (path : String) (method : Method) :
    r.FiltersInTurn path method where
  split before after hfilters := by
    rw [match?_eq_bind, hfilters]
    exact congrArg _ (funext fun first => applyFilters_append ..)
  passes before after hfilters last := match?_eq_some_iff_of_append hfilters
  refuses first hfirst := by
    rw [match?_eq_bind, hfirst]
    exact applyFilters_eq_none_iff
  keep before f after hfilters hkeep := match?_withFilters_of_keep hfilters hkeep
  reject before f after params hfilters hparams hreject := by
    refine ⟨match?_of_reject hfilters hparams hreject, fun others => ?_⟩
    exact match?_of_reject (r := r.withFilters (before ++ f :: others)) rfl hparams hreject
  replace before f after params next hfilters hparams hreplace :=
    match?_of_replace hfilters hparams hreplace
  final last hmatch := by
    rw [match?_eq_bind, Option.bind_eq_some_iff] at hmatch
    obtain ⟨first, hfirst, hrun⟩ := hmatch
    rcases (applyFilters_eq_some_iff.1 hrun).kept_or_put with
      ⟨rfl, hall⟩ | ⟨before, f, after, mid, hfilters, hbefore, hput, hafter⟩
    · exact .inl ⟨hfirst, hall⟩
    · exact .inr ⟨before, f, after, mid, hfilters, ⟨first, hfirst, hbefore⟩, hput, hafter⟩

/-- One filter keeps the parameters, one puts others in their place, and one lets nothing pass but
posts. The default and the number of the page do not come back behind the second one. -/
theorem filtersInTurn_news :
    let seen : Filter := ⟨"seen", fun _ _ _ => .keep⟩
    let trail : Filter := ⟨"trail", fun _ params _ =>
      .replace (Dict.ofList [("trail", "page " ++ (params.get? "id").getD "")])⟩
    let posts : Filter := ⟨"posts", fun _ _ request =>
      if request.method = .post then .keep else .reject⟩
    ∃ r : Route, (Route.compile "news(/<id>)" ∅).map
        (fun r => ((r.withFilter seen).withFilter trail).withFilter posts) = .ok r ∧
      r.merged? "/news/7" = some (Dict.ofList [("action", "index"), ("id", "7")]) ∧
      r.match? "/news/7" .post = some (Dict.ofList [("trail", "page 7")]) ∧
      (r.withFilters [trail, posts]).match? "/news/7" .post =
        some (Dict.ofList [("trail", "page 7")]) ∧
      r.match? "/news/7" .get = none ∧
      ∀ others, (r.withFilters (seen :: trail :: posts :: others)).match? "/news/7" .get = none := by
  intro seen trail posts
  have hmerged : ((Route.compile "news(/<id>)" ∅).toOption.map (·.merged? "/news/7")) =
      some (some (Dict.ofList [("action", "index"), ("id", "7")])) := by decide +kernel
  obtain ⟨bare, hbare, hmerged⟩ := exists_of_map_toOption hmerged
  let r := ((bare.withFilter seen).withFilter trail).withFilter posts
  have hfilters : r.filters = [seen, trail, posts] := by
    simp [r, withFilter, filters_of_compileWith hbare]
  have hfirst : r.merged? "/news/7" = some (Dict.ofList [("action", "index"), ("id", "7")]) :=
    hmerged
  have htrail : ∀ method, r.Reaches "/news/7" method [seen]
      (Dict.ofList [("action", "index"), ("id", "7")]) := fun method =>
    ⟨_, hfirst, .keep rfl (.done _)⟩
  have hposts : ∀ method, r.Reaches "/news/7" method [seen, trail]
      (Dict.ofList [("trail", "page 7")]) := fun method =>
    ⟨_, hfirst, .keep rfl (.replace rfl (.done _))⟩
  have hpost := filtersInTurn r "/news/7" .post
  have hget := filtersInTurn r "/news/7" .get
  have hmatch : r.match? "/news/7" .post = some (Dict.ofList [("trail", "page 7")]) :=
    hpost.replace [seen] trail [posts] _ _ hfilters (htrail _) rfl
  have hreject := hget.reject [seen, trail] posts [] _ hfilters (hposts _) rfl
  refine ⟨r, ?_, hfirst, hmatch, ?_, hreject.1, hreject.2⟩
  · rw [hbare]
    rfl
  · exact (hpost.keep [] seen [trail, posts] hfilters fun _ _ => rfl).trans hmatch

end Signpost.Route
