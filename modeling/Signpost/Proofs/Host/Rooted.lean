import Signpost.Proofs.Building.Tidy
import Signpost.Proofs.Host.Links

/-!
# Links that stay on the site

A link along a local route, without a protocol, should begin with one slash and not with two: what
begins with two leads to the host named behind them. A link is the base of the site and a path. The
path is tidy and the base URL is trimmed before anything is made of it, but an index file is taken for
one if it is not empty before it is trimmed. So a link begins with two slashes just if the base URL
is nothing but slashes and the index file is one or more of them (`Site.url_isRooted_iff`).
-/

namespace Signpost

/-- Trimming leaves nothing just if there was nothing else. -/
theorem Text.trim_eq_nil_iff {c : Char} {cs : List Char} : trim c cs = [] ↔ ∀ d ∈ cs, d = c := by
  constructor
  · intro h d hd
    obtain ⟨m, n, hcs⟩ := exists_trim c cs
    rw [hcs, h, List.append_nil, List.mem_append] at hd
    exact hd.elim List.eq_of_mem_replicate List.eq_of_mem_replicate
  · intro h
    have hall : cs = List.replicate cs.length c := List.eq_replicate_iff.2 ⟨rfl, h⟩
    rw [hall, trim, List.dropWhile_replicate, if_pos (beq_self_eq_true c), trimEnd]

namespace Site

variable {s : Site}

/-- Whether a link begins with one slash, and not with two. -/
def IsRooted (link : String) : Prop :=
  ∃ rest, link.toList = '/' :: rest ∧ rest.head? ≠ some '/'

/-- Whether a text is nothing but slashes, if it is anything. -/
def IsSlashes (text : String) : Prop := ∀ c ∈ text.toList, c = '/'

theorem trimSlashes_eq_empty_iff {text : String} : trimSlashes text = "" ↔ IsSlashes text := by
  rw [← String.toList_eq_nil_iff, trimSlashes, String.toList_ofList]
  exact Text.trim_eq_nil_iff

/-- A text that is more than slashes does not begin with one when it is trimmed. -/
theorem exists_trimSlashes {text : String} (h : ¬ IsSlashes text) :
    ∃ c cs, c ≠ '/' ∧ (trimSlashes text).toList = c :: cs := by
  have htrim : (trimSlashes text).toList = Text.trim '/' text.toList := String.toList_ofList
  cases hcs : Text.trim '/' text.toList with
  | nil => exact absurd (Text.trim_eq_nil_iff.1 hcs) h
  | cons c cs =>
    refine ⟨c, cs, ?_, htrim.trans hcs⟩
    rintro rfl
    exact Text.head?_trim_ne '/' text.toList (by rw [hcs]; rfl)

/-- The base of a site begins with a slash, and another one comes next just if trimming leaves
nothing of the base URL and nothing of an index file. -/
theorem toList_basePath (s : Site) :
    ∃ rest, s.basePath.toList = '/' :: rest ∧ ∀ path : List Char, path.head? ≠ some '/' →
      ((rest ++ path).head? = some '/' ↔
        IsSlashes s.baseUrl ∧ s.indexFile ≠ "" ∧ IsSlashes s.indexFile) := by
  unfold basePath
  dsimp only
  by_cases hbase : IsSlashes s.baseUrl
  · rw [if_pos (trimSlashes_eq_empty_iff.2 hbase)]
    by_cases hnone : s.indexFile = ""
    · rw [if_pos hnone]
      refine ⟨[], rfl, fun path hpath => iff_of_false hpath fun h => h.2.1 hnone⟩
    rw [if_neg hnone]
    refine ⟨(trimSlashes s.indexFile).toList ++ ['/'], by simp, fun path _ => ?_⟩
    by_cases hindex : IsSlashes s.indexFile
    · rw [trimSlashes_eq_empty_iff.2 hindex]
      exact iff_of_true rfl ⟨hbase, hnone, hindex⟩
    · obtain ⟨c, cs, hc, htrim⟩ := exists_trimSlashes hindex
      rw [htrim]
      exact iff_of_false (fun h => hc (Option.some.inj h)) fun h => hindex h.2.2
  · obtain ⟨c, cs, hc, htrim⟩ := exists_trimSlashes hbase
    rw [if_neg fun h => hbase (trimSlashes_eq_empty_iff.1 h)]
    refine ⟨(trimSlashes s.baseUrl).toList ++ '/' ::
      (if s.indexFile = "" then "" else trimSlashes s.indexFile ++ "/").toList, by simp, ?_⟩
    intro path _
    rw [htrim]
    exact iff_of_false (fun h => hc (Option.some.inj h)) fun h => hbase h.1

/-- Without a protocol, the link along a local route begins with a slash. It begins with two just if
the base URL is nothing but slashes and so is an index file that is not empty. -/
theorem url_isRooted_iff {r : Route} {params : Params} {link : String}
    (hlocal : s.isExternal r = false) (h : s.url r params none = .ok link) :
    link.toList.head? = some '/' ∧
      (IsRooted link ↔ ¬ (IsSlashes s.baseUrl ∧ s.indexFile ≠ "" ∧ IsSlashes s.indexFile)) := by
  obtain ⟨path, hpath, hlink⟩ : ∃ path, r.buildPath params = .ok path ∧
      link = s.basePath ++ path := by
    cases hbuild : r.buildPath params with
    | error e => simp [url, hlocal, hbuild] at h
    | ok path =>
      rw [url_of_local hbuild hlocal] at h
      obtain ⟨base, hbase, hlink⟩ := map_eq_ok_iff.1 h
      cases hbase
      exact ⟨path, rfl, hlink⟩
  obtain ⟨rest, hbase, hsecond⟩ := toList_basePath s
  have htext : link.toList = '/' :: (rest ++ path.toList) := by
    rw [hlink, String.toList_append, hbase, List.cons_append]
  rw [← hsecond path.toList (Route.isTidy_of_buildPath hpath).head?_ne]
  refine ⟨by rw [htext]; rfl, ?_, fun hne => ⟨_, htext, hne⟩⟩
  rintro ⟨rest', htext', hne⟩
  cases htext.symm.trans htext'
  exact hne

/-- A base URL and an index file with slashes around them are set between single ones. -/
theorem url_isRooted_app :
    ∃ (s : Site) (r : Route),
      ofOptions { baseUrl := "//app/", indexFile := "/index.php/" } = .ok s ∧
      Route.compile "/news/<id>" ∅ = .ok r ∧ s.isExternal r = false ∧
      s.url r (Dict.ofList [("id", "/7")]) none = .ok "/app/index.php/news/7" ∧
      IsRooted "/app/index.php/news/7" := by
  let o : Options := { baseUrl := "//app/", indexFile := "/index.php/" }
  let params : Params := Dict.ofList [("id", "/7")]
  have hrun : ((ofOptions o).toOption.bind fun s =>
        (Route.compile "/news/<id>" ∅).toOption.map fun r =>
          (s.baseUrl, s.isExternal r, (s.url r params none).toOption)) =
      some ("//app/", false, some "/app/index.php/news/7") := by
    decide +kernel
  obtain ⟨s, r, hs, hr, hrun⟩ := exists_of_run hrun
  obtain ⟨hbase, hlocal, hurl⟩ : s.baseUrl = "//app/" ∧ s.isExternal r = false ∧
      (s.url r params none).toOption = some "/app/index.php/news/7" := by
    simpa using hrun
  have hok := eq_ok_of_toOption hurl
  have happ : ¬ IsSlashes s.baseUrl := fun h => absurd (h 'a' (by rw [hbase]; decide)) (by decide)
  exact ⟨s, r, hs, hr, hlocal, hok, (url_isRooted_iff hlocal hok).2.2 fun h => happ h.1⟩

/-- An index file that is nothing but a slash makes a link that begins with two. -/
theorem not_isRooted_index :
    ∃ (s : Site) (r : Route), ({ indexFile := "/" } : Options).validate = .ok () ∧
      ofOptions { indexFile := "/" } = .ok s ∧ Route.compile "news" ∅ = .ok r ∧
      s.isExternal r = false ∧ s.url r ∅ none = .ok "//news" ∧ ¬ IsRooted "//news" := by
  let o : Options := { indexFile := "/" }
  have hrun : ((ofOptions o).toOption.bind fun s => (Route.compile "news" ∅).toOption.map fun r =>
        (s.isExternal r, (s.url r ∅ none).toOption)) = some (false, some "//news") := by
    decide +kernel
  obtain ⟨s, r, hs, hr, hrun⟩ := exists_of_run hrun
  obtain ⟨hlocal, hurl⟩ : s.isExternal r = false ∧ (s.url r ∅ none).toOption = some "//news" := by
    simpa using hrun
  have hvalid : o.validate = .ok () := eq_ok_of_toOption (by decide +kernel)
  refine ⟨s, r, hvalid, hs, hr, hlocal, eq_ok_of_toOption hurl, ?_⟩
  rintro ⟨rest, htext, hne⟩
  cases htext
  exact hne rfl

end Site

end Signpost
