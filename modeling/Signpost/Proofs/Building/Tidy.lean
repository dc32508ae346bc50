import Signpost.Proofs.Building.Encoding
import Signpost.Proofs.Building.Reference

/-!
# Tidy paths

Tidying trims a path, looks through its bytes for a run of slashes, and goes through its characters
only if there is one. Either way what comes out are the segments of the path, those that are not
empty, with one slash between two of them (`toList_tidy`). So a tidied path has no slash at its ends
and no run of slashes (`isTidy_tidy`), tidying it again changes nothing, and no other character is
lost.
-/

namespace Signpost

namespace Text

/-- What is trimmed off the end of a text is nothing but `c`. -/
theorem exists_trimEnd (c : Char) (cs : List Char) :
    ∃ n, cs = trimEnd c cs ++ List.replicate n c := by
  induction cs with
  | nil => exact ⟨0, rfl⟩
  | cons d ds ih =>
    obtain ⟨n, hn⟩ := ih
    rw [trimEnd_cons]
    split
    · rename_i h
      rw [h.1, List.nil_append] at hn
      exact ⟨n + 1, by rw [h.2, List.nil_append, List.replicate_succ, ← hn]⟩
    · exact ⟨n, by rw [List.cons_append, ← hn]⟩

/-- What is trimmed off a text is nothing but `c`. -/
theorem exists_trim (c : Char) (cs : List Char) :
    ∃ m n, cs = List.replicate m c ++ trim c cs ++ List.replicate n c := by
  obtain ⟨n, hn⟩ := exists_trimEnd c (cs.dropWhile (· == c))
  have hfront : cs.takeWhile (· == c) = List.replicate (cs.takeWhile (· == c)).length c := by
    refine List.eq_replicate_iff.2 ⟨rfl, fun d hd => ?_⟩
    simpa using List.all_eq_true.1 (List.all_takeWhile (l := cs) (p := (· == c))) d hd
  refine ⟨(cs.takeWhile (· == c)).length, n, ?_⟩
  rw [← hfront, List.append_assoc, trim, ← hn, List.takeWhile_append_dropWhile]

end Text

namespace Path

/-! ## Segments -/

/-- The parts of a path between its slashes, but for the empty ones. -/
def parts (cs : List Char) : List (List Char) := (cs.splitOn '/').filter (!·.isEmpty)

/-- The segments of a path. -/
def segments (path : String) : List String := (parts path.toList).map String.ofList

theorem parts_append (cs ds : List Char) : parts (cs ++ '/' :: ds) = parts cs ++ parts ds := by
  unfold parts List.splitOn
  rw [List.splitOnP_append_cons (p := (· == '/')) cs ds rfl, List.filter_append]

@[simp] theorem parts_nil : parts [] = [] := rfl

@[simp] theorem parts_slash (cs : List Char) : parts ('/' :: cs) = parts cs := parts_append [] cs

theorem parts_of_not_mem {v : List Char} (hne : v ≠ []) (h : '/' ∉ v) : parts v = [v] := by
  have hother : ∀ c ∈ v, (c == '/') = false := by
    intro c hc
    exact beq_false_of_ne fun he => h (he ▸ hc)
  rw [parts, List.splitOn, List.splitOnP_eq_singleton hother]
  simpa using hne

theorem parts_replicate (n : Nat) : parts (List.replicate n '/') = [] := by
  induction n with
  | zero => rfl
  | succ n ih => rw [List.replicate_succ, parts_slash, ih]

/-- Slashes at the ends do not count. -/
theorem parts_trim (cs : List Char) : parts (trim cs) = parts cs := by
  obtain ⟨m, n, hcs⟩ := Text.exists_trim '/' cs
  have hfront : ∀ (k : Nat) (ds : List Char), parts (List.replicate k '/' ++ ds) = parts ds := by
    intro k ds
    induction k with
    | zero => rfl
    | succ k ih => rw [List.replicate_succ, List.cons_append, parts_slash, ih]
  have hback : ∀ (k : Nat) (ds : List Char), parts (ds ++ List.replicate k '/') = parts ds := by
    intro k ds
    cases k with
    | zero => rw [List.replicate_zero, List.append_nil]
    | succ k => rw [List.replicate_succ, parts_append, parts_replicate, List.append_nil]
  rw [trim]
  conv => rhs; rw [hcs, hback, hfront]

/-- A character in front of another one belongs to the same part. -/
theorem parts_cons_cons {c d : Char} (hc : c ≠ '/') (hd : d ≠ '/') (cs : List Char) :
    ∃ v vs, parts (d :: cs) = v :: vs ∧ parts (c :: d :: cs) = (c :: v) :: vs := by
  have hsplit : ∀ {e : Char} (es : List Char), e ≠ '/' →
      (e :: es).splitOn '/' = (es.splitOn '/').modifyHead (e :: ·) := fun {e} es he => by
    rw [List.splitOn_cons_eq_if_modifyHead, if_neg (by simpa using he)]
  obtain ⟨v, vs, hv⟩ := List.exists_cons_of_ne_nil (List.splitOn_ne_nil '/' cs)
  refine ⟨d :: v, vs.filter (!·.isEmpty), ?_, ?_⟩
  · rw [parts, hsplit cs hd, hv]
    rfl
  · rw [parts, hsplit _ hc, hsplit cs hd, hv]
    rfl

theorem not_mem_of_mem_splitOn {v cs : List Char} (h : v ∈ cs.splitOn '/') : '/' ∉ v := by
  induction cs generalizing v with
  | nil =>
    cases List.mem_singleton.1 h
    exact List.not_mem_nil
  | cons c cs ih =>
    rw [List.splitOn_cons_eq_if_modifyHead] at h
    split at h
    · rcases List.mem_cons.1 h with rfl | h
      · exact List.not_mem_nil
      · exact ih h
    · rename_i hc
      obtain ⟨w, ws, hw⟩ := List.exists_cons_of_ne_nil (List.splitOn_ne_nil '/' cs)
      rw [hw, List.modifyHead_cons] at h
      rcases List.mem_cons.1 h with rfl | h
      · intro hmem
        rcases List.mem_cons.1 hmem with rfl | hmem
        · exact hc (beq_self_eq_true _)
        · exact ih (hw ▸ List.mem_cons_self) hmem
      · exact ih (hw ▸ List.mem_cons_of_mem _ h)

theorem of_mem_parts {v cs : List Char} (h : v ∈ parts cs) : v ≠ [] ∧ '/' ∉ v := by
  obtain ⟨hv, hne⟩ := List.mem_filter.1 h
  exact ⟨by simpa using hne, not_mem_of_mem_splitOn hv⟩

/-! ## Segments between slashes -/

/-- Some parts with a slash between two of them. -/
def join (vs : List (List Char)) : List Char := ['/'].intercalate vs

theorem join_cons_cons (v w : List Char) (vs : List (List Char)) :
    join (v :: w :: vs) = v ++ '/' :: join (w :: vs) := by
  rw [join, List.intercalate_cons_cons, List.append_assoc]
  rfl

/-- Nothing but slashes is between the parts of a text. -/
theorem filter_join (vs : List (List Char)) :
    (join vs).filter (· != '/') = vs.flatMap (·.filter (· != '/')) := by
  induction vs with
  | nil => rfl
  | cons v vs ih =>
    cases vs with
    | nil => simp [join]
    | cons w vs =>
      rw [join_cons_cons, List.filter_append, List.filter_cons_of_neg (by decide), ih]
      rfl

theorem filter_join_parts (cs : List Char) :
    (join (parts cs)).filter (· != '/') = cs.filter (· != '/') := by
  have hempty : ∀ vs : List (List Char), (vs.filter (!·.isEmpty)).flatMap (·.filter (· != '/')) =
      vs.flatMap (·.filter (· != '/')) := by
    intro vs
    induction vs with
    | nil => rfl
    | cons v vs ih =>
      cases v with
      | nil => simpa using ih
      | cons c v => simp [ih]
  calc (join (parts cs)).filter (· != '/')
    _ = (parts cs).flatMap (·.filter (· != '/')) := filter_join _
    _ = (cs.splitOn '/').flatMap (·.filter (· != '/')) := hempty _
    _ = (join (cs.splitOn '/')).filter (· != '/') := (filter_join _).symm
    _ = cs.filter (· != '/') := by rw [join, List.intercalate_splitOn]

/-! ## Tidy paths -/

/-- Whether a path has no slash at its ends and no run of slashes. -/
structure IsTidy (path : String) : Prop where
  head?_ne : path.toList.head? ≠ some '/'
  getLast?_ne : path.toList.getLast? ≠ some '/'
  not_infix : ¬ "//".toList <:+: path.toList

theorem IsTidy.trim_eq {path : String} (h : IsTidy path) : trim path.toList = path.toList :=
  Text.trim_eq_self h.head?_ne h.getLast?_ne

/-- The first part begins the text. -/
theorem head?_join {v : List Char} {vs : List (List Char)} (h : v ≠ [] ∧ '/' ∉ v) :
    (join (v :: vs)).head? ≠ some '/' := by
  obtain ⟨c, cs, rfl⟩ := List.exists_cons_of_ne_nil h.1
  have hc : c ≠ '/' := fun he => h.2 (he ▸ List.mem_cons_self)
  cases vs with
  | nil => simpa [join] using hc
  | cons w vs => simpa [join_cons_cons] using hc

/-- The last part ends the text. -/
theorem getLast?_join {v : List Char} {vs : List (List Char)}
    (h : ∀ w ∈ v :: vs, w ≠ [] ∧ '/' ∉ w) :
    ∃ c, c ≠ '/' ∧ (join (v :: vs)).getLast? = some c := by
  induction vs generalizing v with
  | nil =>
    obtain ⟨hne, hslash⟩ := h v List.mem_cons_self
    rw [join, List.intercalate_singleton]
    exact ⟨_, fun he => hslash (he ▸ List.getLast_mem hne), List.getLast?_eq_some_getLast hne⟩
  | cons w vs ih =>
    obtain ⟨c, hc, hlast⟩ := ih fun x hx => h x (List.mem_cons_of_mem _ hx)
    refine ⟨c, hc, ?_⟩
    rw [join_cons_cons, List.getLast?_append, List.getLast?_cons, hlast]
    rfl

/-- A run does not begin in other elements. -/
theorem run_infix_append {α : Type u} {x : α} {xs : List α} (h : x ∉ xs) (ys : List α) :
    [x, x] <:+: xs ++ ys ↔ [x, x] <:+: ys := by
  induction xs with
  | nil => rfl
  | cons y xs ih =>
    rw [List.mem_cons, not_or] at h
    rw [List.cons_append, List.infix_cons_iff, ih h.2, List.cons_prefix_cons]
    exact or_iff_right fun hrun => h.1 hrun.1

/-- No run of slashes is in a text without any. -/
theorem not_infix_of_not_mem {v : List Char} (h : '/' ∉ v) : ¬ "//".toList <:+: v :=
  fun hrun => h (hrun.subset List.mem_cons_self)

theorem not_infix_join {vs : List (List Char)} (h : ∀ w ∈ vs, w ≠ [] ∧ '/' ∉ w) :
    ¬ "//".toList <:+: join vs := by
  induction vs with
  | nil => exact not_infix_of_not_mem List.not_mem_nil
  | cons v vs ih =>
    obtain ⟨hv, hvs⟩ := List.forall_mem_cons.1 h
    cases vs with
    | nil =>
      rw [join, List.intercalate_singleton]
      exact not_infix_of_not_mem hv.2
    | cons w vs =>
      intro hrun
      rw [join_cons_cons, show "//".toList = ['/', '/'] from rfl, run_infix_append hv.2] at hrun
      rcases List.infix_cons_iff.1 hrun with hrun | hrun
      · obtain ⟨ds, hds⟩ := (List.cons_prefix_cons.1 hrun).2
        exact head?_join (h w (by simp)) (by rw [← hds]; rfl)
      · exact ih hvs hrun

theorem isTidy_join {vs : List (List Char)} (h : ∀ w ∈ vs, w ≠ [] ∧ '/' ∉ w) :
    IsTidy (String.ofList (join vs)) := by
  have htext : (String.ofList (join vs)).toList = join vs := String.toList_ofList
  refine ⟨?_, ?_, ?_⟩
  · rw [htext]
    cases vs with
    | nil => simp [join]
    | cons v vs => exact head?_join (h v List.mem_cons_self)
  · rw [htext]
    cases vs with
    | nil => simp [join]
    | cons v vs =>
      obtain ⟨c, hc, hlast⟩ := getLast?_join h
      rw [hlast]
      exact fun he => hc (Option.some.inj he)
  · rw [htext]
    exact not_infix_join h

/-! ## Going through the characters -/

theorem join_cons_char (c : Char) (v : List Char) (vs : List (List Char)) :
    join ((c :: v) :: vs) = c :: join (v :: vs) := by
  cases vs with
  | nil => rfl
  | cons w vs => rw [join_cons_cons, join_cons_cons, List.cons_append]

/-- A text with no part in it has nothing but slashes. -/
theorem eq_slash_of_parts_eq_nil {cs : List Char} (h : parts cs = []) : ∀ c ∈ cs, c = '/' := by
  have hnone : cs.filter (· != '/') = [] := by rw [← filter_join_parts, h]; rfl
  intro c hc
  simpa using List.filter_eq_nil_iff.1 hnone c hc

/-- Behind a slash, the parts of a text that does not end with one are left, with one slash between
two of them. -/
theorem squeeze_true_eq {cs : List Char} (h : cs.getLast? ≠ some '/') :
    squeeze true cs = join (parts cs) := by
  induction cs with
  | nil => rfl
  | cons c cs ih =>
    by_cases hc : c = '/'
    · subst hc
      rw [squeeze_true_slash, parts_slash]
      apply ih
      cases cs with
      | nil => simp
      | cons d ds => simpa [List.getLast?_cons_cons] using h
    have hone : parts [c] = [[c]] := parts_of_not_mem (by simp) (by simpa using Ne.symm hc)
    rw [squeeze_cons_of_ne hc]
    cases cs with
    | nil =>
      rw [hone]
      rfl
    | cons d ds =>
      rw [List.getLast?_cons_cons] at h
      have hrest := ih h
      by_cases hd : d = '/'
      · -- the first part ends here, and the text does not
        subst hd
        rw [squeeze_true_slash, parts_slash] at hrest
        have hsplit : parts (c :: '/' :: ds) = [c] :: parts ds := by
          rw [show c :: '/' :: ds = [c] ++ '/' :: ds from rfl, parts_append, hone]
          rfl
        cases hparts : parts ds with
        | nil =>
          have hall : ∀ e ∈ '/' :: ds, e = '/' :=
            List.forall_mem_cons.2 ⟨rfl, eq_slash_of_parts_eq_nil hparts⟩
          rw [List.getLast?_eq_some_getLast (List.cons_ne_nil _ _)] at h
          exact absurd (congrArg some (hall _ (List.getLast_mem _))) h
        | cons v vs =>
          rw [squeeze_false_slash, hrest, hsplit, hparts, join_cons_cons]
          rfl
      · obtain ⟨v, vs, hparts, hfirst⟩ := parts_cons_cons hc hd ds
        rw [squeeze_cons_of_ne hd] at hrest ⊢
        rw [hfirst, join_cons_char, ← hparts, ← hrest]

/-- Where nothing has to be left out, nothing is. -/
theorem squeeze_eq_self {cs : List Char} (h : ¬ "//".toList <:+: cs) {afterSlash : Bool}
    (hafter : afterSlash = true → cs.head? ≠ some '/') : squeeze afterSlash cs = cs := by
  induction cs generalizing afterSlash with
  | nil => rfl
  | cons c cs ih =>
    have hcs : ¬ "//".toList <:+: cs := fun hrun => h (hrun.trans (List.suffix_cons c cs).isInfix)
    by_cases hc : c = '/'
    · subst hc
      have hhead : cs.head? ≠ some '/' := by
        intro hslash
        obtain ⟨ds, rfl⟩ := List.head?_eq_some_iff.1 hslash
        exact h ⟨[], ds, rfl⟩
      cases afterSlash with
      | true => exact absurd rfl (hafter rfl)
      | false => rw [squeeze_false_slash, ih hcs fun _ => hhead]
    · rw [squeeze_cons_of_ne hc, ih hcs Bool.noConfusion]

/-! ## Looking through the bytes -/

/-- A character that is not a slash has no byte of one. -/
theorem slash_not_mem_utf8EncodeChar {c : Char} (hc : c ≠ '/') :
    '/'.toUInt8 ∉ String.utf8EncodeChar c := by
  intro hmem
  rcases Nat.lt_or_ge c.toNat 128 with hlow | hhigh
  · refine absurd hmem (Template.forall_ascii (P := fun c =>
      c ≠ '/' → '/'.toUInt8 ∉ String.utf8EncodeChar c) (by decide +kernel) hlow hc)
  · exact absurd (Percent.le_of_mem_utf8EncodeChar hhigh hmem) (by decide)

/-- The bytes of a text begin with a slash if the text does. -/
theorem slash_prefix_bytes {cs : List Char} :
    ['/'.toUInt8] <+: cs.flatMap String.utf8EncodeChar ↔ ['/'] <+: cs := by
  cases cs with
  | nil => simp
  | cons c cs =>
    rw [List.flatMap_cons, List.cons_prefix_cons]
    by_cases hc : c = '/'
    · subst hc
      exact ⟨fun _ => ⟨rfl, List.nil_prefix⟩, fun _ => ⟨_, rfl⟩⟩
    · refine iff_of_false ?_ fun h => hc h.1.symm
      obtain ⟨b, bs, hbs⟩ : ∃ b bs, String.utf8EncodeChar c = b :: bs :=
        List.exists_cons_of_ne_nil String.utf8EncodeChar_ne_nil
      have hmem := slash_not_mem_utf8EncodeChar hc
      rw [hbs] at hmem ⊢
      intro h
      exact hmem ((List.cons_prefix_cons.1 h).1 ▸ List.mem_cons_self)

/-- The bytes of a text have a run of slashes just if the text does. -/
theorem run_infix_bytes (cs : List Char) :
    ['/'.toUInt8, '/'.toUInt8] <:+: cs.flatMap String.utf8EncodeChar ↔ ['/', '/'] <:+: cs := by
  induction cs with
  | nil => simp
  | cons c cs ih =>
    rw [List.flatMap_cons]
    by_cases hc : c = '/'
    · subst hc
      rw [show String.utf8EncodeChar '/' = ['/'.toUInt8] from rfl, List.singleton_append,
        List.infix_cons_iff, List.infix_cons_iff, List.cons_prefix_cons, List.cons_prefix_cons,
        slash_prefix_bytes, ih]
      simp
    · have hother : '/' ∉ [c] := by simpa using Ne.symm hc
      rw [run_infix_append (slash_not_mem_utf8EncodeChar hc), ih]
      exact (run_infix_append hother cs).symm

theorem hasRun_iff (path : String) : hasRun path = true ↔ "//".toList <:+: path.toList := by
  rw [hasRun, Text.occurs_iff, Percent.data_toUTF8, Percent.data_toUTF8]
  exact run_infix_bytes path.toList

/-! ## Tidying -/

/-- Going through the characters of a trimmed path leaves its parts with one slash between two of
them. -/
theorem squeeze_trim (cs : List Char) : squeeze false (trim cs) = join (parts cs) := by
  have hback : squeeze false (trim cs) = squeeze true (trim cs) := by
    cases htrim : trim cs with
    | nil => rfl
    | cons c ds =>
      have hc : c ≠ '/' := by
        rintro rfl
        exact Text.head?_trim_ne '/' cs (by rw [← trim, htrim]; rfl)
      rw [squeeze_cons_of_ne hc, squeeze_cons_of_ne hc]
  have hlast : (trim cs).getLast? ≠ some '/' := Text.getLast?_trim_ne '/' cs
  rw [hback, squeeze_true_eq hlast, parts_trim]

/-- Where the bytes have no run of slashes, going through the characters changes nothing. -/
theorem squeeze_of_hasRun {cs : List Char} (h : hasRun (String.ofList cs) = false) :
    squeeze false cs = cs := by
  refine squeeze_eq_self (fun hrun => ?_) Bool.noConfusion
  rw [(hasRun_iff _).2 (by rwa [String.toList_ofList (l := cs)])] at h
  cases h

theorem toList_tidy (path : String) : (tidy path).toList = join (parts path.toList) := by
  rw [tidy, ← squeeze_trim]
  split
  · rw [String.toList_ofList]
  · rename_i hrun
    rw [String.toList_ofList, squeeze_of_hasRun (Bool.eq_false_iff.2 hrun)]

theorem tidy_eq_intercalate (path : String) : tidy path = "/".intercalate (segments path) := by
  rw [← String.toList_inj, toList_tidy, String.toList_intercalate, segments, List.map_map]
  simp [join]

theorem isTidy_tidy (path : String) : IsTidy (tidy path) := by
  have htidy : tidy path = String.ofList (join (parts path.toList)) := by
    rw [← toList_tidy, String.ofList_toList]
  rw [htidy]
  exact isTidy_join fun v hv => of_mem_parts hv

/-- A tidy path is left alone. -/
theorem IsTidy.tidy_eq {path : String} (h : IsTidy path) : tidy path = path := by
  have hrun : hasRun path = false :=
    Bool.eq_false_iff.2 fun hrun => h.not_infix ((hasRun_iff path).1 hrun)
  simp only [tidy, h.trim_eq, String.ofList_toList]
  rw [hrun, if_neg Bool.false_ne_true]

theorem filter_tidy (path : String) :
    (tidy path).toList.filter (· != '/') = path.toList.filter (· != '/') := by
  rw [toList_tidy, filter_join_parts]

end Path

theorem Route.isTidy_of_buildPath {r : Route} {params : Params} {path : String}
    (h : r.buildPath params = .ok path) : Path.IsTidy path := by
  rw [(buildPath_eq_ok h).2]
  exact Path.isTidy_tidy _

namespace Path

/-- Tidying joins the segments of a path. The bytes show whether there is a run of slashes to leave
out, and if there is none, going through the characters would give the same. Nothing is left to tidy
then, and all other characters are there in order. So every path that is built along a route has no
slash at its ends and no run of slashes. -/
theorem tidy_joins_segments (path : String) :
    tidy path = "/".intercalate (segments path) ∧
    (hasRun (String.ofList (trim path.toList)) = true ↔ "//".toList <:+: trim path.toList) ∧
    (hasRun (String.ofList (trim path.toList)) = false →
      squeeze false (trim path.toList) = trim path.toList) ∧
    tidy (tidy path) = tidy path ∧
    (tidy path).toList.filter (· != '/') = path.toList.filter (· != '/') ∧
    ∀ (r : Route) (params : Params) (built : String),
      r.buildPath params = .ok built → IsTidy built := by
  have hrun := hasRun_iff (String.ofList (trim path.toList))
  rw [String.toList_ofList (l := trim path.toList)] at hrun
  exact ⟨tidy_eq_intercalate path, hrun, squeeze_of_hasRun, (isTidy_tidy path).tidy_eq,
    filter_tidy path,
    fun _ _ _ hbuild => Route.isTidy_of_buildPath hbuild⟩

/-- A value with slashes of its own is built into a tidy path. -/
theorem tidy_joins_segments_const :
    ∃ r : Route, Route.compile "/api//<name>/" ∅ = .ok r ∧
      tidy "/api///const//2/" = "/".intercalate ["api", "const", "2"] ∧
      hasRun "news" = false ∧ squeeze false "news".toList = "news".toList ∧
      r.buildPath (Dict.ofList [("name", "/const//2")]) = .ok "api/const/2" ∧
      IsTidy "api/const/2" := by
  let params : Params := Dict.ofList [("name", "/const//2")]
  have hrun : ((Route.compile "/api//<name>/" ∅).toOption.map fun r =>
      (r.buildPath params).toOption) = some (some "api/const/2") := by decide +kernel
  obtain ⟨r, hr, hpath⟩ := exists_of_map_toOption hrun
  have hbuild := eq_ok_of_toOption hpath
  have hsegments : segments "/api///const//2/" = ["api", "const", "2"] := by decide +kernel
  have hnews : hasRun "news" = false := by decide +kernel
  obtain ⟨hjoin, -, -, -, -, htidy⟩ := tidy_joins_segments "/api///const//2/"
  obtain ⟨-, -, hfast, -⟩ := tidy_joins_segments "/news/"
  exact ⟨r, hr, hsegments ▸ hjoin, hnews, hfast hnews, hbuild, htidy r params _ hbuild⟩

end Path

end Signpost
