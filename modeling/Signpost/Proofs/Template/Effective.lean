import Signpost.Except
import Signpost.Proofs.Template.Token
import Signpost.Template.Compiled

/-!
# What compiling takes from overrides

A placeholder has its override as pattern, or else the default: its effective pattern. Compiling
looks at overrides and default through the effective patterns of the placeholders only
(`compile_congr`), so overrides for other names have no influence, and the default has none where
every placeholder has an override. Compiled templates are the same just if their texts and effective
patterns are (`same_iff_of_compile`), and then they agree in all that they hold. Faults of patterns
come from patterns, never from reading the text, and the first placeholder with a bad one is named
(`compile_eq_invalidRegex_iff`).
-/

namespace Signpost.Template

open Regex (isPattern ofString?)

variable {text text' default default' : String} {overrides overrides' : Dict String}

/-! ## Faults of the text -/

/-- Whether a fault is one of the patterns that belong to a text, not of the text. -/
def Fault.ofPatterns : Fault → Bool
  | invalidRegex _ => true
  | invalidPattern => true
  | _ => false

theorem Token.ofPatterns_eq_false {t : Token} {fault : Fault} (h : t.fault? = some fault) :
    fault.ofPatterns = false := by
  unfold Token.fault? at h
  repeat' split at h
  all_goals cases h <;> rfl

theorem firstFault?_ofPatterns {opened : List Nat} {ts : List Token} {fault : Fault}
    (h : firstFault? opened ts = some fault) : fault.ofPatterns = false := by
  induction ts generalizing opened with
  | nil =>
    obtain ⟨start, -, rfl⟩ := Option.map_eq_some_iff.1 h
    rfl
  | cons t ts ih =>
    obtain ⟨position, mark⟩ := t
    cases mark with
    | opening =>
      simp only [firstFault?] at h
      split at h
      · cases h
        rfl
      · exact ih h
    | closing =>
      cases opened with
      | nil =>
        cases h
        rfl
      | cons start outer => exact ih h
    | name | character | loneEscape =>
      simp only [firstFault?] at h
      rcases Option.or_eq_some_iff.1 h with hfault | ⟨-, hrest⟩
      · exact Token.ofPatterns_eq_false hfault
      · exact ih hrest

/-- A text that is not read is refused for itself. -/
theorem ofPatterns_of_parse {e : TemplateError} (h : parse text = .error e) :
    e.fault.ofPatterns = false := by
  rw [parse_eq] at h
  split at h
  · rename_i fault hfault
    cases h
    exact firstFault?_ofPatterns hfault
  · split at h
    · cases h
      rfl
    · cases h

/-! ## Effective patterns -/

/-- Whether two ways to give patterns give the same one to each placeholder of a text. -/
def AgreeOn (text : String) (overrides : Dict String) (default : String) (overrides' : Dict String)
    (default' : String) : Prop :=
  ∀ t, parse text = .ok t → ∀ n ∈ t.names,
    effective overrides default n = effective overrides' default' n

theorem effectivePatterns_eq_iff {t : Template} :
    t.effectivePatterns overrides default = t.effectivePatterns overrides' default' ↔
      ∀ n ∈ t.names, effective overrides default n = effective overrides' default' n := by
  constructor
  · intro h n hn
    have hget := congrArg (Dict.get? · n) h
    simpa only [get?_effectivePatterns, if_pos hn, Option.some.injEq] using hget
  · intro h
    refine Dict.ext_get? fun n => ?_
    rw [get?_effectivePatterns, get?_effectivePatterns]
    split
    · rename_i hn
      rw [h n hn]
    · rfl

/-- Overrides for names that a text does not have change nothing. -/
theorem agreeOn_overlay {unknown : Dict String}
    (h : ∀ t, parse text = .ok t → ∀ n ∈ t.names, unknown.contains n = false) :
    AgreeOn text (overrides.overlay unknown) default overrides default := by
  intro t ht n hn
  have hnone : unknown.get? n = none := by simpa [Dict.contains] using h t ht n hn
  rw [effective, Dict.get?_overlay, hnone, Option.none_or, effective]

/-- Where every placeholder has an override, the default changes nothing. -/
theorem agreeOn_of_contains
    (h : ∀ t, parse text = .ok t → ∀ n ∈ t.names, overrides.contains n = true) :
    AgreeOn text overrides default overrides default' := by
  intro t ht n hn
  obtain ⟨p, hp⟩ := Dict.contains_iff.1 (h t ht n hn)
  rw [effective, effective, hp, Option.getD_some, Option.getD_some]

/-! ## Faults of compiling -/

/-- Whether a placeholder is the first one of a template, in order, whose pattern is none. -/
def FirstImproper (t : Template) (patternOf : String → String) (n : String) : Prop :=
  ∃ before after, t.names = before ++ n :: after ∧ isPattern (patternOf n) = false ∧
    ∀ m ∈ before, isPattern (patternOf m) = true

theorem find?_improper_eq_some_iff {names : List String} {patternOf : String → String} {n : String} :
    names.find? (fun name => !isPattern (patternOf name)) = some n ↔
      ∃ before after, names = before ++ n :: after ∧ isPattern (patternOf n) = false ∧
        ∀ m ∈ before, isPattern (patternOf m) = true := by
  rw [List.find?_eq_some_iff_append]
  constructor
  · rintro ⟨hn, before, after, hnames, hbefore⟩
    exact ⟨before, after, hnames, by simpa using hn, fun m hm => by simpa using hbefore m hm⟩
  · rintro ⟨before, after, hnames, hn, hbefore⟩
    exact ⟨by simp [hn], before, after, hnames, fun m hm => by simp [hbefore m hm]⟩

theorem find?_names_eq_some_iff {t : Template} {patternOf : String → String} {n : String} :
    t.names.find? (fun name => !isPattern (patternOf name)) = some n ↔
      t.FirstImproper patternOf n :=
  find?_improper_eq_some_iff

theorem FirstImproper.mem {t : Template} {patternOf : String → String} {n : String}
    (hn : t.FirstImproper patternOf n) : n ∈ t.names := by
  obtain ⟨before, after, hnames, -, -⟩ := hn
  exact hnames ▸ List.mem_append_right before List.mem_cons_self

theorem FirstImproper.improper {t : Template} {patternOf : String → String} {n : String}
    (hn : t.FirstImproper patternOf n) : isPattern (patternOf n) = false := by
  obtain ⟨-, -, -, himproper, -⟩ := hn
  exact himproper

theorem compile_of_firstImproper {t : Template} {n : String} (ht : parse text = .ok t)
    (hn : t.FirstImproper (effective overrides default) n) :
    compile text overrides default = .error ⟨text, .invalidRegex n⟩ := by
  have hfind := find?_names_eq_some_iff.2 hn
  -- each match keeps its equation for the proof fields, so it is split, not rewritten
  unfold compile
  split
  · rename_i e he
    cases ht.symm.trans he
  · rename_i u hu
    cases ht.symm.trans hu
    dsimp only
    split
    · rename_i m hm
      cases hfind.symm.trans hm
      rfl
    · rename_i hnone
      cases hfind.symm.trans hnone

/-- What compiling a text that is read comes to: a placeholder has no proper pattern, or the
patterns do not make one together, or the template is compiled. -/
theorem compile_trichotomy {t : Template} (ht : parse text = .ok t) (overrides : Dict String)
    (default : String) :
    (∃ n, t.FirstImproper (effective overrides default) n ∧
      compile text overrides default = .error ⟨text, .invalidRegex n⟩) ∨
    ((∀ n ∈ t.names, isPattern (effective overrides default n) = true) ∧
      ofString? (t.source (t.effectivePatterns overrides default)) = none ∧
      compile text overrides default = .error ⟨text, .invalidPattern⟩) ∨
    ∃ c, c.template = t ∧ compile text overrides default = .ok c := by
  cases hfind : t.names.find? fun n => !isPattern (effective overrides default n) with
  | some n =>
    have hn := find?_names_eq_some_iff.1 hfind
    exact .inl ⟨n, hn, compile_of_firstImproper ht hn⟩
  | none =>
    refine .inr ?_
    have hproper : ∀ n ∈ t.names, isPattern (effective overrides default n) = true :=
      fun n hn => by simpa using List.find?_eq_none.1 hfind n hn
    unfold compile
    split
    · rename_i e he
      cases ht.symm.trans he
    · rename_i u hu
      cases ht.symm.trans hu
      dsimp only
      split
      · rename_i n hn
        cases hfind.symm.trans hn
      · split
        · rename_i hreads
          exact .inl ⟨hproper, hreads, rfl⟩
        · exact .inr ⟨_, rfl, rfl⟩

theorem compile_of_not_reads {t : Template} (ht : parse text = .ok t)
    (hproper : ∀ n ∈ t.names, isPattern (effective overrides default n) = true)
    (hreads : ofString? (t.source (t.effectivePatterns overrides default)) = none) :
    compile text overrides default = .error ⟨text, .invalidPattern⟩ := by
  rcases compile_trichotomy ht overrides default with ⟨n, hn, -⟩ | ⟨-, -, herror⟩ | ⟨c, rfl, hok⟩
  · cases hn.improper.symm.trans (hproper n hn.mem)
  · exact herror
  · have hregex := c.reads
    rw [(compile_eq_ok_iff.1 hok).2, hreads] at hregex
    cases hregex

theorem compile_of_parse_error {e : TemplateError} (h : parse text = .error e) :
    compile text overrides default = .error e := by
  unfold compile
  split
  · rename_i e' he
    cases h.symm.trans he
    rfl
  · rename_i t ht
    cases h.symm.trans ht

/-- A placeholder is reported just if it is the first one with a pattern that is none. -/
theorem compile_eq_invalidRegex_iff {n : String} :
    compile text overrides default = .error ⟨text', .invalidRegex n⟩ ↔
      text' = text ∧ ∃ t, parse text = .ok t ∧
        t.FirstImproper (effective overrides default) n := by
  constructor
  · intro h
    cases ht : parse text with
    | error e =>
      cases (compile_of_parse_error ht).symm.trans h
      cases ofPatterns_of_parse ht
    | ok t =>
      rcases compile_trichotomy ht overrides default with
        ⟨m, hm, herror⟩ | ⟨-, -, herror⟩ | ⟨c, -, hok⟩
      · cases herror.symm.trans h
        exact ⟨rfl, t, rfl, hm⟩
      · cases herror.symm.trans h
      · cases hok.symm.trans h
  · rintro ⟨rfl, t, ht, hn⟩
    exact compile_of_firstImproper ht hn

/-! ## Two ways to give patterns -/

theorem template_of_compile {t : Template} {c : Compiled} (ht : parse text = .ok t)
    (hc : compile text overrides default = .ok c) : c.template = t :=
  Except.ok.inj (c.parsed.symm.trans (compile_text hc ▸ ht))

theorem FirstImproper.congr {t : Template} {patternOf patternOf' : String → String}
    (h : ∀ n ∈ t.names, patternOf n = patternOf' n) {n : String}
    (hn : t.FirstImproper patternOf n) : t.FirstImproper patternOf' n := by
  obtain ⟨before, after, hnames, himproper, hbefore⟩ := hn
  refine ⟨before, after, hnames, ?_, fun m hm => ?_⟩
  · rw [← h n (hnames ▸ by simp)]
    exact himproper
  · rw [← h m (hnames ▸ List.mem_append_left _ hm)]
    exact hbefore m hm

/-- Where all effective patterns agree, compiling comes to the same, be it an error or not. -/
theorem compile_congr (h : AgreeOn text overrides default overrides' default') :
    compile text overrides default = compile text overrides' default' := by
  cases ht : parse text with
  | error e => rw [compile_of_parse_error ht, compile_of_parse_error ht]
  | ok t =>
    have hagree := h t ht
    have hpatterns := effectivePatterns_eq_iff.2 hagree
    rcases compile_trichotomy ht overrides default with
      ⟨n, hn, herror⟩ | ⟨hproper, hreads, herror⟩ | ⟨c, rfl, hok⟩
    · rw [herror, compile_of_firstImproper ht (hn.congr hagree)]
    · have hproper' : ∀ n ∈ t.names, isPattern (effective overrides' default' n) = true :=
        fun n hn => hagree n hn ▸ hproper n hn
      rw [herror, compile_of_not_reads ht hproper' (hpatterns ▸ hreads)]
    · obtain ⟨htext, hc⟩ := compile_eq_ok_iff.1 hok
      rw [hok, compile_eq_ok_iff.2 ⟨htext, hc.trans hpatterns⟩]

namespace Compiled

/-- A compiled template is determined by its text and its patterns. -/
theorem eq_of_text_patterns {c d : Compiled} (htext : c.text = d.text)
    (hpatterns : c.patterns = d.patterns) : c = d := by
  have htemplate : c.template = d.template :=
    Except.ok.inj (c.parsed.symm.trans (htext ▸ d.parsed))
  have hregex : c.regex = d.regex := by
    have hreads := c.reads
    rw [htemplate, hpatterns, d.reads] at hreads
    exact (Option.some.inj hreads).symm
  cases c
  cases d
  simp only [mk.injEq]
  exact ⟨htext, htemplate, hpatterns, hregex⟩

theorem same_iff {c d : Compiled} : c.same d = true ↔ c = d := by
  constructor
  · intro h
    simp only [same, Bool.and_eq_true, beq_iff_eq] at h
    exact eq_of_text_patterns h.1.1 h.1.2
  · rintro rfl
    simp [same]

end Compiled

/-- Compiled templates are the same just if their texts are and each placeholder has one pattern. -/
theorem same_iff_of_compile {c d : Compiled} (hc : compile text overrides default = .ok c)
    (hd : compile text' overrides' default' = .ok d) :
    c.same d = true ↔ text = text' ∧ AgreeOn text overrides default overrides' default' := by
  obtain ⟨htext, hpatterns⟩ := compile_eq_ok_iff.1 hc
  obtain ⟨htext', hpatterns'⟩ := compile_eq_ok_iff.1 hd
  rw [Compiled.same_iff]
  constructor
  · rintro rfl
    refine ⟨htext.symm.trans htext', fun t ht => ?_⟩
    have hsame := hpatterns.symm.trans hpatterns'
    rw [template_of_compile ht hc] at hsame
    exact effectivePatterns_eq_iff.1 hsame
  · rintro ⟨rfl, hagree⟩
    rw [compile_congr hagree, hd] at hc
    exact (Except.ok.inj hc).symm

/-! ## All that counts -/

/-- What overrides and a default have to do with compiling a text: they give each placeholder its
effective pattern, and nothing else. -/
structure CompilesByEffective (text : String) : Prop where
  congr : ∀ {overrides overrides' default default'},
    AgreeOn text overrides default overrides' default' →
      compile text overrides default = compile text overrides' default'
  unknown_override : ∀ {overrides unknown default},
    (∀ t, parse text = .ok t → ∀ n ∈ t.names, unknown.contains n = false) →
      compile text (overrides.overlay unknown) default = compile text overrides default
  unused_default : ∀ {overrides default default'},
    (∀ t, parse text = .ok t → ∀ n ∈ t.names, overrides.contains n = true) →
      compile text overrides default = compile text overrides default'
  mem_keys : ∀ {overrides default c}, compile text overrides default = .ok c →
    parse text = .ok c.template ∧ ∀ n, n ∈ c.patterns.keys ↔ n ∈ c.template.names
  get?_patterns : ∀ {overrides default c}, compile text overrides default = .ok c →
    ∀ n ∈ c.template.names, c.patterns.get? n = some (effective overrides default n)
  same_iff : ∀ {text' overrides overrides' default default' c d},
    compile text overrides default = .ok c → compile text' overrides' default' = .ok d →
      (c.same d = true ↔ text = text' ∧ AgreeOn text overrides default overrides' default') ∧
      (c.same d = true ↔ c = d)
  first_improper : ∀ {text' overrides default n},
    compile text overrides default = .error ⟨text', .invalidRegex n⟩ ↔
      text' = text ∧ ∃ t, parse text = .ok t ∧ t.FirstImproper (effective overrides default) n

/-- Compiling a template depends on overrides and default through the effective pattern of each
placeholder only: these decide over errors, over what is compiled, and over which compiled templates
are the same. The first placeholder whose effective pattern is none is the one that is reported. -/
theorem compilesByEffective (text : String) : CompilesByEffective text where
  congr h := compile_congr h
  unknown_override h := compile_congr (agreeOn_overlay h)
  unused_default h := compile_congr (agreeOn_of_contains h)
  mem_keys {_ _ c} h := by
    refine ⟨compile_text h ▸ c.parsed, fun n => ?_⟩
    rw [Dict.mem_keys]
    exact c.named n
  get?_patterns {_ _ c} h n hn := by
    rw [(compile_eq_ok_iff.1 h).2, get?_effectivePatterns, if_pos hn]
  same_iff hc hd := ⟨same_iff_of_compile hc hd, Compiled.same_iff⟩
  first_improper := compile_eq_invalidRegex_iff

/-- One pattern comes from the default or from an override, and what is no pattern does not matter
where no placeholder uses it. Of two placeholders without a pattern the first one is reported. -/
theorem compilesByEffective_pages :
    let own : Dict String := Dict.ofList [("page", "[0-9]+")]
    let all : Dict String := Dict.ofList [("name", "[a-z]+"), ("old", "("), ("page", "[0-9]+")]
    (∃ c, compile "<name>(/<page>)" own "[a-z]+" = .ok c ∧
      compile "<name>(/<page>)" all "[" = .ok c ∧ c.patterns.keys = ["name", "page"]) ∧
    compile "<name>(/<page>)" (Dict.ofList [("page", "(")]) "[" =
      .error ⟨"<name>(/<page>)", .invalidRegex "name"⟩ := by
  intro own all
  let t : Template :=
    placeholder "name" 0 (group (literal "/" (placeholder "page" 8 empty)) empty)
  have hparse : parse "<name>(/<page>)" = .ok t := rfl
  have hagree : AgreeOn "<name>(/<page>)" own "[a-z]+" all "[" := by
    intro t' ht'
    cases hparse.symm.trans ht'
    decide
  obtain ⟨c, hc⟩ : ∃ c, compile "<name>(/<page>)" own "[a-z]+" = .ok c :=
    exists_of_isOk (by decide +kernel)
  have hlaws := compilesByEffective "<name>(/<page>)"
  have hpatterns : c.patterns = t.effectivePatterns own "[a-z]+" := by
    rw [(compile_eq_ok_iff.1 hc).2, template_of_compile hparse hc]
  refine ⟨⟨c, hc, (hlaws.congr hagree).symm.trans hc, ?_⟩,
    hlaws.first_improper.2 ⟨rfl, t, hparse, ?_⟩⟩
  · rw [hpatterns]
    decide
  · exact ⟨[], ["page"], rfl, by decide +kernel, by simp⟩

end Signpost.Template
