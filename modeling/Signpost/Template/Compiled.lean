import Signpost.Regex.Text
import Signpost.Template.Parser

/-!
# Compiled templates

A template is matched by a pattern: literal text is escaped, a placeholder becomes a group with its
name, and a group of parts becomes optional. The pattern of a placeholder is its override, or else
the default one.

Main facts: `compile_eq_ok_iff`, what compiling gives, and `compile_overlay`, by which a compiled
template can be made again from its text and its patterns.
-/

namespace Signpost

/-- The pattern of one segment of a path: any characters but separators and line feeds. -/
def defaultSegment : String := "[^/.,;?\\n]+"

namespace Template

/-- The text of the pattern of a sequence of parts. -/
def pattern (patternOf : String → String) : Template → String
  | empty => ""
  | literal text rest => String.ofList (Regex.quote text.toList) ++ rest.pattern patternOf
  | placeholder name _ rest =>
    "(?P<" ++ name ++ ">" ++ patternOf name ++ ")" ++ rest.pattern patternOf
  | group body rest => "(?:" ++ body.pattern patternOf ++ ")?" ++ rest.pattern patternOf

/-- The text of the pattern that matches the paths of a template. -/
def source (t : Template) (patterns : Dict String) : String :=
  "^" ++ t.pattern (fun name => (patterns.get? name).getD defaultSegment) ++ "$"

/-- The pattern of a placeholder: its override, or else the default one. -/
def effective (overrides : Dict String) (default : String) (name : String) : String :=
  (overrides.get? name).getD default

/-- The pattern of each placeholder of a template. -/
def effectivePatterns (t : Template) (overrides : Dict String) (default : String) : Dict String :=
  .ofList (t.names.map fun name => (name, effective overrides default name))

theorem get?_effectivePatterns (t : Template) (overrides : Dict String) (default name : String) :
    (t.effectivePatterns overrides default).get? name =
      if name ∈ t.names then some (effective overrides default name) else none :=
  Dict.get?_ofList_map ..

/-- A template with the pattern that matches its paths. The text of that pattern and the required
placeholders are not kept: they are `source` and `required` of the fields. -/
structure Compiled where
  text : String
  template : Template
  patterns : Dict String
  regex : Regex
  parsed : parse text = .ok template
  /-- Just the placeholders have a pattern. -/
  named : ∀ name, patterns.contains name = true ↔ name ∈ template.names
  /-- Each pattern is one by itself. -/
  proper : ∀ name p, patterns.get? name = some p → Regex.isPattern p = true
  reads : Regex.ofString? (template.source patterns) = some regex

namespace Compiled

def source (c : Compiled) : String := c.template.source c.patterns

def required (c : Compiled) : List String := c.template.required

def same (c d : Compiled) : Bool :=
  c.text == d.text && c.patterns == d.patterns && c.source == d.source

instance : BEq Compiled := ⟨same⟩

end Compiled

/-- Compiles a template. The first placeholder that has no proper pattern is reported before a fault
of the whole. -/
def compile (text : String) (overrides : Dict String) (default : String) :
    Except TemplateError Compiled :=
  match hparsed : parse text with
  | .error e => .error e
  | .ok template =>
    let patternOf := effective overrides default
    match hproper : template.names.find? fun name => !Regex.isPattern (patternOf name) with
    | some name => .error ⟨text, .invalidRegex name⟩
    | none =>
      let patterns := template.effectivePatterns overrides default
      match hreads : Regex.ofString? (template.source patterns) with
      | none => .error ⟨text, .invalidPattern⟩
      | some regex => .ok {
          text, template, patterns, regex
          parsed := hparsed
          named := fun name => by
            rw [Dict.contains, get?_effectivePatterns]
            split <;> simp_all
          proper := fun name p hp => by
            rw [get?_effectivePatterns] at hp
            split at hp
            · rename_i hname
              cases hp
              simpa using List.find?_eq_none.1 hproper name hname
            · cases hp
          reads := hreads }

/-! ## What compiling gives -/

/-- Compiling keeps the text, and takes nothing but the pattern of each placeholder from the
overrides and the default. -/
theorem compile_eq_ok_iff {text default : String} {overrides : Dict String} {c : Compiled} :
    compile text overrides default = .ok c ↔
      c.text = text ∧ c.patterns = c.template.effectivePatterns overrides default := by
  constructor
  · intro h
    unfold compile at h
    split at h
    · cases h
    · dsimp only at h
      split at h
      · cases h
      · split at h
        · cases h
        · cases h
          exact ⟨rfl, rfl⟩
  · rintro ⟨htext, hpatterns⟩
    have hparsed := htext ▸ c.parsed
    unfold compile
    split
    · rename_i e he
      cases hparsed.symm.trans he
    · rename_i t ht
      cases hparsed.symm.trans ht
      have hproper : c.template.names.find?
          (fun name => !Regex.isPattern (effective overrides default name)) = none := by
        refine List.find?_eq_none.2 fun name hname => ?_
        have hget := get?_effectivePatterns c.template overrides default name
        rw [if_pos hname, ← hpatterns] at hget
        simp [c.proper name _ hget]
      dsimp only
      split
      · rename_i name hname
        cases hproper.symm.trans hname
      · split
        · rename_i hreads
          rw [← hpatterns, c.reads] at hreads
          cases hreads
        · rename_i r hreads
          rw [← hpatterns, c.reads] at hreads
          cases hreads
          cases c
          simp only [Except.ok.injEq, Compiled.mk.injEq]
          exact ⟨htext.symm, trivial, hpatterns.symm, trivial⟩

theorem compile_text {text default : String} {overrides : Dict String} {c : Compiled}
    (h : compile text overrides default = .ok c) : c.text = text :=
  (compile_eq_ok_iff.1 h).1

/-- The patterns of a compiled template win over those that they are laid over. -/
theorem effectivePatterns_overlay (c : Compiled) (lower : Dict String) (default : String) :
    c.template.effectivePatterns (lower.overlay c.patterns) default = c.patterns := by
  refine Dict.ext_get? fun name => ?_
  rw [get?_effectivePatterns]
  split
  · rename_i hname
    obtain ⟨p, hp⟩ := Dict.contains_iff.1 ((c.named name).2 hname)
    simp [effective, hp]
  · rename_i hname
    cases hp : c.patterns.get? name with
    | none => rfl
    | some p => exact absurd ((c.named name).1 (Dict.contains_iff.2 ⟨p, hp⟩)) hname

/-- A compiled template can be compiled again from its text and its patterns, whatever patterns these
are laid over. -/
theorem compile_overlay (c : Compiled) (lower : Dict String) (default : String) :
    compile c.text (lower.overlay c.patterns) default = .ok c :=
  compile_eq_ok_iff.2 ⟨rfl, (effectivePatterns_overlay c lower default).symm⟩

end Template

end Signpost
