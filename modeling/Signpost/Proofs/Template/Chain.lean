import Signpost.Proofs.Template.Token

/-!
# Chains of placeholders

The template of a page in a hierarchy: a placeholder, and behind it a slash and the next placeholder
in a group, and so on. The whole chain can stand in a group of its own. This module says what tree
such a text has, however long the chain is (`isChain_of_parse`).
-/

namespace Signpost.Template

/-- The text of the links behind the first placeholder of a chain, each in a group. -/
def linksText : List String → List Char
  | [] => []
  | p :: ps => '(' :: '/' :: '<' :: (p.toList ++ '>' :: (linksText ps ++ [')']))

/-- The text of a chain over some names, in a group of its own if `wrapped`. -/
def chainText (wrapped : Bool) : List String → String
  | [] => ""
  | p :: ps =>
    let chain := '<' :: (p.toList ++ '>' :: linksText ps)
    String.ofList (if wrapped then '(' :: (chain ++ [')']) else chain)

example : chainText true ["a", "b", "c"] = "(<a>(/<b>(/<c>)))" := by decide +kernel

/-- The tree of the links behind the first placeholder of a chain. -/
inductive Links : List String → Template → Prop
  | nil : Links [] .empty
  | cons {p : String} {ps : List String} {position : Nat} {t : Template} :
    Links ps t → Links (p :: ps) (.group (.literal "/" (.placeholder p position t)) .empty)

/-- The tree of a chain. -/
inductive IsChain : (wrapped : Bool) → List String → Template → Prop
  | plain {p : String} {ps : List String} {position : Nat} {t : Template} :
    Links ps t → IsChain false (p :: ps) (.placeholder p position t)
  | wrapped {p : String} {ps : List String} {position : Nat} {t : Template} :
    Links ps t → IsChain true (p :: ps) (.group (.placeholder p position t) .empty)

theorem Links.names {ps : List String} {t : Template} (h : Links ps t) : t.names = ps := by
  induction h with
  | nil => rfl
  | @cons p ps position t _ ih => simpa [Template.names, placeholders] using ih

theorem IsChain.names {wrapped : Bool} {ps : List String} {t : Template}
    (h : IsChain wrapped ps t) : t.names = ps := by
  cases h with
  | @plain p ps position t ht => simpa [Template.names, placeholders] using ht.names
  | @wrapped p ps position t ht => simpa [Template.names, placeholders] using ht.names

/-! ## Reading a chain -/

theorem tokens_slash (position : Nat) (cs : List Char) :
    tokens position 0 ('/' :: cs) = ⟨position, .character '/'⟩ :: tokens (position + 1) 0 cs := rfl

/-- The tokens of some links build the tree of the links in front of what comes behind. -/
theorem build_linksText {ps : List String} (hnames : ∀ p ∈ ps, isName p.toList = true)
    (position : Nat) (rest : List Char) :
    ∃ q t, Links ps t ∧ ∀ outer, build (tokens q 0 rest) = empty :: outer →
      build (tokens position 0 (linksText ps ++ rest)) = t :: outer := by
  induction ps generalizing position rest with
  | nil => exact ⟨position, empty, .nil, fun _ h => h⟩
  | cons p ps ih =>
    obtain ⟨hp, hps⟩ := List.forall_mem_cons.1 hnames
    obtain ⟨q', t, ht, hbuild⟩ := ih hps (position + 2 + p.utf8ByteSize + 2) (')' :: rest)
    refine ⟨q' + 1, group (literal "/" (placeholder p (position + 2) t)) empty, .cons ht,
      fun outer houter => ?_⟩
    have hclosing : build (tokens q' 0 (')' :: rest)) = empty :: empty :: outer := by
      rw [tokens_closing, ← houter]
      rfl
    have htext : linksText (p :: ps) ++ rest =
        '(' :: '/' :: '<' :: (p.toList ++ '>' :: (linksText ps ++ (')' :: rest))) := by
      simp [linksText]
    rw [htext, tokens_opening, tokens_slash, tokens_name hp]
    simp only [build, hbuild _ hclosing, String.ofList_toList]
    rfl

/-- A text of a chain has the tree of one. -/
theorem isChain_of_parse {wrapped : Bool} {ps : List String} {t : Template} (hps : ps ≠ [])
    (hnames : ∀ p ∈ ps, isName p.toList = true) (h : parse (chainText wrapped ps) = .ok t) :
    IsChain wrapped ps t := by
  have hbuilt := (build_of_parse h).2
  cases ps with
  | nil => exact absurd rfl hps
  | cons p ps =>
    obtain ⟨hp, hnames⟩ := List.forall_mem_cons.1 hnames
    cases wrapped with
    | false =>
      obtain ⟨q, t', ht', hbuild⟩ := build_linksText hnames (0 + p.utf8ByteSize + 2) []
      have htokens : tokensOf (chainText false (p :: ps)) =
          tokens 0 0 ('<' :: (p.toList ++ '>' :: (linksText ps ++ []))) := by
        simp [tokensOf, chainText]
      rw [htokens, tokens_name hp] at hbuilt
      simp only [build, hbuild [] rfl, String.ofList_toList] at hbuilt
      cases hbuilt
      exact .plain ht'
    | true =>
      obtain ⟨q, t', ht', hbuild⟩ := build_linksText hnames (0 + 1 + p.utf8ByteSize + 2) [')']
      have htokens : tokensOf (chainText true (p :: ps)) =
          tokens 0 0 ('(' :: '<' :: (p.toList ++ '>' :: (linksText ps ++ [')']))) := by
        simp [tokensOf, chainText]
      rw [htokens, tokens_opening, tokens_name hp] at hbuilt
      simp only [build, hbuild [empty] rfl, String.ofList_toList] at hbuilt
      cases hbuilt
      exact .wrapped ht'

end Signpost.Template
