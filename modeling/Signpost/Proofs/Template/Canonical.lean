import Signpost.Proofs.Template.Printing

/-!
# Templates that are read

The tree that the reader makes of a text is canonical and says all that the text does
(`reflects_of_parse`). Each placeholder is at the byte offset of its opening bracket, later ones are at
greater offsets, and the text of the tree is the one that was read, but for the backslashes that made
a character literal.

Positions and texts come from the tokens, by the first token of a text (`exists_firstToken`). The tree comes
from the tokens too: what is built is described by one case for each kind of token (`Builds`), and the
rest is by induction on this.
-/

namespace Signpost.Template

/-! ## Text without backslashes -/

/-- A text without each backslash that makes the character behind it literal. -/
def unescape : List Char → List Char
  | [] => []
  | [c] => [c]
  | c :: d :: cs => if c = '\\' then d :: unescape cs else c :: unescape (d :: cs)

/-- The text of a tree with its literals as they are. -/
def plain : Template → List Char
  | empty => []
  | literal text rest => text.toList ++ rest.plain
  | placeholder name _ rest => '<' :: (name.toList ++ '>' :: rest.plain)
  | group body rest => '(' :: (body.plain ++ ')' :: rest.plain)

/-- The text of a token, without the backslash if it has one in front of a character. -/
def Mark.plain : Mark → List Char
  | opening => ['(']
  | closing => [')']
  | name cs => '<' :: (cs ++ ['>'])
  | character c => [c]
  | loneEscape => ['\\']

theorem unescape_cons {c : Char} (h : c ≠ '\\') (cs : List Char) :
    unescape (c :: cs) = c :: unescape cs := by
  cases cs with
  | nil => rfl
  | cons d cs => rw [unescape, if_neg h]

theorem unescape_append {v : List Char} (h : '\\' ∉ v) (rest : List Char) :
    unescape (v ++ rest) = v ++ unescape rest := by
  induction v with
  | nil => rfl
  | cons c v ih =>
    rw [List.mem_cons, not_or] at h
    rw [List.cons_append, unescape_cons (Ne.symm h.1), ih h.2, List.cons_append]

/-! ## The first token of a text -/

/-- What the first token of a text can be, and how many characters belong to it behind its first
one. -/
inductive FirstToken : (c : Char) → (cs : List Char) → Mark → (skip : Nat) → Prop
  | opening (cs : List Char) : FirstToken '(' cs .opening 0
  | closing (cs : List Char) : FirstToken ')' cs .closing 0
  | loneEscape : FirstToken '\\' [] .loneEscape 0
  | escaped (d : Char) (cs : List Char) : FirstToken '\\' (d :: cs) (.character d) 1
  | name (n rest : List Char) : FirstToken '<' (n ++ '>' :: rest) (.name n) (n.length + 1)
  | character {c : Char} (cs : List Char) (hc : c ≠ '\\') : FirstToken c cs (.character c) 0

/-- A closing angle bracket that comes before any other bracket ends a name. -/
theorem exists_of_find?_isBracket {cs : List Char} (h : cs.find? isBracket = some '>') :
    ∃ rest, cs = cs.takeWhile (· != '>') ++ '>' :: rest := by
  induction cs with
  | nil => cases h
  | cons c cs ih =>
    by_cases hc : c = '>'
    · subst hc
      exact ⟨cs, rfl⟩
    · rw [List.find?_cons] at h
      split at h
      · cases h
        exact absurd rfl hc
      · obtain ⟨rest, hrest⟩ := ih h
        have hne : (c != '>') = true := by simpa using hc
        exact ⟨rest, by rw [List.takeWhile_cons, if_pos hne, List.cons_append, ← hrest]⟩

theorem exists_firstToken (position : Nat) (c : Char) (cs : List Char) :
    ∃ mark skip, FirstToken c cs mark skip ∧ tokens position 0 (c :: cs) =
      ⟨position, mark⟩ :: tokens (position + c.utf8Size) skip cs := by
  by_cases hopening : c = '('
  · subst hopening
    exact ⟨_, _, .opening cs, rfl⟩
  by_cases hclosing : c = ')'
  · subst hclosing
    exact ⟨_, _, .closing cs, rfl⟩
  by_cases hescape : c = '\\'
  · subst hescape
    cases cs with
    | nil => exact ⟨_, _, .loneEscape, rfl⟩
    | cons d cs => exact ⟨_, _, .escaped d cs, rfl⟩
  by_cases hname : c = '<' ∧ cs.find? isBracket = some '>'
  · obtain ⟨rfl, hfind⟩ := hname
    obtain ⟨rest, hrest⟩ := exists_of_find?_isBracket hfind
    refine ⟨.name (cs.takeWhile (· != '>')), (cs.takeWhile (· != '>')).length + 1, ?_,
      by simp [tokens, hfind]⟩
    generalize cs.takeWhile (· != '>') = name at hrest ⊢
    exact hrest ▸ .name name rest
  · exact ⟨_, _, .character cs hescape, by simp [tokens, hopening, hclosing, hescape, hname]⟩

theorem unescape_name {name rest : List Char} (hname : isName name = true) :
    unescape ('<' :: (name ++ '>' :: rest)) = '<' :: (name ++ '>' :: unescape rest) := by
  have hmem : '\\' ∉ name := fun hc => ne_of_isNamePart (isNamePart_of_mem hname _ hc) rfl rfl
  rw [unescape_cons (by decide), unescape_append hmem, unescape_cons (by decide)]

/-- The text of the tokens is the one that they were read from. -/
theorem unescape_eq {position skip : Nat} {cs : List Char}
    (h : ∀ n, .name n ∈ marks (tokens position skip cs) → isName n = true) :
    unescape (cs.drop skip) = (marks (tokens position skip cs)).flatMap Mark.plain := by
  induction cs generalizing position skip with
  | nil => cases skip <;> rfl
  | cons c cs ih =>
    cases skip with
    | succ k => exact ih h
    | zero =>
      obtain ⟨mark, skip, hfirst, htokens⟩ := exists_firstToken position c cs
      rw [htokens] at h ⊢
      have hrest := ih fun n hn => h n (List.mem_cons_of_mem _ hn)
      show unescape (c :: cs) = mark.plain ++ (marks _).flatMap Mark.plain
      rw [← hrest]
      cases hfirst with
      | opening | closing => exact unescape_cons (by decide) _
      | loneEscape => rfl
      | escaped d cs => rfl
      | name n rest =>
        rw [unescape_name (h n List.mem_cons_self), Mark.plain]
        simp
      | character cs hc => exact unescape_cons hc _

/-! ## Positions -/

theorem le_position {position skip : Nat} {cs : List Char} {t : Token}
    (h : t ∈ tokens position skip cs) : position ≤ t.position := by
  induction cs generalizing position skip with
  | nil => cases skip <;> cases h
  | cons c cs ih =>
    cases skip with
    | succ k => exact Nat.le_of_add_right_le (ih h)
    | zero =>
      obtain ⟨mark, skip, -, htokens⟩ := exists_firstToken position c cs
      rw [htokens] at h
      rcases List.mem_cons.1 h with rfl | h
      · exact Nat.le_refl _
      · exact Nat.le_of_add_right_le (ih h)

/-- Later tokens are at greater offsets. -/
theorem pairwise_tokens (position skip : Nat) (cs : List Char) :
    (tokens position skip cs).Pairwise (·.position < ·.position) := by
  induction cs generalizing position skip with
  | nil => cases skip <;> exact .nil
  | cons c cs ih =>
    cases skip with
    | succ k => exact ih ..
    | zero =>
      obtain ⟨mark, skip, -, htokens⟩ := exists_firstToken position c cs
      rw [htokens]
      refine List.pairwise_cons.2 ⟨fun t ht => ?_, ih ..⟩
      exact Nat.lt_of_lt_of_le (Nat.lt_add_of_pos_right c.utf8Size_pos) (le_position ht)

/-- The token of a name is at the offset of its opening bracket. -/
theorem mem_tokens {position skip : Nat} {cs n : List Char} {start : Nat}
    (h : ⟨start, .name n⟩ ∈ tokens position skip cs) :
    ∃ front back, cs = front ++ '<' :: (n ++ '>' :: back) ∧
      start = position + (String.ofList front).utf8ByteSize := by
  induction cs generalizing position skip with
  | nil => cases skip <;> cases h
  | cons c cs ih =>
    -- a name that is further behind has one character more in front of it
    have hlater : ∀ {skip}, ⟨start, .name n⟩ ∈ tokens (position + c.utf8Size) skip cs →
        ∃ front back, c :: cs = front ++ '<' :: (n ++ '>' :: back) ∧
          start = position + (String.ofList front).utf8ByteSize := by
      intro skip h
      obtain ⟨front, back, hcs, hstart⟩ := ih h
      refine ⟨c :: front, back, by rw [hcs, List.cons_append], ?_⟩
      rw [hstart, utf8ByteSize_ofList_cons, Nat.add_assoc]
    cases skip with
    | succ k => exact hlater h
    | zero =>
      obtain ⟨mark, skip, hfirst, htokens⟩ := exists_firstToken position c cs
      rw [htokens] at h
      rcases List.mem_cons.1 h with h | h
      · cases h
        cases hfirst with
        | name _ rest => exact ⟨[], rest, rfl, rfl⟩
      · exact hlater h

/-! ## What is built, token by token -/

/-- The sequences that tokens without a fault describe, in a text in which the groups that start at
`opened` are open in front of them: the rest of the innermost group, and the rests of the sequences
around it. -/
inductive Builds : (opened : List Nat) → List Token → List Template → Prop
  | nil : Builds [] [] [empty]
  | opening {position : Nat} {opened : List Nat} {ts : List Token} {body rest : Template}
    {outer : List Template} (hparts : ts.head?.map (·.mark) ≠ some .closing) :
    Builds (position :: opened) ts (body :: rest :: outer) →
      Builds opened (⟨position, .opening⟩ :: ts) (group body rest :: outer)
  | closing {position start : Nat} {opened : List Nat} {ts : List Token} {ss : List Template} :
    Builds opened ts ss → Builds (start :: opened) (⟨position, .closing⟩ :: ts) (empty :: ss)
  | name {position : Nat} {opened : List Nat} {n : List Char} {ts : List Token} {s : Template}
    {ss : List Template} :
    Builds opened ts (s :: ss) → Builds opened (⟨position, .name n⟩ :: ts)
      (placeholder (String.ofList n) position s :: ss)
  | character {position : Nat} {opened : List Nat} {c : Char} {ts : List Token} {s : Template}
    {ss : List Template} :
    Builds opened ts (s :: ss) →
      Builds opened (⟨position, .character c⟩ :: ts) (consChar c s :: ss)

theorem builds_build {opened : List Nat} {ts : List Token} (h : firstFault? opened ts = none) :
    Builds opened ts (build ts) := by
  induction ts generalizing opened with
  | nil =>
    cases opened with
    | nil => exact .nil
    | cons start opened => cases h
  | cons t ts ih =>
    obtain ⟨position, mark⟩ := t
    cases mark with
    | opening =>
      simp only [firstFault?] at h
      split at h
      · cases h
      · rename_i hparts
        have hrest := ih h
        obtain ⟨body, ss, hbuild⟩ := List.exists_cons_of_ne_nil (build_ne_nil ts)
        have hlen := length_build h
        rw [hbuild, List.length_cons, Nat.succ_inj] at hlen
        obtain ⟨rest, outer, hss⟩ := List.exists_cons_of_length_eq_add_one hlen
        rw [hss] at hbuild
        rw [hbuild] at hrest
        rw [build, hbuild]
        exact .opening hparts hrest
    | closing =>
      cases opened with
      | nil => cases h
      | cons start opened => exact .closing (ih h)
    | name n =>
      simp only [firstFault?, Option.or_eq_none_iff] at h
      have hrest := ih h.2
      obtain ⟨s, ss, hbuild⟩ := List.exists_cons_of_ne_nil (build_ne_nil ts)
      rw [hbuild] at hrest
      rw [build, hbuild]
      exact .name hrest
    | character c =>
      simp only [firstFault?, Option.or_eq_none_iff] at h
      have hrest := ih h.2
      obtain ⟨s, ss, hbuild⟩ := List.exists_cons_of_ne_nil (build_ne_nil ts)
      rw [hbuild] at hrest
      rw [build, hbuild]
      exact .character hrest
    | loneEscape => cases h

/-! ## Trees without empty parts -/

theorem isRegular_consChar {t : Template} (h : t.isRegular = true) (c : Char) :
    (consChar c t).isRegular = true := by
  cases t with
  | literal text rest =>
    simp only [isRegular, Bool.and_eq_true, bne_iff_ne, ne_eq] at h
    simp [consChar, isRegular, h.1.2, h.2]
  | empty => simp [consChar, isRegular, isLiteral]
  | placeholder | group => simpa [consChar, isRegular, isLiteral] using h

/-- A group has a part if something else than its end is behind its beginning. -/
theorem Builds.isEmpty_eq_false {start : Nat} {opened : List Nat} {ts : List Token} {s : Template}
    {ss : List Template} (h : Builds (start :: opened) ts (s :: ss))
    (hparts : ts.head?.map (·.mark) ≠ some .closing) : s.isEmpty = false := by
  cases h with
  | opening | name => rfl
  | closing => exact absurd rfl hparts
  | @character _ _ c _ s => cases s <;> rfl

theorem Builds.isRegular {opened : List Nat} {ts : List Token} {ss : List Template}
    (h : Builds opened ts ss) : ∀ s ∈ ss, s.isRegular = true := by
  induction h with
  | nil => simp [Template.isRegular]
  | opening hparts hrest ih =>
    simp only [List.forall_mem_cons] at ih ⊢
    obtain ⟨hbody, htail, houter⟩ := ih
    refine ⟨?_, houter⟩
    simp [Template.isRegular, hrest.isEmpty_eq_false hparts, hbody, htail]
  | closing _ ih => exact List.forall_mem_cons.2 ⟨rfl, ih⟩
  | name _ ih => exact List.forall_mem_cons.2 (List.forall_mem_cons.1 ih)
  | character _ ih =>
    obtain ⟨hs, hss⟩ := List.forall_mem_cons.1 ih
    exact List.forall_mem_cons.2 ⟨isRegular_consChar hs _, hss⟩

/-! ## The text of a tree -/

theorem plain_consChar (c : Char) (t : Template) : (consChar c t).plain = [c] ++ t.plain := by
  cases t with
  | literal text rest => simp [consChar, plain]
  | empty | placeholder | group => simp [consChar, plain]

/-- Text in front of the first of some texts is in front of them all. -/
theorem intercalate_append_cons {α : Type} (sep front : List α) (l : List α)
    (ls : List (List α)) :
    sep.intercalate ((front ++ l) :: ls) = front ++ sep.intercalate (l :: ls) := by
  cases ls with
  | nil => simp
  | cons l' ls => simp [List.intercalate_cons_cons]

/-- The text of all sequences, each but the last in front of the parenthesis that closes its group,
is that of the tokens. -/
theorem Builds.intercalate_plain {opened : List Nat} {ts : List Token} {ss : List Template}
    (h : Builds opened ts ss) :
    [')'].intercalate (ss.map Template.plain) = (marks ts).flatMap Mark.plain := by
  have hmarks : ∀ (t : Token) (ts : List Token), (marks (t :: ts)).flatMap Mark.plain =
      t.mark.plain ++ (marks ts).flatMap Mark.plain := fun _ _ => rfl
  induction h with
  | nil => rfl
  | @opening _ _ _ body rest outer _ _ ih =>
    have hgroup : (group body rest).plain =
        ('(' :: body.plain ++ [')']) ++ rest.plain := by simp [Template.plain]
    rw [List.map_cons, hgroup, intercalate_append_cons, hmarks, ← ih, List.map_cons, List.map_cons,
      List.intercalate_cons_cons]
    simp [Mark.plain]
  | @closing _ _ _ _ ss hrest ih =>
    rw [hmarks, ← ih]
    cases hrest <;> simp [Template.plain, Mark.plain, List.intercalate_cons_cons]
  | @name position _ n _ s ss _ ih =>
    have hname : (placeholder (String.ofList n) position s).plain =
        ('<' :: n ++ ['>']) ++ s.plain := by simp [Template.plain]
    rw [List.map_cons, hname, intercalate_append_cons, hmarks, ← ih, List.map_cons]
    rfl
  | @character _ _ c _ s ss _ ih =>
    rw [List.map_cons, plain_consChar, intercalate_append_cons, hmarks, ← ih, List.map_cons]
    rfl

/-! ## Placeholders inside and outside of groups -/

/-- The names of the placeholders in groups. -/
def innerNames : Template → List String
  | empty => []
  | literal _ rest => rest.innerNames
  | placeholder _ _ rest => rest.innerNames
  | group body rest => body.names ++ rest.innerNames

theorem names_perm (t : Template) : t.names.Perm (t.outerNames ++ t.innerNames) := by
  induction t with
  | empty => exact .refl _
  | literal text rest ih => exact ih
  | placeholder name position rest ih => exact .cons name ih
  | group body rest _ ih =>
    rw [names_group]
    exact (ih.append_left _).trans (List.perm_append_comm_assoc ..)

theorem mem_required_iff {t : Template} (hdistinct : t.names.Nodup) (n : String) :
    n ∈ t.required ↔ n ∈ t.names ∧ n ∉ t.innerNames := by
  have hnodup := t.names_perm.nodup_iff.1 hdistinct
  rw [mem_required, t.names_perm.mem_iff, List.mem_append]
  refine ⟨fun houter => ⟨.inl houter, fun hinner => ?_⟩, fun ⟨hmem, hinner⟩ =>
    hmem.resolve_right hinner⟩
  exact (List.nodup_append.1 hnodup).2.2 n houter n hinner rfl

/-! ## What a template is read as -/

/-- A tree that says all that a text does, and is canonical. -/
structure Reflects (text : String) (t : Template) : Prop where
  canonical : t.Canonical
  positions_ascending : (t.placeholders.map (·.2)).Pairwise (· < ·)
  located : ∀ name position, (name, position) ∈ t.placeholders →
    ∃ front back, text = front ++ "<" ++ name ++ ">" ++ back ∧ position = front.utf8ByteSize
  required_ascending : t.required.Pairwise (· < ·)
  required_iff : ∀ n, n ∈ t.required ↔ n ∈ t.names ∧ n ∉ t.innerNames
  plain_eq : t.plain = unescape text.toList

theorem ascending_nameTokens (position skip : Nat) (cs : List Char) :
    ((nameTokens (tokens position skip cs)).map (·.2)).Pairwise (· < ·) := by
  refine List.pairwise_map.2 (List.pairwise_filterMap.2 ?_)
  refine (pairwise_tokens position skip cs).imp fun {t u} htu p hp q hq => ?_
  obtain ⟨i, mark⟩ := t
  obtain ⟨j, mark'⟩ := u
  cases mark <;> cases hp
  cases mark' <;> cases hq
  exact htu

theorem mem_nameTokens {text name : String} {start : Nat}
    (h : (name, start) ∈ nameTokens (tokensOf text)) :
    ∃ front back, text = front ++ "<" ++ name ++ ">" ++ back ∧ start = front.utf8ByteSize := by
  obtain ⟨⟨position, mark⟩, ht, hmark⟩ := List.mem_filterMap.1 h
  cases mark with
  | name cs =>
    cases hmark
    obtain ⟨front, back, htext, hstart⟩ := mem_tokens ht
    refine ⟨String.ofList front, String.ofList back, ?_, by rw [hstart, Nat.zero_add]⟩
    rw [← String.ofList_toList (s := text), htext]
    simp [String.append_assoc]
  | _ => cases hmark

/-- A template that is accepted is read as a canonical tree that says all that its text does. -/
theorem reflects_of_parse {text : String} {t : Template} (h : parse text = .ok t) :
    Reflects text t := by
  obtain ⟨hfault, hbuild⟩ := build_of_parse h
  have hbuilds : Builds [] (tokensOf text) [t] := hbuild ▸ builds_build hfault
  have hdistinct := names_nodup h
  exact {
    canonical := ⟨hbuilds.isRegular t (List.mem_singleton_self t), isName_of_mem_names h, hdistinct⟩
    positions_ascending := by
      rw [placeholders_of_parse h]
      exact ascending_nameTokens ..
    located := fun name position hmem => mem_nameTokens (placeholders_of_parse h ▸ hmem)
    required_ascending := List.pairwise_map.2 (Dict.ascending _)
    required_iff := mem_required_iff hdistinct
    plain_eq := by
      have hnames := (firstFault?_eq_none_iff.1 hfault).names_valid
      have hplain := hbuilds.intercalate_plain
      rw [List.map_singleton, List.intercalate_singleton] at hplain
      rw [hplain]
      exact (unescape_eq hnames).symm }

/-- Escaped text, text of several bytes, a bracket that is no name and a group in a group. -/
theorem reflects_nested :
    parse "\\(é<<id>(x<_p2>(>ü))" = .ok (literal "(é<" (placeholder "id" 5
      (group (literal "x" (placeholder "_p2" 11 (group (literal ">ü" empty) empty))) empty))) ∧
    Reflects "\\(é<<id>(x<_p2>(>ü))" (literal "(é<" (placeholder "id" 5
      (group (literal "x" (placeholder "_p2" 11 (group (literal ">ü" empty) empty))) empty))) := by
  have h : parse "\\(é<<id>(x<_p2>(>ü))" = .ok (literal "(é<" (placeholder "id" 5
      (group (literal "x" (placeholder "_p2" 11 (group (literal ">ü" empty) empty))) empty))) := by
    decide +kernel
  exact ⟨h, reflects_of_parse h⟩

end Signpost.Template
