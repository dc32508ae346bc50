import Mathlib.Data.List.TakeWhile
import Signpost.Regex.Escape

/-!
# What readers of escapes look at

A reader that has found the end of what it reads does not look at the text behind it: more text there
stays in the rest. The lemmas say so one reader after the other. Some readers look at the character
behind the end, and then the text that follows begins with a closing parenthesis, which goes on with
nothing that is read.

Blanks and comments are the exception. Those that reach the end of a text also take what follows, a
comment even a closing parenthesis (`skip_paren`).
-/

namespace Signpost.Regex

theorem takeWhile_dropWhile_append {α : Type u} {p : α → Bool} {xs : List α}
    (h : xs.dropWhile p ≠ []) (ys : List α) :
    (xs ++ ys).takeWhile p = xs.takeWhile p ∧ (xs ++ ys).dropWhile p = xs.dropWhile p ++ ys := by
  induction xs with
  | nil => exact absurd rfl h
  | cons x xs ih =>
    rw [List.cons_append, List.takeWhile_cons, List.takeWhile_cons, List.dropWhile_cons,
      List.dropWhile_cons]
    split
    · rename_i hx
      rw [List.dropWhile_cons, if_pos hx] at h
      exact ⟨congrArg _ (ih h).1, (ih h).2⟩
    · exact ⟨rfl, rfl⟩

/-! ## Blanks -/

theorem dropBlanks_append {inComment : Bool} {cs : List Char} (h : dropBlanks inComment cs ≠ [])
    (u : List Char) : dropBlanks inComment (cs ++ u) = dropBlanks inComment cs ++ u := by
  induction inComment, cs using dropBlanks.induct with
  | case1 => exact absurd rfl h
  | case2 c cs ih => exact ih h
  | case3 inComment c cs hc hw ih =>
    simp only [dropBlanks, if_neg hc, if_pos hw, List.cons_append] at h ⊢
    exact ih h
  | case4 inComment c cs hc hw hs ih =>
    simp only [dropBlanks, if_neg hc, if_neg hw, if_pos hs, List.cons_append] at h ⊢
    exact ih h
  | case5 inComment c cs hc hw hs =>
    simp only [dropBlanks, if_neg hc, if_neg hw, if_neg hs, List.cons_append]

/-- Blanks that reach the end of a text go on in what follows, in a comment or not. -/
theorem dropBlanks_eq_nil {inComment : Bool} {cs : List Char} (h : dropBlanks inComment cs = []) :
    ∃ inComment', ∀ u, dropBlanks inComment (cs ++ u) = dropBlanks inComment' u := by
  fun_induction dropBlanks inComment cs with
  | case1 inComment => exact ⟨inComment, fun u => rfl⟩
  | case2 c cs ih => exact ih h
  | case3 inComment c cs hc hw ih =>
    simpa only [List.cons_append, dropBlanks, if_neg hc, if_pos hw] using ih h
  | case4 inComment c cs hc hw hs ih =>
    simpa only [List.cons_append, dropBlanks, if_neg hc, if_neg hw, if_pos hs] using ih h
  | case5 => cases h

theorem dropBlanks_of_all {cs : List Char} (h : ∀ c ∈ cs, Unicode.isWhiteSpace c = true)
    (inComment : Bool) : dropBlanks inComment cs = [] := by
  induction cs generalizing inComment with
  | nil => rfl
  | cons c cs ih =>
    obtain ⟨hc, hcs⟩ := List.forall_mem_cons.1 h
    rw [dropBlanks, if_pos hc]
    split
    · exact ih hcs _
    · exact ih hcs _

theorem dropBlanks_dropWhile (cs : List Char) :
    dropBlanks false (cs.dropWhile Unicode.isWhiteSpace) = dropBlanks false cs := by
  induction cs with
  | nil => rfl
  | cons c cs ih =>
    rw [List.dropWhile_cons]
    split
    · rename_i hw
      rw [ih, dropBlanks, if_neg Bool.false_ne_true, if_pos hw]
    · rfl

theorem skip_nil (f : Flags) : f.skip [] = [] := by
  unfold Flags.skip
  split <;> rfl

theorem skip_append {f : Flags} {cs : List Char} (h : f.skip cs ≠ []) (u : List Char) :
    f.skip (cs ++ u) = f.skip cs ++ u := by
  unfold Flags.skip at h ⊢
  split
  · rename_i hs
    rw [if_pos hs] at h
    exact dropBlanks_append h u
  · rfl

theorem skip_cons {f : Flags} {cs ds : List Char} {c : Char} (h : f.skip cs = c :: ds)
    (u : List Char) : f.skip (cs ++ u) = c :: (ds ++ u) := by
  rw [skip_append (h ▸ List.cons_ne_nil c ds), h, List.cons_append]

/-- As many characters are skipped with more text behind. -/
theorem length_skip_append {f : Flags} {cs : List Char} (h : f.skip cs ≠ []) (u : List Char) :
    (cs ++ u).length - (f.skip (cs ++ u)).length = cs.length - (f.skip cs).length := by
  rw [skip_append h, List.length_append, List.length_append, Nat.add_sub_add_right]

/-- Behind a text a parenthesis is left over like more text, unless a comment takes it. -/
theorem skip_paren (f : Flags) (cs : List Char) :
    (∀ t, f.skip (cs ++ ')' :: t) = f.skip cs ++ ')' :: t) ∨ f.skip (cs ++ [')', '$']) = [] := by
  by_cases hcs : f.skip cs = []
  · by_cases hf : f.spaced = true
    · rw [Flags.skip, if_pos hf] at hcs
      obtain ⟨inComment, hrest⟩ := dropBlanks_eq_nil hcs
      simp only [Flags.skip, if_pos hf, hcs]
      cases inComment with
      | false => exact .inl fun t => hrest _
      | true => exact .inr (hrest _)
    · refine .inl fun t => ?_
      simp only [Flags.skip, if_neg hf]
  · exact .inl fun t => skip_append hcs _

/-! ## Escapes -/

section
variable {f : Flags} {cs rest : List Char} {a : Atom} (u t : List Char)

theorem readHexDigits_append {count value n : Nat}
    (h : readHexDigits f count value cs = some (n, rest)) :
    readHexDigits f count value (cs ++ u) = some (n, rest ++ u) := by
  induction count generalizing value cs with
  | zero =>
    cases h
    rfl
  | succ count ih =>
    rw [readHexDigits] at h ⊢
    cases hcs : f.skip cs with
    | nil => simp [hcs] at h
    | cons c ds =>
      rw [hcs] at h
      rw [skip_cons hcs]
      obtain ⟨v, hv, hread⟩ := Option.bind_eq_some_iff.1 h
      exact Option.bind_eq_some_iff.2 ⟨v, hv, ih hread⟩

theorem readBraces_append {inside : List Char} (h : readBraces f cs = some (inside, rest)) :
    readBraces f (cs ++ u) = some (inside, rest ++ u) := by
  rw [readBraces] at h ⊢
  generalize false = inComment at h ⊢
  fun_induction readBraces.go f inComment cs generalizing inside with
  | case1 inComment => cases h
  | case2 c cs ih => exact ih h
  | case3 inComment c cs hc hw ih =>
    simpa only [List.cons_append, readBraces.go, if_neg hc, if_pos hw] using ih h
  | case4 inComment c cs hc hw hs ih =>
    simpa only [List.cons_append, readBraces.go, if_neg hc, if_neg hw, if_pos hs] using ih h
  | case5 inComment c cs hc hw hs hb =>
    cases h
    simp only [List.cons_append, readBraces.go, if_neg hc, if_neg hw, if_neg hs, if_pos hb]
  | case6 inComment c cs hc hw hs hb ih =>
    obtain ⟨⟨ds, rest'⟩, hread, heq⟩ := Option.bind_eq_some_iff.1 h
    cases heq
    simp only [List.cons_append, readBraces.go, if_neg hc, if_neg hw, if_neg hs, if_neg hb]
    exact Option.bind_eq_some_iff.2 ⟨_, ih hread, rfl⟩

theorem readHexChar_append {count : Nat} (h : readHexChar f (count + 1) cs = some (a, rest)) :
    readHexChar f (count + 1) (cs ++ u) = some (a, rest ++ u) := by
  cases hcs : f.skip cs with
  | nil => simp [readHexChar, hcs, readHexDigits, skip_nil] at h
  | cons c ds =>
    by_cases hc : c = '\x7b'
    · subst hc
      simp only [readHexChar, hcs, skip_cons hcs, Option.bind_eq_bind,
        Option.bind_eq_some_iff] at h ⊢
      obtain ⟨⟨digits, r⟩, hread, n, hn, d, hd, heq⟩ := h
      cases heq
      exact ⟨_, readBraces_append u hread, n, hn, d, hd, rfl⟩
    · simp only [readHexChar, hcs, skip_cons hcs, List.cons.injEq, hc, false_and, imp_false,
        not_false_eq_true, implies_true, Option.bind_eq_bind, Option.bind_eq_some_iff] at h ⊢
      obtain ⟨⟨n, r⟩, hread, d, hd, heq⟩ := h
      split at heq
      · cases heq
      · rename_i hbyte
        cases heq
        exact ⟨_, readHexDigits_append u hread, d, hd, if_neg hbyte⟩

theorem readProperty_append {negated : Bool} (h : readProperty f negated cs = some (a, rest)) :
    readProperty f negated (cs ++ u) = some (a, rest ++ u) := by
  -- the rest has no part in what is made of the property
  have hmake : ∀ {p : Unicode.Property} {inverse : Bool} {r : List Char},
      (if !f.unicode then none
        else (f.negate? (negated != inverse) (f.foldCase (.property p))).bind fun s =>
          some (Atom.set s, r)) = some (a, rest) →
      (if !f.unicode then none
        else (f.negate? (negated != inverse) (f.foldCase (.property p))).bind fun s =>
          some (Atom.set s, r ++ u)) = some (a, rest ++ u) := by
    intro p inverse r h
    split at h
    · cases h
    · rename_i hf
      obtain ⟨s, hs, heq⟩ := Option.bind_eq_some_iff.1 h
      cases heq
      rw [if_neg hf, hs]
      rfl
  cases hcs : f.skip cs with
  | nil => simp [readProperty, hcs] at h
  | cons c ds =>
    by_cases hb : c = '\x7b'
    · subst hb
      simp only [readProperty, hcs, skip_cons hcs, Option.bind_eq_bind,
        Option.bind_eq_some_iff] at h ⊢
      obtain ⟨⟨inside, r⟩, hread, ⟨p, inverse⟩, hp, _, heq, h⟩ := h
      cases heq
      exact ⟨_, readBraces_append u hread, _, hp, _, rfl, hmake h⟩
    · by_cases he : c = '\\'
      · subst he
        simp [readProperty, hcs] at h
      · simp only [readProperty, hcs, skip_cons hcs, Option.bind_eq_bind, Option.bind_eq_some_iff,
          Option.map_eq_some_iff] at h ⊢
        obtain ⟨_, ⟨p, hp, heq⟩, h⟩ := h
        cases heq
        exact ⟨_, ⟨p, hp, rfl⟩, hmake h⟩

theorem readBoundary_append (h : readBoundary f cs = some (a, rest)) :
    readBoundary f (cs ++ ')' :: t) = some (a, rest ++ ')' :: t) := by
  cases cs with
  | nil =>
    cases h
    rfl
  | cons c cs =>
    by_cases hb : c = '\x7b'
    · subst hb
      cases hcs : f.skip cs with
      | nil => simp [readBoundary, hcs] at h
      | cons d ds =>
        simp only [List.cons_append, readBoundary, hcs, skip_cons hcs] at h ⊢
        split at h
        · rename_i hd
          obtain ⟨⟨name, r⟩, hread, h⟩ := Option.bind_eq_some_iff.1 h
          obtain ⟨edge, hedge, heq⟩ := Option.bind_eq_some_iff.1 h
          cases heq
          simp [hd, readBraces_append _ hread, hedge]
        · rename_i hd
          cases h
          rw [if_neg hd]
          rfl
    · simp only [List.cons_append, readBoundary, hb, List.cons.injEq, false_and, imp_false,
        not_false_eq_true, implies_true] at h ⊢
      cases h
      rfl

theorem readEscape_append (h : readEscape f cs = some (a, rest)) :
    readEscape f (cs ++ ')' :: t) = some (a, rest ++ ')' :: t) := by
  unfold readEscape at h
  split at h <;> first
    | exact readHexChar_append _ h
    | exact readProperty_append _ h
    | exact readBoundary_append _ h
    | cases h; done
    | cases h; rfl
    | skip
  -- a character without a reader of its own
  split at h
  · rename_i hc
    cases h
    simp only [List.cons_append, readEscape, hc, if_true]
  · rename_i hc
    obtain ⟨s, hs, heq⟩ := Option.map_eq_some_iff.1 h
    cases heq
    simp only [List.cons_append, readEscape, hc, hs]
    rfl

end

end Signpost.Regex
