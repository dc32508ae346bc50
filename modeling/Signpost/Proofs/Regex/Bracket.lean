import Signpost.Proofs.Regex.Escape
import Signpost.Regex.Bracket

/-!
# What readers of brackets look at

A class in brackets is read in the same way whatever stands behind it (`readClass_append`). Inside the
brackets one construct after the other is (`Bracket.step_append`), so long as the text does not end
with it. A class with a name is found by looking for a colon, maybe far behind the brackets, but no
such name has a parenthesis in it (`asciiClass?_eq_none`).
-/

namespace Signpost.Regex

/-! ## Opening -/

section
variable {f : Flags} {b b' : Bracket} {cs rest : List Char} (u t : List Char)

/-- Hyphens with nothing behind them open no bracket. -/
theorem openHyphens_length (f : Flags) (b : Bracket) (cs : List Char) :
    openHyphens f b cs.length cs = none := by
  induction cs with
  | nil => rfl
  | cons c cs ih => exact ih

theorem openHyphens_append {k : Nat} (h : openHyphens f b k cs = some (b', rest)) :
    openHyphens f b k (cs ++ u) = some (b', rest ++ u) := by
  fun_induction openHyphens f b k cs with
  | case1 => cases h
  | case2 b k c cs ih => exact ih h
  | case3 b cs ih =>
    have hs : f.skip cs ≠ [] := fun hs => by simp [hs, openHyphens_length] at h
    rw [List.cons_append, openHyphens, length_skip_append hs]
    exact ih h
  | case4 b cs hnil hhyphen =>
    cases h
    cases rest with
    | nil => exact (hnil rfl).elim
    | cons c cs =>
      have hc : c ≠ '-' := fun hc => hhyphen cs (hc ▸ rfl)
      simp [openHyphens, hc]

/-- A closing bracket that comes first is a character. -/
def Bracket.opened? (f : Flags) (b : Bracket) (cs : List Char) : Option (Bracket × List Char) :=
  match cs with
  | ']' :: rest =>
    if b.count = 0 then
      match f.skip rest with
      | [] => none
      | rest => some (b.add ⟨.single ']', 0⟩, rest)
    else some (b, cs)
  | cs => some (b, cs)

theorem Bracket.opened?_append (h : b.opened? f cs = some (b', rest)) :
    b.opened? f (cs ++ ')' :: t) = some (b', rest ++ ')' :: t) := by
  cases cs with
  | nil =>
    cases h
    rfl
  | cons c cs =>
    by_cases hc : c = ']'
    · subst hc
      simp only [List.cons_append, opened?] at h ⊢
      split at h
      · rename_i hcount
        cases hcs : f.skip cs with
        | nil => simp [hcs] at h
        | cons d ds =>
          rw [hcs] at h
          cases h
          simp [hcount, skip_cons hcs]
      · rename_i hcount
        cases h
        rw [if_neg hcount]
        rfl
    · simp only [List.cons_append, opened?, List.cons.injEq, hc, false_and, imp_false,
        not_false_eq_true, implies_true] at h ⊢
      cases h
      rfl

theorem openBracket_append (h : openBracket f cs = some (b, rest)) :
    openBracket f (cs ++ ')' :: t) = some (b, rest ++ ')' :: t) := by
  cases hcs : f.skip cs with
  | nil => simp [openBracket, hcs] at h
  | cons c ds =>
    by_cases hc : c = '^'
    · subst hc
      simp only [openBracket, hcs, skip_cons hcs, Option.bind_eq_bind, Option.bind_some,
        Option.bind_eq_some_iff] at h ⊢
      obtain ⟨⟨b', r⟩, hopen, h⟩ := h
      have hds : f.skip ds ≠ [] := fun hds => by simp [hds, openHyphens] at hopen
      rw [skip_append hds]
      exact ⟨_, openHyphens_append _ hopen, Bracket.opened?_append t h⟩
    · simp only [openBracket, hcs, skip_cons hcs, List.cons.injEq, hc, false_and,
        imp_false, not_false_eq_true, implies_true, Option.bind_eq_bind, Option.bind_some,
        Option.bind_eq_some_iff] at h ⊢
      obtain ⟨⟨b', r⟩, hopen, h⟩ := h
      exact ⟨_, openHyphens_append _ hopen, Bracket.opened?_append t h⟩

end

/-! ## Named classes -/

/-- No class has a parenthesis in its name. -/
theorem asciiClass?_eq_none {name : List Char} (h : ')' ∈ name) : asciiClass? name = none := by
  refine List.lookup_eq_none_iff.2 fun p hp => ?_
  have hplain : ')' ∉ p.1.toList := by
    simp only [List.mem_cons, List.not_mem_nil, or_false] at hp
    rcases hp with rfl | rfl | rfl | rfl | rfl | rfl | rfl | rfl | rfl | rfl | rfl | rfl | rfl | rfl
      <;> decide
  have hne : String.ofList name ≠ p.1 := fun he => hplain (he ▸ String.toList_ofList ▸ h)
  simpa using hne

/-- Reads a name, up to the colon and the bracket that close its class. -/
def className? (negated : Bool) (cs : List Char) : Option (CharSet × Bool × List Char) :=
  match cs.dropWhile (· != ':') with
  | ':' :: ']' :: rest => (asciiClass? (cs.takeWhile (· != ':'))).map (·, negated, rest)
  | _ => none

theorem namedClass?_colon {cs : List Char} (h : cs.head? ≠ some '^') :
    namedClass? (':' :: cs) = className? false cs := by
  cases cs with
  | nil => rfl
  | cons c cs =>
    have hc : c ≠ '^' := fun hc => h (hc ▸ rfl)
    simp only [namedClass?, List.cons.injEq, hc, false_and, imp_false, not_false_eq_true,
      implies_true]
    rfl

theorem namedClass?_of_ne {cs : List Char} (h : cs.head? ≠ some ':') : namedClass? cs = none := by
  cases cs with
  | nil => rfl
  | cons c cs =>
    have hc : c ≠ ':' := fun hc => h (hc ▸ rfl)
    simp only [namedClass?, List.cons.injEq, hc, false_and, imp_false, not_false_eq_true,
      implies_true]

section
variable {cs rest : List Char} {s : CharSet} {negated negated' : Bool} (u t : List Char)

theorem className?_append (h : className? negated' cs = some (s, negated, rest)) :
    className? negated' (cs ++ u) = some (s, negated, rest ++ u) := by
  unfold className? at h ⊢
  split at h
  · rename_i r hr
    obtain ⟨htake, hdrop⟩ := takeWhile_dropWhile_append (hr ▸ List.cons_ne_nil _ _) u
    obtain ⟨_, hs, heq⟩ := Option.map_eq_some_iff.1 h
    cases heq
    rw [htake, hdrop, hr]
    exact Option.map_eq_some_iff.2 ⟨_, hs, rfl⟩
  · cases h

theorem className?_eq_none (h : className? negated cs = none) :
    className? negated (cs ++ ')' :: t) = none := by
  unfold className? at h ⊢
  by_cases hdrop : cs.dropWhile (· != ':') = []
  · -- the parenthesis is part of the name
    have hall : ∀ c ∈ cs, (c != ':') = true := List.dropWhile_eq_nil_iff.1 hdrop
    have hname : ')' ∈ (cs ++ ')' :: t).takeWhile (· != ':') := by
      rw [List.takeWhile_append_of_pos hall]
      simp
    split
    · rw [asciiClass?_eq_none hname]
      rfl
    · rfl
  · obtain ⟨htake, happ⟩ := takeWhile_dropWhile_append hdrop (')' :: t)
    rw [htake, happ]
    split
    · rename_i r hr
      obtain ⟨c, ds, hcs⟩ := List.exists_cons_of_ne_nil hdrop
      rw [hcs] at h hr
      cases ds with
      | nil => simp at hr
      | cons d ds =>
        cases hr
        simpa using h
    · rfl

theorem namedClass?_append (h : namedClass? cs = some (s, negated, rest)) :
    namedClass? (cs ++ u) = some (s, negated, rest ++ u) := by
  by_cases hcolon : cs.head? = some ':'
  · obtain ⟨cs, rfl⟩ := List.head?_eq_some_iff.1 hcolon
    by_cases hhat : cs.head? = some '^'
    · obtain ⟨cs, rfl⟩ := List.head?_eq_some_iff.1 hhat
      exact className?_append u h
    · rw [namedClass?_colon hhat] at h
      cases cs with
      | nil => cases h
      | cons c cs =>
        have happ : (c :: cs ++ u).head? ≠ some '^' := hhat
        exact (namedClass?_colon happ).trans (className?_append u h)
  · simp [namedClass?_of_ne hcolon] at h

theorem namedClass?_eq_none (h : namedClass? cs = none) : namedClass? (cs ++ ')' :: t) = none := by
  by_cases hcolon : cs.head? = some ':'
  · obtain ⟨cs, rfl⟩ := List.head?_eq_some_iff.1 hcolon
    by_cases hhat : cs.head? = some '^'
    · obtain ⟨cs, rfl⟩ := List.head?_eq_some_iff.1 hhat
      exact className?_eq_none t h
    · rw [namedClass?_colon hhat] at h
      refine (namedClass?_colon ?_).trans (className?_eq_none t h)
      cases cs with
      | nil => simp
      | cons c cs => exact hhat
  · refine namedClass?_of_ne ?_
    cases cs with
    | nil => simp
    | cons c cs => exact hcolon

end

/-! ## Items -/

section
variable {f : Flags} {cs rest : List Char} (u t : List Char)

/-- The bracket or the hyphen that keeps a hyphen from making a range. -/
def stopsRange (c : Option Char) : Prop := c = some ']' ∨ c = some '-'

theorem not_stopsRange_head? {p : Char → Bool} (h : ∀ c ∈ cs.head?, p c = true)
    (hbracket : p ']' = false) (hhyphen : p '-' = false) : ¬ stopsRange cs.head? := by
  rintro (hc | hc)
  · exact Bool.noConfusion (hbracket.symm.trans (h _ hc))
  · exact Bool.noConfusion (hhyphen.symm.trans (h _ hc))

theorem peekBehind_append (h : f.skip cs ≠ [] ∨ stopsRange (peekBehind f cs)) :
    peekBehind f (cs ++ u) = peekBehind f cs := by
  unfold peekBehind at h ⊢
  unfold Flags.skip at h
  split
  · rename_i hf
    rw [if_pos hf, if_pos hf, ← dropBlanks_dropWhile] at h
    cases hcs : cs.dropWhile Unicode.isWhiteSpace with
    | nil =>
      have hhead : ∀ c ∈ cs.head?, Unicode.isWhiteSpace c = true := fun c hc =>
        List.dropWhile_eq_nil_iff.1 hcs c (List.mem_of_mem_head? hc)
      rw [hcs] at h
      exact (h.elim (absurd rfl) (not_stopsRange_head? hhead rfl rfl)).elim
    | cons c ds =>
      rw [(takeWhile_dropWhile_append (hcs ▸ List.cons_ne_nil c ds) u).2, hcs]
      rw [hcs] at h
      by_cases hc : c = '#'
      · subst hc
        by_cases hds : ds.dropWhile Unicode.isWhiteSpace = []
        · have hhead : ∀ c ∈ cs.head?, (Unicode.isWhiteSpace c || c == '#') = true := by
            intro c hc
            obtain ⟨cs, rfl⟩ := List.head?_eq_some_iff.1 hc
            rw [List.dropWhile_cons] at hcs
            split at hcs
            · simp [*]
            · cases hcs
              rfl
          rcases h with h | h
          · exact absurd (dropBlanks_of_all (List.dropWhile_eq_nil_iff.1 hds) true) h
          · simp only [hds] at h
            exact absurd h (not_stopsRange_head? hhead rfl rfl)
        · simp only [List.cons_append]
          rw [(takeWhile_dropWhile_append hds u).2]
          obtain ⟨d, es, hes⟩ := List.exists_cons_of_ne_nil hds
          rw [hes]
          rfl
      · simp only [List.cons_append, List.cons.injEq, hc, false_and, imp_false, not_false_eq_true,
          implies_true, List.head?_cons, Option.some_or]
  · rename_i hf
    rw [if_neg hf, if_neg hf] at h
    cases cs with
    | nil => simp [stopsRange] at h
    | cons c cs => rfl

theorem readItem_append {a : Atom} (h : readItem f cs = some (a, rest)) :
    readItem f (cs ++ ')' :: t) = some (a, rest ++ ')' :: t) := by
  unfold readItem at h
  split at h
  · cases h
  · exact readEscape_append t h
  · rename_i c cs hc
    cases h
    simp only [List.cons_append, readItem]

/-- The set of an item that is no end of a range. -/
def Atom.alone? (f : Flags) (cs : List Char) : Atom → Option (CharSet × List Char)
  | char c => if f.allows c then some (.single c, cs) else none
  | set s => some (s, cs)
  | look _ => none

theorem Atom.alone?_append {s : CharSet} {a : Atom} (h : a.alone? f cs = some (s, rest)) :
    a.alone? f (cs ++ u) = some (s, rest ++ u) := by
  cases a with
  | char c =>
    simp only [alone?] at h ⊢
    split at h
    · rename_i hc
      cases h
      rw [if_pos hc]
    · cases h
  | set s =>
    cases h
    rfl
  | look l => cases h

theorem readRange_append {s : CharSet} (h : readRange f cs = some (s, rest)) :
    readRange f (cs ++ ')' :: t) = some (s, rest ++ ')' :: t) := by
  unfold readRange at h ⊢
  obtain ⟨⟨first, r⟩, hfirst, h⟩ := Option.bind_eq_some_iff.1 h
  refine Option.bind_eq_some_iff.2 ⟨_, readItem_append t hfirst, ?_⟩
  dsimp only at h ⊢
  cases hr : f.skip r with
  | nil => simp [hr] at h
  | cons c ds =>
    rw [hr] at h
    rw [skip_cons hr]
    by_cases hc : c = '-'
    · subst hc
      simp only at h ⊢
      split at h
      · rename_i hpeek
        rw [peekBehind_append _ (.inr hpeek), if_pos hpeek]
        exact Atom.alone?_append _ h
      · rename_i hpeek
        obtain ⟨⟨last, r'⟩, hlast, h⟩ := Option.bind_eq_some_iff.1 h
        have hds : f.skip ds ≠ [] := fun hds => by simp [hds, readItem] at hlast
        rw [peekBehind_append _ (.inl hds), if_neg hpeek, skip_append hds]
        refine Option.bind_eq_some_iff.2 ⟨_, readItem_append t hlast, ?_⟩
        dsimp only at h ⊢
        split at h
        · split at h
          · rename_i hle
            cases h
            rw [if_pos hle]
          · cases h
        · cases h
    · simp only [List.cons.injEq, hc, false_and, imp_false, not_false_eq_true,
        implies_true] at h ⊢
      exact Atom.alone?_append _ h

end

/-! ## Whole brackets -/

/-- A step with more text behind. -/
def BracketStep.append (u : List Char) : BracketStep → BracketStep
  | more inner outer rest => more inner outer (rest ++ u)
  | closed set rest => closed set (rest ++ u)

section
variable {f : Flags} {b : Bracket} {outer : List Bracket} {cs rest : List Char} (t : List Char)

/-- Inside brackets a step is the same with more text behind, unless it comes to the end of the
text. -/
theorem Bracket.step_append {c : Char} {s : BracketStep} (h : b.step f outer c cs = some s)
    (hrest : ∀ inner outer, s ≠ .more inner outer []) :
    b.step f outer c (cs ++ ')' :: t) = some (s.append (')' :: t)) := by
  -- an operation is two equal characters
  have hdouble : ∀ d, d ≠ ')' → (c == d && (cs ++ ')' :: t).head? == some d) =
      (c == d && cs.head? == some d) := by
    intro d hd
    cases cs with
    | nil => simp [Ne.symm hd]
    | cons x xs => rfl
  have htail : ∀ d, (c == d && cs.head? == some d) = true →
      (cs ++ ')' :: t).tail = cs.tail ++ ')' :: t := by
    intro d hd
    cases cs with
    | nil => simp at hd
    | cons x xs => rfl
  unfold Bracket.step at h ⊢
  rw [hdouble '&' (by decide), hdouble '-' (by decide), hdouble '~' (by decide)]
  split at h
  · rename_i hblank
    cases h
    rw [if_pos hblank, ← List.cons_append, dropBlanks_append fun he => hrest b outer (he ▸ rfl)]
    rfl
  rename_i hblank
  rw [if_neg hblank]
  split at h
  · rename_i hopen
    rw [if_pos hopen]
    split at h
    · rename_i hname
      obtain ⟨set, hset, heq⟩ := Option.bind_eq_some_iff.1 h
      cases heq
      rw [namedClass?_append _ hname]
      exact Option.bind_eq_some_iff.2 ⟨set, hset, rfl⟩
    · rename_i hname
      obtain ⟨⟨inner, r⟩, hread, heq⟩ := Option.bind_eq_some_iff.1 h
      cases heq
      rw [namedClass?_eq_none _ hname]
      exact Option.bind_eq_some_iff.2 ⟨_, openBracket_append _ hread, rfl⟩
  rename_i hopen
  rw [if_neg hopen]
  split at h
  · rename_i hclose
    rw [if_pos hclose]
    obtain ⟨set, hset, h⟩ := Option.bind_eq_some_iff.1 h
    refine Option.bind_eq_some_iff.2 ⟨set, hset, ?_⟩
    cases outer <;>
    · cases h
      rfl
  rename_i hclose
  rw [if_neg hclose]
  split at h
  · rename_i hop
    cases h
    rw [if_pos hop, htail _ hop]
    rfl
  rename_i hinter
  rw [if_neg hinter]
  split at h
  · rename_i hop
    cases h
    rw [if_pos hop, htail _ hop]
    rfl
  rename_i hdiff
  rw [if_neg hdiff]
  split at h
  · rename_i hop
    cases h
    rw [if_pos hop, htail _ hop]
    rfl
  rename_i hsymm
  rw [if_neg hsymm]
  obtain ⟨⟨set, r⟩, hread, heq⟩ := Option.bind_eq_some_iff.1 h
  cases heq
  exact Option.bind_eq_some_iff.2 ⟨_, readRange_append _ hread, rfl⟩

/-- A bracket that nothing follows is not closed. -/
theorem readBracket_length (f : Flags) (b : Bracket) (outer : List Bracket) (cs : List Char) :
    readBracket f b outer cs.length cs = none := by
  induction cs with
  | nil => rfl
  | cons c cs ih => exact ih

theorem readBracket_append {k : Nat} {set : SizedSet}
    (h : readBracket f b outer k cs = some (set, rest)) :
    readBracket f b outer k (cs ++ ')' :: t) = some (set, rest ++ ')' :: t) := by
  fun_induction readBracket f b outer k cs with
  | case1 => cases h
  | case2 b outer k c cs ih => exact ih h
  | case3 => cases h
  | case4 b outer c cs set' rest' hstep =>
    cases h
    have happ := Bracket.step_append t hstep fun _ _ he => nomatch he
    simp only [List.cons_append, readBracket, happ, BracketStep.append]
  | case5 b outer c cs inner outer' rest' hstep ih =>
    have hrest : rest' ≠ [] := by
      rintro rfl
      simp [readBracket_length] at h
    have happ := Bracket.step_append t hstep fun _ _ he => hrest (BracketStep.more.inj he).2.2
    simp only [List.cons_append, readBracket, happ, BracketStep.append, List.length_append,
      Nat.add_sub_add_right]
    exact ih h

theorem readClass_append {set : SizedSet} (h : readClass f cs = some (set, rest)) :
    readClass f (cs ++ ')' :: t) = some (set, rest ++ ')' :: t) := by
  obtain ⟨⟨b, r⟩, hopen, hread⟩ := Option.bind_eq_some_iff.1 h
  exact Option.bind_eq_some_iff.2 ⟨_, openBracket_append t hopen, readBracket_append t hread⟩

end

end Signpost.Regex
