import Signpost.Proofs.Regex.Bracket
import Signpost.Regex.Parser

/-!
# What readers of groups and repetitions look at

The bounds of a repetition and the head of a group are read in the same way whatever stands behind
them. The head of a group must not consist of nothing but blanks, since what follows those is a part
of it.
-/

namespace Signpost.Regex

/-! ## Bounds -/

section
variable {f : Flags} {cs rest : List Char} (u t : List Char)

theorem readDigits_length (f : Flags) (value : Option Nat) (cs : List Char) :
    readDigits f value cs.length cs = (value, []) := by
  induction cs with
  | nil => rfl
  | cons c cs ih => exact ih

theorem readDigits_append {value n : Option Nat} {k : Nat}
    (h : readDigits f value k cs = (n, rest)) (hrest : rest ≠ []) :
    readDigits f value k (cs ++ u) = (n, rest ++ u) := by
  fun_induction readDigits f value k cs with
  | case1 =>
    cases h
    exact absurd rfl hrest
  | case2 value k c cs ih => exact ih h
  | case3 value c cs hc ih =>
    have hs : f.skip cs ≠ [] := by
      intro hs
      rw [hs, List.length_nil, Nat.sub_zero, readDigits_length] at h
      exact hrest (Prod.mk.inj h).2.symm
    rw [List.cons_append, readDigits, if_pos hc, length_skip_append hs]
    exact ih h
  | case4 value c cs hc =>
    cases h
    rw [List.cons_append, readDigits, if_neg hc]

theorem skipSpaces_length (f : Flags) (cs : List Char) : skipSpaces.go f cs.length cs = [] := by
  induction cs with
  | nil => rfl
  | cons c cs ih => exact ih

theorem skipSpaces_append (h : skipSpaces f cs ≠ []) :
    skipSpaces f (cs ++ u) = skipSpaces f cs ++ u := by
  rw [skipSpaces, skipSpaces] at *
  generalize 0 = k at h ⊢
  fun_induction skipSpaces.go f k cs with
  | case1 => exact absurd rfl h
  | case2 k c cs ih => exact ih h
  | case3 c cs hc ih =>
    have hs : f.skip cs ≠ [] := by
      intro hs
      rw [hs, List.length_nil, Nat.sub_zero, skipSpaces_length] at h
      exact h rfl
    rw [List.cons_append, skipSpaces.go, if_pos hc, length_skip_append hs]
    exact ih h
  | case4 c cs hc => rw [List.cons_append, skipSpaces.go, if_neg hc]

theorem readNumber_append {n : Option (Option Nat)} (h : readNumber f cs = (n, rest))
    (hrest : rest ≠ []) : readNumber f (cs ++ u) = (n, rest ++ u) := by
  cases hdigits : readDigits f none 0 (cs.dropWhile Unicode.isWhiteSpace) with
  | mk value r =>
    rw [readNumber, hdigits] at h
    cases h
    have hr : r ≠ [] := by
      rintro rfl
      exact hrest rfl
    have hdrop : cs.dropWhile Unicode.isWhiteSpace ≠ [] := by
      intro hdrop
      rw [hdrop] at hdigits
      exact hr (Prod.mk.inj hdigits).2.symm
    rw [readNumber, (takeWhile_dropWhile_append hdrop u).2, readDigits_append u hdigits hr]
    exact congrArg _ (skipSpaces_append u hrest)

/-- Reads the upper bound, which is not below the lower one, up to the closing brace. -/
def readUpper (f : Flags) (least : Nat) (cs : List Char) : Option (Bounds × List Char) := do
  let (most, cs) := readNumber f cs
  let most ← (← most)
  match cs with
  | '\x7d' :: rest => if least ≤ most then some (⟨least, some most⟩, rest) else none
  | _ => none

/-- Reads what follows the comma behind the lower bound. -/
def readBehindComma (f : Flags) (least : Nat) (cs : List Char) : Option (Bounds × List Char) :=
  match f.skip cs with
  | '\x7d' :: rest => some (⟨least, none⟩, rest)
  | cs => readUpper f least cs

variable {b : Bounds} {least : Nat}

theorem readUpper_append (h : readUpper f least cs = some (b, rest)) :
    readUpper f least (cs ++ u) = some (b, rest ++ u) := by
  cases hnumber : readNumber f cs with
  | mk n r =>
    simp only [readUpper, hnumber, Option.bind_eq_bind, Option.bind_eq_some_iff] at h
    obtain ⟨n', hn', most, hmost, h⟩ := h
    split at h
    · split at h
      · rename_i hle
        cases h
        simp only [readUpper, readNumber_append u hnumber (List.cons_ne_nil _ _),
          Option.bind_eq_bind, Option.bind_eq_some_iff]
        exact ⟨n', hn', most, hmost, if_pos hle⟩
      · cases h
    · cases h

theorem readBehindComma_append (h : readBehindComma f least cs = some (b, rest)) :
    readBehindComma f least (cs ++ u) = some (b, rest ++ u) := by
  cases hcs : f.skip cs with
  | nil => simp [readBehindComma, hcs, readUpper, readNumber, readDigits] at h
  | cons c ds =>
    by_cases hc : c = '\x7d'
    · subst hc
      simp only [readBehindComma, hcs, skip_cons hcs] at h ⊢
      cases h
      rfl
    · simp only [readBehindComma, hcs, skip_cons hcs, List.cons.injEq, hc, false_and, imp_false,
        not_false_eq_true, implies_true] at h ⊢
      exact readUpper_append u h

theorem readBounds_append (h : readBounds f cs = some (b, rest)) :
    readBounds f (cs ++ u) = some (b, rest ++ u) := by
  have hs : f.skip cs ≠ [] := fun hs => by simp [readBounds, hs, readNumber, readDigits] at h
  cases hnumber : readNumber f (f.skip cs) with
  | mk n r =>
    simp only [readBounds, hnumber, Option.bind_eq_bind, Option.bind_eq_some_iff] at h
    obtain ⟨n', hn', least, hleast, h⟩ := h
    have hr : r ≠ [] := by
      rintro rfl
      cases h
    simp only [readBounds, skip_append hs, readNumber_append u hnumber hr, Option.bind_eq_bind,
      Option.bind_eq_some_iff]
    refine ⟨n', hn', least, hleast, ?_⟩
    split at h
    · cases h
      rfl
    · exact readBehindComma_append u h
    · cases h

theorem readGreed_append {greedy : Bool} (h : readGreed f cs = (greedy, rest)) :
    readGreed f (cs ++ ')' :: t) = (greedy, rest ++ ')' :: t) := by
  cases cs with
  | nil =>
    cases h
    rfl
  | cons c cs =>
    by_cases hc : c = '?'
    · subst hc
      cases h
      rfl
    · simp only [List.cons_append, readGreed, List.cons.injEq, hc, false_and, imp_false,
        not_false_eq_true, implies_true] at h ⊢
      cases h
      rfl

end

/-! ## Groups -/

section
variable {f : Flags} {cs rest : List Char} {head : GroupHead} (u : List Char)

theorem readGroupName_append (h : readGroupName cs = some (head, rest)) :
    readGroupName (cs ++ u) = some (head, rest ++ u) := by
  unfold readGroupName at h ⊢
  dsimp only at h ⊢
  split at h
  · rename_i r hr
    obtain ⟨htake, hdrop⟩ := takeWhile_dropWhile_append (hr ▸ List.cons_ne_nil _ _) u
    split at h
    · rename_i hname
      cases h
      simp only [htake, hdrop, hr, List.cons_append, if_pos hname]
    · cases h
  · cases h

/-- Reads flags up to the colon or the parenthesis behind them. -/
def readFlags (f : Flags) (cs : List Char) : Option (GroupHead × List Char) :=
  let letters := cs.takeWhile fun c => c != ':' && c != ')'
  if isFlagChange letters then
    match cs.dropWhile fun c => c != ':' && c != ')' with
    | ':' :: rest => some (.plain (f.change letters), rest)
    | ')' :: rest => if letters.isEmpty then none else some (.flags (f.change letters), rest)
    | _ => none
  else none

theorem readFlags_append (h : readFlags f cs = some (head, rest)) :
    readFlags f (cs ++ u) = some (head, rest ++ u) := by
  unfold readFlags at h ⊢
  dsimp only at h ⊢
  split at h
  · rename_i hchange
    have hdrop : cs.dropWhile (fun c => c != ':' && c != ')') ≠ [] := fun hr => by simp [hr] at h
    obtain ⟨htake, happ⟩ := takeWhile_dropWhile_append hdrop u
    rw [htake, happ, if_pos hchange]
    split at h
    · rename_i hr
      cases h
      rw [hr]
      rfl
    · rename_i hr
      rw [hr]
      split at h
      · cases h
      · rename_i hletters
        cases h
        simp only [List.cons_append, if_neg hletters]
    · cases h
  · cases h

/-- No flags begin like the name of a group. -/
theorem readFlags_name (f : Flags) (cs : List Char) : readFlags f ('P' :: cs) = none := by
  simp [readFlags, isFlagChange, isFlagLetter]

theorem readGroupHead_append (h : readGroupHead f cs = some (head, rest)) (hs : f.skip cs ≠ []) :
    readGroupHead f (cs ++ u) = some (head, rest ++ u) := by
  unfold readGroupHead at h ⊢
  rw [skip_append hs]
  generalize f.skip cs = ds at h hs
  split at h
  · cases h
  · cases h
  · cases h
  · cases h
  · exact readGroupName_append u h
  · rename_i r hequal hmark
    cases r with
    | nil => cases h
    | cons c r =>
      have hce : c ≠ '=' := fun hc => hequal r (hc ▸ rfl)
      have hcm : c ≠ '!' := fun hc => hmark r (hc ▸ rfl)
      simp only [List.cons_append, List.cons.injEq, hce, hcm, false_and, imp_false,
        not_false_eq_true, implies_true]
      exact readGroupName_append u h
  · rename_i r hequal hmark _ _ _ hangle
    have hflags : readFlags f r = some (head, rest) := h
    cases r with
    | nil => cases hflags
    | cons c r =>
      have hce : c ≠ '=' := fun hc => hequal r (hc ▸ rfl)
      have hcm : c ≠ '!' := fun hc => hmark r (hc ▸ rfl)
      have hca : c ≠ '<' := fun hc => hangle r (hc ▸ rfl)
      have hcp : c ≠ 'P' := by
        rintro rfl
        cases (readFlags_name f r).symm.trans hflags
      simp only [List.cons_append, List.cons.injEq, hce, hcm, hca, hcp, false_and, imp_false,
        not_false_eq_true, implies_true]
      exact readFlags_append u hflags
  · rename_i hmark
    cases h
    cases rest with
    | nil => exact absurd rfl hs
    | cons c ds =>
      have hc : c ≠ '?' := fun hc => hmark ds (hc ▸ rfl)
      simp [hc]

end

end Signpost.Regex
