import Signpost.Regex.Parser
import Signpost.Template.Parser

/-!
# Names of placeholders

A name begins with a letter of ASCII or an underscore and goes on with those and digits. So the
reader of templates finds nothing wrong with it (`nameFault?_eq_none_iff`), a closing angle bracket
ends it (`enclosedName?_append`), and it can name a group of a pattern (`isGroupName_of_isName`).
-/

namespace Signpost.Template

/-- Whether some characters are the name of a placeholder. -/
def isName : List Char → Bool
  | [] => false
  | c :: cs => isNameStart c && cs.all isNamePart

/-- Just names have no fault. -/
theorem nameFault?_eq_none_iff {start : Nat} {name : List Char} :
    nameFault? start name = none ↔ isName name = true := by
  cases name with
  | nil => simp [nameFault?, isName]
  | cons c cs =>
    rw [nameFault?, isName, Bool.and_eq_true, List.all_eq_true]
    split
    · rename_i hc
      simp [hc]
    · rename_i hc
      simp [hc]

theorem isNamePart_of_isNameStart {c : Char} (h : isNameStart c = true) : isNamePart c = true := by
  simp only [isNameStart, isNamePart, Char.isAlphanum, Bool.or_eq_true] at h ⊢
  exact h.imp .inl id

theorem isNamePart_of_mem {name : List Char} (h : isName name = true) :
    ∀ c ∈ name, isNamePart c = true := by
  cases name with
  | nil => exact fun _ hc => nomatch hc
  | cons c cs =>
    rw [isName, Bool.and_eq_true, List.all_eq_true] at h
    exact List.forall_mem_cons.2 ⟨isNamePart_of_isNameStart h.1, h.2⟩

/-- The characters of a name are neither brackets nor backslashes. -/
theorem ne_of_isNamePart {c d : Char} (hc : isNamePart c = true)
    (hd : isNamePart d = false) : c ≠ d :=
  fun h => Bool.noConfusion ((h ▸ hc).symm.trans hd)

/-- A closing angle bracket ends the name in front of it. -/
theorem enclosedName?_append {name : List Char} (h : ∀ c ∈ name, isNamePart c = true)
    (rest : List Char) : enclosedName? (name ++ '>' :: rest) = some name := by
  induction name with
  | nil => simp [enclosedName?]
  | cons c cs ih =>
    obtain ⟨hc, hcs⟩ := List.forall_mem_cons.1 h
    rw [List.cons_append, enclosedName?, if_neg (ne_of_isNamePart hc rfl), if_neg ?_, ih hcs]
    · rfl
    · rintro (h | h | h) <;> exact ne_of_isNamePart hc rfl h

/-! ## Names of groups -/

theorem toNat_lt_of_isAlphanum {c : Char} (h : c.isAlphanum = true) : c.toNat < 128 := by
  have hranges : (decide ('A'.val ≤ c.val ∧ c.val ≤ 'Z'.val) ||
      (decide ('a'.val ≤ c.val) && decide (c.val ≤ 'z'.val)) ||
      (decide ('0'.val ≤ c.val) && decide (c.val ≤ '9'.val))) = true := h
  simp only [Bool.or_eq_true, Bool.and_eq_true, decide_eq_true_eq, UInt32.le_iff_toNat_le]
    at hranges
  have hZ : 'Z'.val.toNat = 90 := rfl
  have hz : 'z'.val.toNat = 122 := rfl
  have h9 : '9'.val.toNat = 57 := rfl
  show c.val.toNat < 128
  omega

/-- What holds of the characters of ASCII, one by one, holds of each of them. -/
theorem forall_ascii {P : Char → Prop} (h : ∀ n < 128, P (.ofNat n)) {c : Char}
    (hc : c.toNat < 128) : P c := by
  have := h c.toNat hc
  rwa [Char.ofNat_toNat] at this

theorem isAlphabetic_of_isAlpha {c : Char} (h : c.isAlpha = true) :
    Unicode.isAlphabetic c = true := by
  have hlt := toNat_lt_of_isAlphanum (c := c) (Bool.or_eq_true _ _ ▸ .inl h)
  exact forall_ascii (P := fun c => c.isAlpha → Unicode.isAlphabetic c) (by decide +kernel) hlt h

theorem isAlphanumeric_of_isAlphanum {c : Char} (h : c.isAlphanum = true) :
    Unicode.isAlphanumeric c = true :=
  forall_ascii (P := fun c => c.isAlphanum → Unicode.isAlphanumeric c) (by decide +kernel)
    (toNat_lt_of_isAlphanum h) h

/-- The name of a placeholder can name a group of a pattern. -/
theorem isGroupName_of_isName {name : List Char} (h : isName name = true) :
    Regex.isGroupName name = true := by
  cases name with
  | nil => cases h
  | cons c cs =>
    simp only [isName, Bool.and_eq_true, List.all_eq_true] at h
    simp only [Regex.isGroupName, Bool.and_eq_true, List.all_eq_true]
    refine ⟨?_, fun d hd => ?_⟩
    · have hc := h.1
      simp only [isNameStart, Bool.or_eq_true] at hc
      simp only [Regex.isNameStart, Bool.or_eq_true]
      exact hc.symm.imp id isAlphabetic_of_isAlpha
    · have hpart := h.2 d hd
      simp only [isNamePart, Bool.or_eq_true] at hpart
      simp only [Regex.isNamePart, Bool.or_eq_true]
      rcases hpart with hd | hd
      · exact .inr (isAlphanumeric_of_isAlphanum hd)
      · exact .inl (.inl (.inl (.inl hd)))

end Signpost.Template
