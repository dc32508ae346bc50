import Signpost.Json.Reader
import Signpost.Proofs.Json.Words

/-!
# Reading written values

A value is read back from its text. Its words take the reader from the place where a value is due to
the place behind that value, whatever is open around it (`Proper.foldlM_words`), so the words make
the value, and so does the text (`Proper.ofBytes?_toText`).
-/

namespace Signpost.Json

/-- Fields whose keys are texts make an object. -/
theorem ofFields_map_some (fields : List (String × Json)) :
    ofFields (fields.map fun f => (some f.1, f.2)) = object fields := by
  have hkeys : (fields.map fun f => (some f.1, f.2)).mapM
      (fun f => f.1.map (·, f.2)) = some fields := by
    induction fields with
    | nil => rfl
    | cons field fields ih => simp [ih]
  unfold ofFields
  split
  · rename_i read hread
    cases hkeys.symm.trans hread
    rfl
  · rename_i hread
    cases hkeys.symm.trans hread

/-! ## Where a value begins -/

/-- The words of a value begin with one that does not end an array. -/
theorem words_eq_cons (j : Json) : ∃ t ts, j.words = t :: ts ∧ t ≠ .endArray := by
  cases j <;> exact ⟨_, _, rfl, by simp⟩

namespace Reading

/-- A value can stand first in an array just as behind a comma. -/
theorem step?_firstItem {t : Token} (h : t ≠ .endArray) (stack : List Frame) :
    step? (firstItem stack) t = step? (value (.array [] :: stack)) t := by
  cases t with
  | endArray => exact absurd rfl h
  | _ => rfl

end Reading

open Reading

theorem foldlM_firstItem (j : Json) (rest : List Token) (stack : List Frame) :
    (j.words ++ rest).foldlM step? (firstItem stack) =
      (j.words ++ rest).foldlM step? (value (.array [] :: stack)) := by
  obtain ⟨t, ts, hwords, ht⟩ := j.words_eq_cons
  rw [hwords, List.cons_append, List.foldlM_cons, List.foldlM_cons, step?_firstItem ht]

/-! ## Values, items and fields -/

/-- Whether the words of a value are read as the value, whatever is open around it. -/
def ReadsAsValue (j : Json) : Prop :=
  ∀ stack rest, (j.words ++ rest).foldlM step? (value stack) =
    rest.foldlM step? (deliver j stack)

theorem foldlM_wordsOfItems {items : List Json} (hne : items ≠ [])
    (h : ∀ j ∈ items, ReadsAsValue j) (done : List Json) (stack : List Frame)
    (rest : List Token) :
    (wordsOfItems items ++ rest).foldlM step? (value (.array done :: stack)) =
      rest.foldlM step? (deliver (array (done.reverse ++ items)) stack) := by
  induction items generalizing done with
  | nil => exact absurd rfl hne
  | cons item items ih =>
    obtain ⟨hitem, hitems⟩ := List.forall_mem_cons.1 h
    have hreverse : done.reverse ++ item :: items = (item :: done).reverse ++ items := by simp
    cases items with
    | nil =>
      rw [wordsOfItems, List.append_assoc, hitem, hreverse, List.append_nil]
      rfl
    | cons next items =>
      rw [wordsOfItems, List.append_assoc, hitem, hreverse, ← ih (by simp) hitems]
      · rfl
      · simp

/-- A key is due behind a comma, and behind the opening brace too. -/
theorem foldlM_wordsOfFields {fields : List (String × Json)} (hne : fields ≠ [])
    (h : ∀ f ∈ fields, ReadsAsValue f.2) (done : List (Option String × Json))
    (stack : List Frame) (rest : List Token) :
    (wordsOfFields fields ++ rest).foldlM step? (key done stack) =
      rest.foldlM step?
        (deliver (ofFields (done.reverse ++ fields.map fun f => (some f.1, f.2))) stack) := by
  induction fields generalizing done with
  | nil => exact absurd rfl hne
  | cons field fields ih =>
    obtain ⟨name, v⟩ := field
    obtain ⟨hvalue, hfields⟩ := List.forall_mem_cons.1 h
    have hreverse : done.reverse ++ ((name, v) :: fields).map (fun f => (some f.1, f.2)) =
        ((some name, v) :: done).reverse ++ fields.map fun f => (some f.1, f.2) := by simp
    have hname : ∀ ts, (Token.string (some name) :: .colon :: ts).foldlM step? (key done stack) =
        ts.foldlM step? (value (.field done (some name) :: stack)) := fun _ => rfl
    cases fields with
    | nil =>
      simp only [wordsOfFields, List.cons_append, List.append_assoc]
      rw [hname, hvalue, hreverse, List.map_nil, List.append_nil]
      rfl
    | cons next fields =>
      rw [wordsOfFields]
      · simp only [List.cons_append, List.append_assoc]
        rw [hname, hvalue, hreverse, ← ih (by simp) hfields]
        rfl
      · simp

/-- The words of a value take the reader behind it. -/
theorem Proper.foldlM_words {j : Json} (h : Proper j) : ReadsAsValue j := by
  induction h with
  | null => exact fun _ _ => rfl
  | bool => exact fun _ _ => rfl
  | number => exact fun _ _ => rfl
  | string => exact fun _ _ => rfl
  | broken => exact fun _ _ => rfl
  | @array items _ ih =>
    intro stack rest
    rw [words, List.cons_append]
    show (wordsOfItems items ++ rest).foldlM step? (firstItem stack) = _
    cases items with
    | nil => rfl
    | cons item items =>
      have hfirst : (wordsOfItems (item :: items) ++ rest).foldlM step? (firstItem stack) =
          (wordsOfItems (item :: items) ++ rest).foldlM step? (value (.array [] :: stack)) := by
        cases items with
        | nil =>
          rw [wordsOfItems, List.append_assoc]
          exact foldlM_firstItem ..
        | cons next items =>
          rw [wordsOfItems, List.append_assoc]
          · exact foldlM_firstItem ..
          · simp
      rw [hfirst, foldlM_wordsOfItems (by simp) ih, List.reverse_nil, List.nil_append]
  | @object fields _ ih =>
    intro stack rest
    rw [words, List.cons_append]
    show (wordsOfFields fields ++ rest).foldlM step? (firstKey stack) = _
    cases fields with
    | nil => rfl
    | cons field fields =>
      have hfirst : (wordsOfFields (field :: fields) ++ rest).foldlM step? (firstKey stack) =
          (wordsOfFields (field :: fields) ++ rest).foldlM step? (key [] stack) := by
        cases fields <;> rfl
      rw [hfirst, foldlM_wordsOfFields (by simp) ih, List.reverse_nil, List.nil_append,
        ofFields_map_some]

/-! ## Texts -/

theorem Proper.ofTokens?_words {j : Json} (h : Proper j) : ofTokens? j.words = some j := by
  have hread := h.foldlM_words [] []
  rw [List.append_nil] at hread
  rw [ofTokens?, hread]
  rfl

/-- The text of a value reads as the value. -/
theorem Proper.ofText?_toText {j : Json} (h : Proper j) : ofText? j.toText = some j := by
  rw [ofText?, ofCharacters?, toText, String.toList_ofList, h.tokens?_render, Option.bind_some,
    h.ofTokens?_words]

/-- The bytes of the text of a value read as the value. -/
theorem Proper.ofBytes?_toText {j : Json} (h : Proper j) : ofBytes? j.toText.toUTF8 = some j := by
  rw [ofBytes?, Unicode.Utf8.characters_toUTF8]
  exact h.ofText?_toText

end Signpost.Json
