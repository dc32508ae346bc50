import Mathlib.Data.List.Basic
import Mathlib.Data.List.TakeWhile
import Signpost.Json.Decode
import Signpost.Proofs.Json.Text

/-!
# Data in written values

What is written for a number, a list of texts, a dictionary or a record is a proper value, and is
read as the same data. The reader of a list or of a record is given the readers of what is in it, so
its laws are those of the parts: `asList?_map` and `asRecord?_zip`.
-/

namespace Signpost

/-! ## Dictionaries -/

/-- A dictionary is made again from its entries. -/
theorem Dict.ofList_entries {α : Type u} (d : Dict α) : Dict.ofList d.entries = d := by
  refine Dict.ext_get? fun k => ?_
  rw [Dict.ofList, Dict.get?_insertAll _ _ d.ascending]
  exact Option.or_none

namespace Json

/-- Elements that are all read are read in order. -/
theorem mapM_eq_some_map {α β : Type} {f : α → Option β} {g : α → β} {xs : List α}
    (h : ∀ x ∈ xs, f x = some (g x)) : xs.mapM f = some (xs.map g) := by
  induction xs with
  | nil => rfl
  | cons x xs ih =>
    obtain ⟨hx, hxs⟩ := List.forall_mem_cons.1 h
    simp [hx, ih hxs]

/-! ## Numbers -/

theorem head?_toDigits {n : Nat} (h : n ≠ 0) : (Nat.toDigits 10 n).head? ≠ some '0' := by
  induction n using Nat.strongRecOn with
  | ind n ih =>
    rw [Nat.toDigits_eq_if (by decide)]
    split
    · simpa using h
    · rw [List.head?_append_of_ne_nil _ Nat.toDigits_ne_nil]
      exact ih (n / 10) (by omega) (by omega)

theorem isNumber_toDigits (n : Nat) : isNumber (Nat.toDigits 10 n) = true := by
  have hdigits : ∀ c ∈ Nat.toDigits 10 n, c.isDigit = true := fun c hc =>
    Nat.isDigit_of_mem_toDigits (by decide) (by decide) hc
  by_cases hn : n = 0
  · subst hn
    rfl
  have hhead := head?_toDigits hn
  cases hcs : Nat.toDigits 10 n with
  | nil => exact absurd hcs Nat.toDigits_ne_nil
  | cons c cs =>
    rw [hcs] at hdigits hhead
    obtain ⟨hc, hcs⟩ := List.forall_mem_cons.1 hdigits
    have hzero : c ≠ '0' := by simpa using hhead
    have hsign : ¬ (c :: cs).head? = some '-' := by
      rintro ⟨⟩
      cases hc
    have hrest : cs.dropWhile Char.isDigit = [] := List.dropWhile_eq_nil_iff.2 hcs
    rw [isNumber, if_neg hsign]
    dsimp only
    rw [if_neg hzero, hc, hrest]
    rfl

theorem Proper.ofNat (n : Nat) : Proper (ofNat n) :=
  .number (by simpa using isNumber_toDigits n)

/-- A number is read from its digits. -/
theorem asNat?_ofNat (n : Nat) : asNat? (ofNat n) = some n := by
  have hdigits : (toString n).toList.all Char.isDigit = true := by
    refine List.all_eq_true.2 fun c hc => ?_
    rw [Nat.toString_eq_repr, Nat.toList_repr] at hc
    exact Nat.isDigit_of_mem_toDigits (by decide) (by decide) hc
  rw [Json.ofNat, asNat?, if_pos hdigits, Nat.toString_eq_repr, Nat.toList_repr,
    ← Nat.ofDigitChars_eq_foldl, Nat.ofDigitChars_ten_toDigits]

/-! ## Lists and dictionaries -/

/-- A list is read if each of its items is. -/
theorem asList?_map {α : Type} {item? : Json → Option α} {toJson : α → Json} {xs : List α}
    (h : ∀ x ∈ xs, item? (toJson x) = some x) :
    asList? item? (array (xs.map toJson)) = some xs := by
  have hread := mapM_eq_some_map (g := id) h
  rw [List.map_id] at hread
  rw [asList?, List.mapM_map]
  exact hread

theorem Proper.ofStrings (ss : List String) : Proper (ofStrings ss) := by
  refine .array fun j hj => ?_
  obtain ⟨s, -, rfl⟩ := List.mem_map.1 hj
  exact .string s

theorem asStrings?_ofStrings (ss : List String) : asStrings? (ofStrings ss) = some ss :=
  asList?_map fun _ _ => rfl

theorem Proper.ofDict (d : Dict String) : Proper (ofDict d) := by
  refine .object fun f hf => ?_
  obtain ⟨e, -, rfl⟩ := List.mem_map.1 hf
  exact .string e.2

theorem asDict?_ofDict (d : Dict String) : asDict? (ofDict d) = some d := by
  have hread : (d.entries.map fun e => (e.1, string e.2)).mapM
      (fun f => (asString? f.2).map (f.1, ·)) = some d.entries := by
    rw [List.mapM_map]
    exact (mapM_eq_some_map (g := id) fun _ _ => rfl).trans (by rw [List.map_id])
  have hdict : ofDict d = object (d.entries.map fun e => (e.1, string e.2)) := rfl
  rw [hdict, asDict?, hread, Option.map_some, Dict.ofList_entries]

/-! ## Records -/

theorem Proper.record {names : List String} {values : List Json} (h : ∀ v ∈ values, Proper v) :
    Proper (Json.object (names.zip values)) :=
  .object fun _ hf => h _ (List.of_mem_zip hf).2

/-- With different keys, one field has the key of a field. -/
theorem filter_key_eq {fields : List (String × Json)} (hnd : (fields.map (·.1)).Nodup)
    {f : String × Json} (hf : f ∈ fields) : fields.filter (·.1 == f.1) = [f] := by
  induction fields with
  | nil => cases hf
  | cons g fields ih =>
    obtain ⟨hg, hnd⟩ := List.nodup_cons.1 hnd
    rcases List.mem_cons.1 hf with rfl | hf
    · have hnone : fields.filter (·.1 == f.1) = [] := by
        refine List.filter_eq_nil_iff.2 fun e he heq => hg ?_
        exact List.mem_map.2 ⟨e, he, by simpa using heq⟩
      rw [List.filter_cons_of_pos (by simp), hnone]
    · have hne : ¬ (g.1 == f.1) = true := by
        intro heq
        exact hg (List.mem_map.2 ⟨f, hf, (eq_of_beq heq).symm⟩)
      rw [List.filter_cons, if_neg hne, ih hnd hf]

/-- The values of a record are read from the object that is written for it. -/
theorem asRecord?_zip {names : List String} (hnd : names.Nodup) {values : List Json}
    (hlen : names.length = values.length) (least : Nat) :
    asRecord? names least (object (names.zip values)) = some (values.map some) := by
  have hnames : (names.zip values).map (·.1) = names := List.map_fst_zip (Nat.le_of_eq hlen)
  have hvalues : (names.zip values).map (·.2) = values :=
    List.map_snd_zip (Nat.le_of_eq hlen.symm)
  have hkeys : ((names.zip values).map (·.1)).Nodup := hnames.symm ▸ hnd
  rw [asRecord?]
  conv => lhs; arg 2; rw [← hnames]
  rw [List.mapM_map, mapM_eq_some_map (g := fun f => some f.2)]
  · conv => rhs; rw [← hvalues, List.map_map]
    rfl
  · intro f hf
    rw [Function.comp_apply, filter_key_eq hkeys hf]

end Json

end Signpost
