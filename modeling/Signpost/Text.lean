/-!
# Operations on text

Cutting characters off the ends of a text, splitting it at a separator, finding a text in it, and
replacing one. Text is worked on as a list of characters.

Main facts: `trim_eq_self`, a text without the character at either end is left alone,
`splitOnce?_eq_some`, a split loses nothing, `occurs_iff`, and `replace_append` and `replace_cons`,
which say what is replaced from left to right.
-/

namespace Signpost.Text

/-- Leaves out every `c` at the end. -/
def trimEnd (c : Char) : List Char → List Char
  | [] => []
  | d :: ds =>
    match trimEnd c ds with
    | [] => if d = c then [] else [d]
    | ds => d :: ds

/-- Leaves out every `c` at either end. -/
def trim (c : Char) (cs : List Char) : List Char := trimEnd c (cs.dropWhile (· == c))

/-- What stands before and behind the first place where `sep` does. -/
def splitOnce? (sep : List Char) : List Char → Option (List Char × List Char)
  | [] => none
  | c :: cs =>
    if sep.isPrefixOf (c :: cs) then some ([], (c :: cs).drop sep.length)
    else (splitOnce? sep cs).map fun (a, b) => (c :: a, b)

/-- Puts `new` in the place of `old` wherever that stands, but for the next `skip` characters, which
belong to a place that was found already. -/
def replaceFrom (old new : List Char) : (skip : Nat) → List Char → List Char
  | _, [] => []
  | k + 1, _ :: cs => replaceFrom old new k cs
  | 0, c :: cs =>
    if old.isPrefixOf (c :: cs) then new ++ replaceFrom old new (old.length - 1) cs
    else c :: replaceFrom old new 0 cs

/-- Puts `new` in the place of `old`, which is not empty, wherever that stands. Places are found from
left to right and do not overlap. -/
def replace (old new cs : List Char) : List Char := replaceFrom old new 0 cs

/-- Whether `part` stands somewhere in a list. -/
def occurs {α : Type u} [BEq α] (part : List α) : List α → Bool
  | [] => part.isEmpty
  | x :: xs => part.isPrefixOf (x :: xs) || occurs part xs

theorem occurs_iff {α : Type u} [BEq α] [LawfulBEq α] {part xs : List α} :
    occurs part xs = true ↔ part <:+: xs := by
  induction xs with
  | nil => rw [occurs, List.isEmpty_iff, List.infix_nil]
  | cons x xs ih => rw [occurs, Bool.or_eq_true, List.isPrefixOf_iff_prefix, ih, List.infix_cons_iff]

theorem trimEnd_cons (c d : Char) (ds : List Char) :
    trimEnd c (d :: ds) =
      if trimEnd c ds = [] ∧ d = c then [] else d :: trimEnd c ds := by
  rw [trimEnd]
  split
  · rename_i h
    by_cases hd : d = c <;> simp [h, hd]
  · rename_i h
    exact (if_neg fun h' => h h'.1).symm

/-- A text that does not end in `c` is left alone. -/
theorem trimEnd_eq_self {c : Char} {cs : List Char} (h : cs.getLast? ≠ some c) :
    trimEnd c cs = cs := by
  induction cs with
  | nil => rfl
  | cons d ds ih =>
    rw [trimEnd_cons]
    cases ds with
    | nil =>
      have : d ≠ c := fun hd => h (by simp [hd])
      simp [trimEnd, this]
    | cons e es =>
      rw [ih (by simpa [List.getLast?_cons_cons] using h)]
      simp

/-- A text that neither begins nor ends with `c` is left alone. -/
theorem trim_eq_self {c : Char} {cs : List Char} (hb : cs.head? ≠ some c)
    (he : cs.getLast? ≠ some c) : trim c cs = cs := by
  cases cs with
  | nil => rfl
  | cons d ds =>
    have : d ≠ c := fun hd => hb (by simp [hd])
    rw [trim, List.dropWhile_cons_of_neg (by simpa using this), trimEnd_eq_self he]

theorem getLast?_trimEnd_ne (c : Char) (cs : List Char) : (trimEnd c cs).getLast? ≠ some c := by
  induction cs with
  | nil => simp [trimEnd]
  | cons d ds ih =>
    rw [trimEnd_cons]
    cases htrim : trimEnd c ds with
    | nil =>
      split
      · simp
      · rename_i hd
        simpa using hd
    | cons e es => simpa [List.getLast?_cons_cons, htrim] using ih

theorem head?_trimEnd_ne {c : Char} {cs : List Char} (h : cs.head? ≠ some c) :
    (trimEnd c cs).head? ≠ some c := by
  cases cs with
  | nil => exact h
  | cons d ds =>
    rw [trimEnd_cons]
    split
    · simp
    · exact h

theorem head?_dropWhile_ne (c : Char) (cs : List Char) :
    (cs.dropWhile (· == c)).head? ≠ some c := by
  induction cs with
  | nil => simp
  | cons d ds ih =>
    rw [List.dropWhile_cons]
    split
    · exact ih
    · rename_i hd
      simpa using hd

/-- Nothing is left to trim. -/
theorem head?_trim_ne (c : Char) (cs : List Char) : (trim c cs).head? ≠ some c :=
  head?_trimEnd_ne (head?_dropWhile_ne c cs)

theorem getLast?_trim_ne (c : Char) (cs : List Char) : (trim c cs).getLast? ≠ some c :=
  getLast?_trimEnd_ne c _

/-- A split loses nothing but the separator. -/
theorem splitOnce?_eq_some {sep cs a b : List Char} (h : splitOnce? sep cs = some (a, b)) :
    cs = a ++ sep ++ b := by
  induction cs generalizing a with
  | nil => cases h
  | cons c cs ih =>
    rw [splitOnce?] at h
    split at h
    · rename_i hp
      cases h
      obtain ⟨t, ht⟩ := List.isPrefixOf_iff_prefix.1 hp
      simp [← ht]
    · obtain ⟨⟨a', b'⟩, h', he⟩ := Option.map_eq_some_iff.1 h
      cases he
      simp [ih h']

theorem replaceFrom_eq (old new : List Char) (k : Nat) (cs : List Char) :
    replaceFrom old new k cs = replace old new (cs.drop k) := by
  induction cs generalizing k with
  | nil => cases k <;> rfl
  | cons c cs ih =>
    cases k with
    | zero => rfl
    | succ k => exact ih k

/-- What begins with `old` goes on with `new`. -/
theorem replace_append {old : List Char} (h : old ≠ []) (new cs : List Char) :
    replace old new (old ++ cs) = new ++ replace old new cs := by
  cases old with
  | nil => exact absurd rfl h
  | cons d ds =>
    have hfound : (d :: ds).isPrefixOf (d :: (ds ++ cs)) = true :=
      List.isPrefixOf_iff_prefix.2 (List.prefix_append ..)
    rw [replace, List.cons_append, replaceFrom, if_pos hfound, replaceFrom_eq]
    simp

theorem replace_cons {old : List Char} {c : Char} {cs : List Char} (h : ¬ old <+: c :: cs)
    (new : List Char) : replace old new (c :: cs) = c :: replace old new cs := by
  rw [replace, replaceFrom, if_neg fun hp => h (List.isPrefixOf_iff_prefix.1 hp)]
  rfl

end Signpost.Text
