/-!
# Dictionaries

A dictionary from text to values, kept as a list of entries in ascending order of key. The order
is that of code points, so two dictionaries with the same entries are equal, and listing one is
deterministic.

Main facts:

* `get?_insert`, `get?_erase`, `get?_overlay`: what each operation does to a look-up;
* `get?_eq_some_iff`: a look-up finds exactly the entries;
* `ext_get?`: dictionaries that answer every look-up alike are equal.
-/

namespace Signpost

/-- A finite map from text to `α`. -/
structure Dict (α : Type u) where
  /-- The entries, in ascending order of key. -/
  entries : List (String × α)
  ascending : entries.Pairwise (fun a b => a.1 < b.1)
deriving DecidableEq

namespace Dict

variable {α : Type u}

/-! ## Entry lists -/

/-- The value of the first entry under a key. -/
def find (key : String) : List (String × α) → Option α
  | [] => none
  | e :: es => if key = e.1 then some e.2 else find key es

/-- Puts an entry in its place, over an entry of the same key. -/
def insertEntry (key : String) (value : α) : List (String × α) → List (String × α)
  | [] => [(key, value)]
  | e :: es =>
    if key < e.1 then (key, value) :: e :: es
    else if key = e.1 then (key, value) :: es
    else e :: insertEntry key value es

theorem lt_of_not_lt_of_ne {a b : String} (h : ¬ a < b) (hne : a ≠ b) : b < a :=
  Decidable.byContradiction fun h' =>
    hne (String.le_antisymm (String.not_lt.1 h') (String.not_lt.1 h))

theorem mem_insertEntry {key : String} {value : α} {es : List (String × α)} {x : String × α}
    (h : x ∈ insertEntry key value es) : x = (key, value) ∨ x ∈ es := by
  induction es with
  | nil => simpa [insertEntry] using h
  | cons e es ih =>
    unfold insertEntry at h
    split at h
    · simpa using h
    · split at h <;> rcases List.mem_cons.1 h with h | h
      · exact .inl h
      · exact .inr (List.mem_cons_of_mem _ h)
      · exact .inr (h ▸ List.mem_cons_self)
      · exact (ih h).imp id (List.mem_cons_of_mem _)

theorem pairwise_insertEntry (key : String) (value : α) {es : List (String × α)}
    (h : es.Pairwise (fun a b => a.1 < b.1)) :
    (insertEntry key value es).Pairwise (fun a b => a.1 < b.1) := by
  induction es with
  | nil => simp [insertEntry]
  | cons e es ih =>
    have hp := List.pairwise_cons.1 h
    unfold insertEntry
    split
    · rename_i hk
      refine List.pairwise_cons.2 ⟨fun x hx => ?_, h⟩
      rcases List.mem_cons.1 hx with rfl | hx
      · exact hk
      · exact String.lt_trans hk (hp.1 x hx)
    · rename_i hk
      split
      · rename_i he
        exact List.pairwise_cons.2 ⟨fun x hx => he ▸ hp.1 x hx, hp.2⟩
      · rename_i he
        refine List.pairwise_cons.2 ⟨fun x hx => ?_, ih hp.2⟩
        rcases mem_insertEntry hx with rfl | hx
        · exact lt_of_not_lt_of_ne hk he
        · exact hp.1 x hx

theorem find_insertEntry (key k : String) (value : α) (es : List (String × α)) :
    find k (insertEntry key value es) = if k = key then some value else find k es := by
  induction es with
  | nil => rfl
  | cons e es ih => grind [find, insertEntry]

theorem mem_of_find {k : String} {v : α} {es : List (String × α)} (h : find k es = some v) :
    (k, v) ∈ es := by
  induction es with
  | nil => cases h
  | cons e es ih =>
    unfold find at h
    split at h
    · rename_i hk
      cases h
      exact hk ▸ List.mem_cons_self
    · exact List.mem_cons_of_mem _ (ih h)

theorem find_of_mem {k : String} {v : α} {es : List (String × α)}
    (hp : es.Pairwise (fun a b => a.1 < b.1)) (h : (k, v) ∈ es) : find k es = some v := by
  induction es with
  | nil => cases h
  | cons e es ih =>
    have hc := List.pairwise_cons.1 hp
    rcases List.mem_cons.1 h with rfl | h
    · simp [find]
    · have hk : k ≠ e.1 := fun he => String.lt_irrefl _ (he ▸ hc.1 _ h)
      rw [find, if_neg hk, ih hc.2 h]

/-! ## Operations -/

def empty : Dict α := ⟨[], .nil⟩

instance : EmptyCollection (Dict α) := ⟨empty⟩
instance : Inhabited (Dict α) := ⟨empty⟩

def get? (d : Dict α) (key : String) : Option α := find key d.entries

def contains (d : Dict α) (key : String) : Bool := (d.get? key).isSome

def keys (d : Dict α) : List String := d.entries.map (·.1)

def size (d : Dict α) : Nat := d.entries.length

def isEmpty (d : Dict α) : Bool := d.entries.isEmpty

/-- Binds `key` to `value`, in place of an earlier value. -/
def insert (d : Dict α) (key : String) (value : α) : Dict α :=
  ⟨insertEntry key value d.entries, pairwise_insertEntry key value d.ascending⟩

def erase (d : Dict α) (key : String) : Dict α :=
  ⟨d.entries.filter (·.1 != key), d.ascending.filter _⟩

/-- Inserts pairs one after the other, so that the last of two pairs with one key stays. -/
def insertAll (d : Dict α) (pairs : List (String × α)) : Dict α :=
  pairs.foldl (fun d p => d.insert p.1 p.2) d

/-- The dictionary of some pairs, of which a later one wins. -/
def ofList (pairs : List (String × α)) : Dict α := empty.insertAll pairs

/-- Lays the entries of `upper` over those of `lower`. -/
def overlay (lower upper : Dict α) : Dict α := lower.insertAll upper.entries

/-! ## Look-ups -/

@[simp] theorem get?_empty (k : String) : (∅ : Dict α).get? k = none := rfl

theorem get?_eq_some_iff {d : Dict α} {k : String} {v : α} :
    d.get? k = some v ↔ (k, v) ∈ d.entries :=
  ⟨mem_of_find, find_of_mem d.ascending⟩

@[simp] theorem get?_insert (d : Dict α) (key k : String) (value : α) :
    (d.insert key value).get? k = if k = key then some value else d.get? k :=
  find_insertEntry key k value d.entries

@[simp] theorem get?_erase (d : Dict α) (key k : String) :
    (d.erase key).get? k = if k = key then none else d.get? k := by
  apply Option.ext
  intro v
  by_cases hk : k = key <;> simp [get?_eq_some_iff, erase, hk]

theorem contains_iff {d : Dict α} {k : String} : d.contains k ↔ ∃ v, d.get? k = some v := by
  simp [contains, Option.isSome_iff_exists]

theorem insertAll_cons (d : Dict α) (p : String × α) (ps : List (String × α)) :
    d.insertAll (p :: ps) = (d.insert p.1 p.2).insertAll ps := rfl

theorem get?_insertAll (d : Dict α) {pairs : List (String × α)} (k : String)
    (hp : pairs.Pairwise (fun a b => a.1 < b.1)) :
    (d.insertAll pairs).get? k = (find k pairs).or (d.get? k) := by
  induction pairs generalizing d with
  | nil => rfl
  | cons p ps ih =>
    have hc := List.pairwise_cons.1 hp
    rw [insertAll_cons, ih _ hc.2, get?_insert, find]
    split
    · rename_i hk
      have : find k ps = none := by
        cases hf : find k ps with
        | none => rfl
        | some v => exact absurd (hk ▸ hc.1 _ (mem_of_find hf)) (String.lt_irrefl _)
      simp [this]
    · rfl

/-- A look-up in an overlay asks the upper dictionary first. -/
@[simp] theorem get?_overlay (lower upper : Dict α) (k : String) :
    (lower.overlay upper).get? k = (upper.get? k).or (lower.get? k) :=
  get?_insertAll lower k upper.ascending

theorem get?_insertAll_map (d : Dict α) (keys : List String) (f : String → α) (k : String) :
    (d.insertAll (keys.map fun key => (key, f key))).get? k =
      if k ∈ keys then some (f k) else d.get? k := by
  induction keys generalizing d with
  | nil => simp [insertAll]
  | cons key keys ih =>
    rw [List.map_cons, insertAll_cons, ih, get?_insert]
    by_cases hk : k = key <;> by_cases hm : k ∈ keys <;> simp [hk, hm]

/-- A dictionary that is made by a function of the keys has the values of the function. -/
@[simp] theorem get?_ofList_map (keys : List String) (f : String → α) (k : String) :
    (ofList (keys.map fun key => (key, f key))).get? k = if k ∈ keys then some (f k) else none :=
  get?_insertAll_map ∅ keys f k

theorem contains_insertAll (d : Dict α) (pairs : List (String × α)) (k : String) :
    (d.insertAll pairs).contains k ↔ k ∈ pairs.map (·.1) ∨ d.contains k := by
  induction pairs generalizing d with
  | nil => simp [insertAll]
  | cons p ps ih =>
    rw [insertAll_cons, ih, List.map_cons, List.mem_cons]
    by_cases hk : k = p.1 <;> simp [contains, hk]

theorem contains_ofList {pairs : List (String × α)} {k : String} :
    (ofList pairs).contains k ↔ k ∈ pairs.map (·.1) :=
  (contains_insertAll ∅ pairs k).trans (or_iff_left nofun)

theorem contains_overlay {lower upper : Dict α} {k : String} :
    (lower.overlay upper).contains k ↔ upper.contains k ∨ lower.contains k := by
  rw [contains, get?_overlay, Option.isSome_or, Bool.or_eq_true]
  rfl

theorem mem_keys {d : Dict α} {k : String} : k ∈ d.keys ↔ d.contains k := by
  simp [contains_iff, keys, get?_eq_some_iff]

/-- Dictionaries that answer every look-up alike are equal. -/
theorem ext_get? {d e : Dict α} (h : ∀ k, d.get? k = e.get? k) : d = e := by
  have hmem : ∀ x, x ∈ d.entries ↔ x ∈ e.entries := fun x => by
    rw [← get?_eq_some_iff (d := d), ← get?_eq_some_iff (d := e), h]
  have hnd : ∀ f : Dict α, f.entries.Nodup := fun f =>
    f.ascending.imp fun {a b} (hab : a.1 < b.1) (he : a = b) =>
      String.lt_irrefl b.1 (he ▸ hab)
  have hperm : d.entries.Perm e.entries :=
    (List.perm_ext_iff_of_nodup (hnd d) (hnd e)).2 hmem
  have heq : d.entries = e.entries :=
    hperm.eq_of_pairwise (fun a b _ _ hab hba => absurd hab (String.lt_asymm hba))
      d.ascending e.ascending
  cases d
  cases e
  exact mk.injEq .. ▸ heq

end Dict

end Signpost
