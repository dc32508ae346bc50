import Signpost.Route.Basic

/-!
# Route tables

Routes by name, in the order in which the names came. Every time a route is put into a table it has
a handle, by which it can be told from any other, even an equal one.

A table keeps its entries in a list, and beside it an index with the place of each name, through
which a name is looked up. Every change has to keep the two in step, which is the one law of a table
(`Indexes`).

Main facts: `names_nodup`, no two entries have one name; `get?_eq_some_iff`, a look-up finds just the
entry with the name; `get?_insert`, and `names_insert_of_contains`, by which a route that takes the
place of another one keeps its position.
-/

namespace Signpost

/-- Tells one registered route from all others: the registry that gave it out, and a number that
the registry gave to nothing else. -/
structure Handle where
  owner : Nat
  serial : Nat
deriving Repr, DecidableEq

structure Entry where
  name : String
  handle : Handle
  route : Route

/-- An index has the place of the name of every entry, and no other place. -/
def Indexes (index : Dict Nat) (entries : List Entry) : Prop :=
  ∀ name i, index.get? name = some i ↔ (entries[i]?).map (·.name) = some name

/-- Routes by name, in the order in which the names came. -/
structure Table where
  entries : List Entry
  /-- The place of each name among the entries. -/
  index : Dict Nat
  indexed : Indexes index entries

/-! ## Keeping the index in step -/

namespace Indexes

variable {index : Dict Nat} {entries : List Entry}

theorem nil : Indexes ∅ [] := fun name i => by simp

section
variable (h : Indexes index entries)
include h

/-- An index never points outside the entries. -/
theorem lt_length {name : String} {i : Nat} (hi : index.get? name = some i) :
    i < entries.length := by
  obtain ⟨x, hx, -⟩ := Option.map_eq_some_iff.1 ((h name i).1 hi)
  exact (List.getElem?_eq_some_iff.1 hx).1

/-- An entry that takes the place of the one with its name leaves all places as they are. -/
theorem set {e : Entry} {i : Nat} (hi : index.get? e.name = some i) :
    Indexes index (entries.set i e) := by
  intro name j
  rw [h name j, List.getElem?_set]
  split
  · rename_i hij
    subst hij
    rw [(h e.name i).1 hi, if_pos (h.lt_length hi)]
    rfl
  · exact Iff.rfl

/-- An entry with a new name stands behind all others. -/
theorem push {e : Entry} (hnew : index.get? e.name = none) :
    Indexes (index.insert e.name entries.length) (entries ++ [e]) := by
  intro name j
  rw [Dict.get?_insert, List.getElem?_append]
  have hold := h name j
  rcases Nat.lt_trichotomy j entries.length with hj | rfl | hj
  · rw [if_pos hj, ← hold]
    split
    · rename_i hname
      subst hname
      simp only [hnew, Option.some.injEq, reduceCtorEq, iff_false]
      omega
    · exact Iff.rfl
  · rw [List.getElem?_eq_none (Nat.le_refl _)] at hold
    rw [if_neg (Nat.lt_irrefl _), Nat.sub_self]
    split
    · rename_i hname
      simp [hname]
    · rename_i hname
      simp [hold, Ne.symm hname]
  · rw [List.getElem?_eq_none (Nat.le_of_lt hj)] at hold
    rw [if_neg (Nat.not_lt_of_lt hj), List.getElem?_eq_none (by simp; omega)]
    split
    · simp only [Option.some.injEq, Option.map_none, reduceCtorEq, iff_false]
      omega
    · exact hold

/-- The names of the entries are different, since the index has one place for each. -/
theorem nodup : (entries.map (·.name)).Nodup := by
  have hplace : ∀ i (hi : i < entries.length), index.get? entries[i].name = some i := fun i hi =>
    (h _ i).2 (by rw [List.getElem?_eq_getElem hi]; rfl)
  refine List.pairwise_iff_getElem.2 fun i j hi hj hij he => ?_
  rw [List.length_map] at hi hj
  rw [List.getElem_map, List.getElem_map] at he
  have hi' := hplace i hi
  rw [he, hplace j hj, Option.some.injEq] at hi'
  omega

end

end Indexes

namespace Table

def empty : Table := ⟨[], ∅, .nil⟩

instance : EmptyCollection Table := ⟨empty⟩

def names (t : Table) : List String := t.entries.map (·.name)

def size (t : Table) : Nat := t.entries.length

def isEmpty (t : Table) : Bool := t.entries.isEmpty

def get? (t : Table) (name : String) : Option Entry :=
  (t.index.get? name).bind fun i => t.entries[i]?

def contains (t : Table) (name : String) : Bool := t.index.contains name

/-- The name under which a handle stands. -/
def nameOf? (t : Table) (h : Handle) : Option String :=
  (t.entries.find? (·.handle == h)).map (·.name)

/-- Puts an entry in the place of the one with its name, or else at the end. -/
def insert (t : Table) (e : Entry) : Table :=
  match h : t.index.get? e.name with
  | some i => ⟨t.entries.set i e, t.index, t.indexed.set h⟩
  | none => ⟨t.entries ++ [e], t.index.insert e.name t.entries.length, t.indexed.push h⟩

/-! ## Look-ups -/

theorem names_nodup (t : Table) : t.names.Nodup := t.indexed.nodup

/-- A look-up finds just the entry with the name. -/
theorem get?_eq_some_iff {t : Table} {name : String} {e : Entry} :
    t.get? name = some e ↔ e ∈ t.entries ∧ e.name = name := by
  rw [get?, Option.bind_eq_some_iff, List.mem_iff_getElem?]
  constructor
  · rintro ⟨i, hi, he⟩
    have hname := (t.indexed name i).1 hi
    rw [he] at hname
    exact ⟨⟨i, he⟩, Option.some.inj hname⟩
  · rintro ⟨⟨i, he⟩, rfl⟩
    exact ⟨i, (t.indexed e.name i).2 (by rw [he]; rfl), he⟩

theorem get?_eq_none_iff {t : Table} {name : String} : t.get? name = none ↔ name ∉ t.names := by
  rw [Option.eq_none_iff_forall_ne_some, names, List.mem_map]
  exact ⟨fun h ⟨e, he⟩ => h e (get?_eq_some_iff.2 he), fun h e he => h ⟨e, get?_eq_some_iff.1 he⟩⟩

theorem contains_iff {t : Table} {name : String} : t.contains name ↔ name ∈ t.names := by
  rw [contains, Dict.contains_iff, names, List.mem_map]
  constructor
  · rintro ⟨i, hi⟩
    obtain ⟨e, he, hname⟩ := Option.map_eq_some_iff.1 ((t.indexed name i).1 hi)
    exact ⟨e, List.mem_of_getElem? he, hname⟩
  · rintro ⟨e, he, rfl⟩
    obtain ⟨i, hi⟩ := List.mem_iff_getElem?.1 he
    exact ⟨i, (t.indexed e.name i).2 (by rw [hi]; rfl)⟩

/-- A look-up goes through the index and finds what a search through the entries would. -/
theorem get?_eq_find? (t : Table) (name : String) :
    t.get? name = t.entries.find? (·.name == name) := by
  cases hfind : t.entries.find? (·.name == name) with
  | none =>
    refine get?_eq_none_iff.2 fun hmem => ?_
    obtain ⟨e, he, hname⟩ := List.mem_map.1 hmem
    simpa [hname] using List.find?_eq_none.1 hfind e he
  | some e =>
    exact get?_eq_some_iff.2
      ⟨List.mem_of_find?_eq_some hfind, by simpa using List.find?_some hfind⟩

/-! ## Entries that are put in -/

theorem index_get?_eq_none_iff {t : Table} {name : String} :
    t.index.get? name = none ↔ ¬ t.contains name := by
  rw [contains, Dict.contains, Bool.not_eq_true, Option.isSome_eq_false_iff,
    Option.isNone_iff_eq_none]

/-- An entry with a new name comes behind the others. -/
theorem entries_insert_of_not_contains {t : Table} {e : Entry} (h : ¬ t.contains e.name) :
    (t.insert e).entries = t.entries ++ [e] := by
  rw [insert]
  split
  · rename_i i hi
    rw [index_get?_eq_none_iff.2 h] at hi
    cases hi
  · rfl

/-- The entries are the new one and those with other names. -/
theorem mem_entries_insert {t : Table} {e x : Entry} :
    x ∈ (t.insert e).entries ↔ x = e ∨ x ∈ t.entries ∧ x.name ≠ e.name := by
  rw [insert]
  split
  · rename_i i hi
    have hlt := t.indexed.lt_length hi
    simp only [List.mem_iff_getElem?, List.getElem?_set]
    constructor
    · rintro ⟨j, hj⟩
      split at hj
      · exact .inl (Option.some.inj hj).symm
      · rename_i hij
        refine .inr ⟨⟨j, hj⟩, fun hname => hij ?_⟩
        have hplace := (t.indexed e.name j).2 (by rw [hj]; exact congrArg some hname)
        rw [hi] at hplace
        exact Option.some.inj hplace
    · rintro (rfl | ⟨⟨j, hj⟩, hname⟩)
      · exact ⟨i, by simp [hlt]⟩
      · refine ⟨j, ?_⟩
        rw [if_neg, hj]
        rintro rfl
        have hplace := (t.indexed e.name i).1 hi
        rw [hj] at hplace
        exact hname (Option.some.inj hplace)
  · rename_i hnone
    have hnew : e.name ∉ t.names := fun hmem =>
      index_get?_eq_none_iff.1 hnone (contains_iff.2 hmem)
    rw [List.mem_append, List.mem_singleton, or_comm]
    refine or_congr_right ⟨fun hx => ⟨hx, fun hname => hnew ?_⟩, And.left⟩
    exact hname ▸ List.mem_map_of_mem hx

theorem names_insert_of_contains {t : Table} {e : Entry} (h : t.contains e.name) :
    (t.insert e).names = t.names := by
  rw [insert]
  split
  · rename_i i hi
    refine List.ext_getElem? fun j => ?_
    simp only [names, List.getElem?_map, List.getElem?_set]
    split
    · rename_i hij
      subst hij
      rw [if_pos (t.indexed.lt_length hi), (t.indexed e.name i).1 hi]
      rfl
    · rfl
  · rename_i hnone
    exact absurd h (index_get?_eq_none_iff.1 hnone)

theorem names_insert_of_not_contains {t : Table} {e : Entry} (h : ¬ t.contains e.name) :
    (t.insert e).names = t.names ++ [e.name] := by
  rw [names, entries_insert_of_not_contains h, List.map_append]
  rfl

@[simp] theorem get?_insert (t : Table) (e : Entry) (name : String) :
    (t.insert e).get? name = if name = e.name then some e else t.get? name := by
  refine Option.ext fun x => ?_
  rw [get?_eq_some_iff, mem_entries_insert]
  split
  · rename_i hname
    subst hname
    rw [Option.some.injEq]
    exact ⟨fun ⟨hx, hn⟩ => (hx.resolve_right fun h => h.2 hn).symm, fun h => h ▸ ⟨.inl rfl, rfl⟩⟩
  · rename_i hname
    rw [get?_eq_some_iff]
    constructor
    · rintro ⟨rfl | ⟨hx, -⟩, hn⟩
      · exact absurd hn.symm hname
      · exact ⟨hx, hn⟩
    · rintro ⟨hx, rfl⟩
      exact ⟨.inr ⟨hx, hname⟩, rfl⟩

end Table

end Signpost
