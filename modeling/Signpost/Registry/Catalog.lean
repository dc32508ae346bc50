import Signpost.Route.Basic

/-!
# Filter catalogs

Filters by their ids. A stored route names its filters only, and gets them back from a catalog.

Main fact: `id_of_get?`, a filter is kept under its own id.
-/

namespace Signpost

/-- Filters by id. -/
structure Catalog where
  filters : Dict Filter
  id_eq : ∀ id f, filters.get? id = some f → f.id = id

namespace Catalog

def empty : Catalog := ⟨∅, fun _ _ h => nomatch h⟩

instance : EmptyCollection Catalog := ⟨empty⟩

/-- Adds a filter, in place of an earlier one with its id. -/
def register (c : Catalog) (f : Filter) : Catalog :=
  ⟨c.filters.insert f.id f, fun id g h => by
    rw [Dict.get?_insert] at h
    split at h
    · cases h
      simp [*]
    · exact c.id_eq id g h⟩

def registerAll (c : Catalog) (fs : List Filter) : Catalog := fs.foldl register c

def get? (c : Catalog) (id : String) : Option Filter := c.filters.get? id

def contains (c : Catalog) (id : String) : Bool := c.filters.contains id

def size (c : Catalog) : Nat := c.filters.size

def isEmpty (c : Catalog) : Bool := c.filters.isEmpty

theorem id_of_get? {c : Catalog} {id : String} {f : Filter} (h : c.get? id = some f) :
    f.id = id :=
  c.id_eq id f h

@[simp] theorem get?_register (c : Catalog) (f : Filter) (id : String) :
    (c.register f).get? id = if id = f.id then some f else c.get? id :=
  Dict.get?_insert ..

end Catalog

end Signpost
