import Signpost.Registry.Basic

/-!
# Stores

A store keeps bytes under keys. A registry keeps its snapshot in a store under a key of its own. A
store may fail; then the snapshot that was to be kept counts as written all the same.

Main fact: `load_save`, what was saved last under a key is loaded.
-/

namespace Signpost

/-- Something that keeps bytes under keys. -/
class Store (σ : Type u) where
  save : σ → (key : String) → ByteArray → Except StoreError σ
  load : σ → (key : String) → Except StoreError (Option ByteArray)

/-- A store that never fails. -/
structure MemoryStore where
  blobs : Dict ByteArray := ∅

namespace MemoryStore

/-- Keeps bytes under a key, in place of those that were there. -/
def save (s : MemoryStore) (key : String) (bytes : ByteArray) : MemoryStore :=
  ⟨s.blobs.insert key bytes⟩

def load (s : MemoryStore) (key : String) : Option ByteArray := s.blobs.get? key

def remove (s : MemoryStore) (key : String) : MemoryStore := ⟨s.blobs.erase key⟩

def size (s : MemoryStore) : Nat := s.blobs.size

def isEmpty (s : MemoryStore) : Bool := s.blobs.isEmpty

instance : Store MemoryStore where
  save s key bytes := .ok (s.save key bytes)
  load s key := .ok (s.load key)

theorem load_save (s : MemoryStore) (key k : String) (bytes : ByteArray) :
    (s.save key bytes).load k = if k = key then some bytes else s.load k :=
  Dict.get?_insert ..

theorem load_remove (s : MemoryStore) (key k : String) :
    (s.remove key).load k = if k = key then none else s.load k :=
  Dict.get?_erase ..

end MemoryStore

namespace Registry

def cacheKey : String := "route_template.routes"

def saveCache [Store σ] (r : Registry) (store : σ) : Registry × Except RegistryError σ :=
  let (r, bytes) := r.save
  (r, (Store.save store cacheKey bytes).mapError .store)

def loadCache [Store σ] (r : Registry) (store : σ) (append : Bool) :
    Registry × Except RegistryError Bool :=
  match Store.load store cacheKey with
  | .error e => (r, .error (.store e))
  | .ok blob => r.load blob append

end Registry

end Signpost
