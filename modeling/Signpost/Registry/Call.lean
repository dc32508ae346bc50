import Signpost.Registry.Store

/-!
# Calls to a registry

What can be asked of a registry, as data: a call gives an answer or fails, and leaves the registry in
a next state. A run is a list of calls, each made on the registry that the one before left. Stores are
handed to the calls that need one, so a run says what the registry does whatever its stores hold.
-/

namespace Signpost.Registry

/-- A call to a registry. `σ` is the type of the stores. -/
inductive Call (σ : Type u)
  | compile (text : String) (overrides : Dict String)
  | register (name : String) (route : Route)
  | registerFilter (filter : Filter)
  | get (name : String)
  | isExternal (name : String)
  | uri (name : String) (params : Params)
  | url (name : String) (params : Params) (protocol : Option String)
  | save
  | load (blob : Option ByteArray) (append : Bool)
  | saveCache (store : σ)
  | loadCache (store : σ) (append : Bool)

/-- What a call that does not fail gives back. -/
inductive Answer (σ : Type u)
  | done
  | route (route : Route)
  | handle (handle : Handle)
  | flag (value : Bool)
  | link (text : String)
  | blob (bytes : ByteArray)
  /-- The store after something was kept in it. -/
  | store (store : σ)

/-- Makes a call: the registry that it leaves, and its answer. -/
def Call.run [Store σ] (r : Registry) : Call σ → Registry × Except RegistryError (Answer σ)
  | compile text overrides => (r, ((r.compile text overrides).mapError .template).map .route)
  | register name route =>
    match r.register name route with
    | .error e => (r, .error e)
    | .ok (next, h) => (next, .ok (.handle h))
  | registerFilter f => (r.registerFilter f, .ok .done)
  | get name => (r, (r.get name).map .route)
  | isExternal name => (r, (r.isExternal name).map .flag)
  | uri name params => (r, (r.uri name params).map .link)
  | url name params protocol => (r, (r.url name params protocol).map .link)
  | save =>
    let (next, bytes) := r.save
    (next, .ok (.blob bytes))
  | load blob append =>
    let (next, answer) := r.load blob append
    (next, answer.map .flag)
  | saveCache store =>
    let (next, answer) := r.saveCache store
    (next, answer.map .store)
  | loadCache store append =>
    let (next, answer) := r.loadCache store append
    (next, answer.map .flag)

/-- The registry after some calls, one after the other. -/
def runAll [Store σ] (r : Registry) (calls : List (Call σ)) : Registry :=
  calls.foldl (fun r c => (c.run r).1) r

end Signpost.Registry
