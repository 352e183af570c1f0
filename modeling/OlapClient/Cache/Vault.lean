import OlapClient.Cache.Store

namespace OlapClient.Cache

open Location (Url)

/-!
# The stores of a client

Connections may share a store, so stores are kept apart from connections and numbered.

* `Vault` — all stores and the machine that they run on.
* `Vault.add`, `Vault.create` — a new store and its number.
* `Vault.get`, `Vault.put`, … — the operations of the store of a number.
-/

/-- The stores of a client, in the order in which they were created. -/
structure Vault where
  machine : Machine
  stores : List Store

namespace Vault

/-- A vault without stores. -/
def empty (machine : Machine) : Vault :=
  ⟨machine, []⟩

/-- The store of a number. -/
def store? (v : Vault) (number : Nat) : Option Store :=
  v.stores[number]?

/-- The vault with a store replaced. -/
def replace (v : Vault) (number : Nat) (store : Store) : Vault :=
  { v with stores := v.stores.set number store }

/-- Add a store. -/
def add (v : Vault) (store : Store) : Nat × Vault :=
  (v.stores.length, { v with stores := v.stores ++ [store] })

/-- Create the store of a kind. -/
def create (v : Vault) (kind : String) (properties : PropertyMap) : Except CacheError Nat × Vault :=
  match Store.create v.machine kind properties with
  | (.error e, machine) => (.error e, { v with machine })
  | (.ok store, machine) =>
    let (number, v) := { v with machine }.add store
    (.ok number, v)

/-- Register a session with a store. -/
def configure (v : Vault) (number : Nat) (connection cache : PropertyMap) :
    Option SessionId × Vault :=
  match v.store? number with
  | none => (none, v)
  | some store =>
    let (id, store, machine) := store.configure v.machine connection cache
    (some id, { v with machine }.replace number store)

/-- Read the response of a request. -/
def get (v : Vault) (number : Nat) (id : SessionId) (url : Url) (request : Bytes) :
    Except CacheError (Option Bytes) × Vault :=
  match v.store? number with
  | none => (.error (.uninitialized id), v)
  | some store =>
    let (result, store) := store.get v.machine id url request
    (result, v.replace number store)

/-- Keep the response of a request. -/
def put (v : Vault) (number : Nat) (id : SessionId) (url : Url) (request response : Bytes) :
    Except CacheError Unit × Vault :=
  match v.store? number with
  | none => (.error (.uninitialized id), v)
  | some store =>
    let (result, store, machine) := store.put v.machine id url request response
    (result, { v with machine }.replace number store)

/-- Remove all responses of a store. -/
def flush (v : Vault) (number : Nat) : Vault :=
  match v.store? number with
  | none => v
  | some store =>
    let (store, machine) := store.flush v.machine
    { v with machine }.replace number store

end Vault

end OlapClient.Cache
