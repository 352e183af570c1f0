import OlapClient.Cache.Memory
import OlapClient.Cache.Replay
import OlapClient.Machine

namespace OlapClient.Cache

open Location (Url)

/-!
# Stores

A connection names the kind of its store; what the store holds lies in memory or in files.

* `Store` — a store of either kind.
* `Store.create` — the store of a kind, with the settings that cache properties give it.
* `Store.configure`, `Store.get`, `Store.put`, `Store.flush` — the operations of every store.
-/

/-- A store of responses. -/
inductive Store where
  | memory (m : Memory)
  | replay (r : Replay)

namespace Store

/-- The name of a store's kind. -/
def name : Store → String
  | .memory _ => "memory"
  | .replay _ => "replay"

/-- Create the store of a kind, which is named in any case and with blanks around it. -/
def create (m : Machine) (kind : String) (properties : PropertyMap) :
    Except CacheError Store × Machine :=
  let key := lowerString (trim kind)
  if key = "memory" then
    ((Retention.ofProperties properties).map fun r => .memory (.empty r), m)
  else if key = "replay" then
    let (result, files) := Replay.ofProperties m.files properties
    (result.map .replay, m.withFiles files)
  else (.error (.unknownStore kind), m)

/-- Register a session. -/
def configure (s : Store) (m : Machine) (connection cache : PropertyMap) :
    SessionId × Store × Machine :=
  let (nonce, m) := m.draw
  match s with
  | .memory store =>
    let (id, store) := store.configure nonce connection cache
    (id, .memory store, m)
  | .replay store =>
    let (id, store) := store.configure nonce connection cache
    (id, .replay store, m)

/-- Read the response of a request. -/
def get (s : Store) (m : Machine) (id : SessionId) (url : Url) (request : Bytes) :
    Except CacheError (Option Bytes) × Store :=
  match s with
  | .memory store =>
    match store.get m.now id url request with
    | .ok (found, store) => (.ok found, .memory store)
    | .error e => (.error e, s)
  | .replay store => (store.get m.files id url request, s)

/-- Keep the response of a request. -/
def put (s : Store) (m : Machine) (id : SessionId) (url : Url) (request response : Bytes) :
    Except CacheError Unit × Store × Machine :=
  match s with
  | .memory store =>
    match store.put m.now id url request response with
    | .ok store => (.ok (), .memory store, m)
    | .error e => (.error e, s, m)
  | .replay store =>
    let (nonce, m) := m.draw
    let (result, files) := store.put m.files nonce id url request response
    (result, s, m.withFiles files)

/-- Remove all responses. Sessions stay. -/
def flush (s : Store) (m : Machine) : Store × Machine :=
  match s with
  | .memory store => (.memory store.flush, m)
  | .replay store => (s, m.withFiles (store.flush m.files))

end Store

end OlapClient.Cache
