import OlapClient.Cache.Failure
import OlapClient.Property.NameMap
import OlapClient.Text.Blank

namespace OlapClient.Cache

/-!
# Sessions

A connection registers with a cache and is given a session, which names the partition its entries
live in.

* `Sharing` — where sessions without a name of their own have their entries.
* `Session` — a registered session.
* `Registry` — the sessions that have been issued.
* `Registry.register`, `Registry.lookup` — issuing a session and finding it again.
-/

/-- Where sessions without a name have their entries: each in its own partition, or all in one. -/
inductive Sharing where
  | isolated
  | shared (name : String)
deriving DecidableEq, Repr

/-- A registered session, with the properties it was registered with. -/
structure Session where
  id : SessionId
  partition : String
  config : PropertyMap
  cacheProperties : PropertyMap

/-- The sessions that have been issued, the latest first, and their number, which has no bound. -/
structure Registry where
  sharing : Sharing
  issued : Nat
  sessions : List Session

/-- A registry that has issued nothing. -/
def Registry.empty (sharing : Sharing) : Registry :=
  ⟨sharing, 0, []⟩

/-- The id of a number and a random text. Numbers alone make ids distinct. -/
def SessionId.issue (number : Nat) (nonce : String) : SessionId :=
  ⟨"s" ++ toString number ++ "-" ++ nonce⟩

/-- The name that cache properties give to their partition. -/
def partitionName? (cacheProperties : PropertyMap) : Option String :=
  (cacheProperties.find? "Name").bind nonBlank?

/-- The partition of a session: that of its name, or the one that sharing provides. -/
def Sharing.partition (sharing : Sharing) (id : SessionId) (cacheProperties : PropertyMap) :
    String :=
  match partitionName? cacheProperties with
  | some name => "named:" ++ name
  | none =>
    match sharing with
    | .isolated => "session:" ++ id.text
    | .shared name => "shared:" ++ name

namespace Registry

/-- Register a session. Its config is that of the connection with the cache properties put in. -/
def register (r : Registry) (nonce : String) (connection cache : PropertyMap) :
    Session × Registry :=
  let number := r.issued + 1
  let id := SessionId.issue number nonce
  let session : Session :=
    ⟨id, r.sharing.partition id cache, NameMap.override connection cache, cache⟩
  (session, { r with issued := number, sessions := session :: r.sessions })

/-- The session of an id. -/
def lookup (r : Registry) (id : SessionId) : Except CacheError Session :=
  match r.sessions.find? (·.id == id) with
  | some session => .ok session
  | none => .error (.uninitialized id)

/-- The partition of a session. -/
def partitionOf (r : Registry) (id : SessionId) : Except CacheError String :=
  (r.lookup id).map (·.partition)

/-- The number of sessions. -/
def size (r : Registry) : Nat :=
  r.sessions.length

end Registry

end OlapClient.Cache
