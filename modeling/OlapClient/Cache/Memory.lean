import OlapClient.Cache.Partition
import OlapClient.Cache.Session

namespace OlapClient.Cache

open Location (Url)

/-!
# The store in memory

* `Memory` — registered sessions, their partitions, and counts of what has happened.
* `Memory.configure`, `Memory.tryConfigure` — registering a session.
* `Memory.get`, `Memory.put`, `Memory.contains` — one session's entries.
* `Memory.purge`, `Memory.flush` — removing entries of all sessions.
* `Memory.stats` — the counts.

An operation that fails yields no new store.
-/

/-- Counts of what has happened in a store. They are numbers without bound, where a machine counts in
words of 64 bits: none exceeds the number of operations, of which there are to be fewer than
2 ^ 64. -/
structure Counters where
  hits : Nat := 0
  misses : Nat := 0
  inserts : Nat := 0
  evictions : Nat := 0
  expirations : Nat := 0
deriving DecidableEq, Repr

/-- A store in memory. -/
structure Memory where
  registry : Registry
  partitions : NameMap Partition
  defaults : Retention
  counters : Counters

/-- What a store reports about itself. -/
structure Stats where
  counters : Counters
  entries : Nat
  partitions : Nat
  sessions : Nat
deriving DecidableEq, Repr

/-- A session with a request: what an entry is looked up by. -/
structure CacheKey where
  session : SessionId
  entry : EntryKey
deriving DecidableEq, Repr

/-- The key of a request, which must not be empty. -/
def CacheKey.make (session : SessionId) (url : Url) (request : Bytes) :
    Except CacheError CacheKey :=
  if request = [] then .error .emptyRequest else .ok ⟨session, .of url request⟩

namespace Memory

/-- A store without sessions. Sessions without a name are kept apart. -/
def empty (defaults : Retention) : Memory :=
  ⟨.empty .isolated, ∅, defaults, {}⟩

/-- Register a session. Its partition is created unless it exists, in which case the settings of
the session that created it stay. -/
def register (m : Memory) (nonce : String) (connection cache : PropertyMap)
    (retention : Retention) : SessionId × Memory :=
  let (session, registry) := m.registry.register nonce connection cache
  let partitions :=
    if (m.partitions.find? session.partition).isSome then m.partitions
    else m.partitions.insert session.partition (.empty retention)
  (session.id, { m with registry, partitions })

/-- Register a session; bad cache properties are passed over. -/
def configure (m : Memory) (nonce : String) (connection cache : PropertyMap) :
    SessionId × Memory :=
  m.register nonce connection cache (m.defaults.overlayLossy cache)

/-- Register a session, unless a cache property is bad. -/
def tryConfigure (m : Memory) (nonce : String) (connection cache : PropertyMap) :
    Except CacheError (SessionId × Memory) :=
  (m.defaults.overlay cache).map (m.register nonce connection cache)

/-- The name and the content of a session's partition. -/
def partition (m : Memory) (id : SessionId) : Except CacheError (String × Partition) :=
  match m.registry.partitionOf id with
  | .error e => .error e
  | .ok name =>
    match m.partitions.find? name with
    | some p => .ok (name, p)
    | none => .error (.uninitialized id)

/-- The settings of a session's partition. -/
def retention (m : Memory) (id : SessionId) : Except CacheError Retention :=
  (m.partition id).map (·.2.retention)

/-- Count what a look-up found. -/
def Counters.found (c : Counters) : Found → Counters
  | .hit _ => { c with hits := c.hits + 1 }
  | .expired => { c with expirations := c.expirations + 1, misses := c.misses + 1 }
  | .miss => { c with misses := c.misses + 1 }

/-- The response that a look-up found. -/
def Found.response? : Found → Option Bytes
  | .hit response => some response
  | _ => none

/-- Read the response of a request. -/
def get (m : Memory) (now : Nat) (id : SessionId) (url : Url) (request : Bytes) :
    Except CacheError (Option Bytes × Memory) :=
  if request = [] then .error .emptyRequest
  else
    match m.partition id with
    | .error e => .error e
    | .ok (name, p) =>
      let (found, p') := p.lookup now (.of url request)
      .ok (Found.response? found,
        { m with
          partitions := m.partitions.insert name p'
          counters := Counters.found m.counters found })

/-- Count what a put cost. -/
def Counters.paid (c : Counters) (cost : Cost) : Counters :=
  { c with
    inserts := c.inserts + 1
    evictions := c.evictions + cost.evicted
    expirations := c.expirations + cost.expired }

/-- Keep the response of a request. -/
def put (m : Memory) (now : Nat) (id : SessionId) (url : Url) (request response : Bytes) :
    Except CacheError Memory :=
  if request = [] then .error .emptyRequest
  else
    match m.partition id with
    | .error e => .error e
    | .ok (name, p) =>
      let (cost, p') := p.insert now (.of url request) response
      .ok { m with
        partitions := m.partitions.insert name p'
        counters := Counters.paid m.counters cost }

/-- Whether a request's response is held and has not expired. Asking changes nothing. -/
def contains (m : Memory) (now : Nat) (key : CacheKey) : Except CacheError Bool :=
  (m.partition key.session).map fun p => p.2.contains now key.entry

/-- The number of entries of all partitions. -/
def size (m : Memory) : Nat :=
  total (m.partitions.toList.map (·.2.size))

/-- Remove the expired entries of all partitions, and tell how many they were. -/
def purge (m : Memory) (now : Nat) : Nat × Memory :=
  let partitions := m.partitions.map fun _ p => p.purge now
  let count := m.size - { m with partitions }.size
  (count, { m with
    partitions
    counters := { m.counters with expirations := m.counters.expirations + count } })

/-- Remove all entries. Sessions, partitions and counts stay. -/
def flush (m : Memory) : Memory :=
  { m with partitions := m.partitions.map fun _ p => p.clear }

/-- The counts. -/
def stats (m : Memory) : Stats :=
  ⟨m.counters, m.size, m.partitions.size, m.registry.size⟩

end Memory

end OlapClient.Cache
