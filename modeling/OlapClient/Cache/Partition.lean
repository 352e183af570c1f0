import OlapClient.Cache.Retention
import OlapClient.Location.Url

namespace OlapClient.Cache

/-!
# Partitions

A partition holds responses by location and request, the most recently used first. Time is a number
of milliseconds that callers give.

* `EntryKey`, `Entry` — what a response is kept under, and how.
* `Partition.lookup` — reading a response, which counts as a use.
* `Partition.insert` — keeping a response, for which a full partition gives up others.
* `victim?` — the entry that is given up.
-/

/-- What a response is kept under. -/
structure EntryKey where
  url : String
  request : Bytes
deriving DecidableEq, Repr

/-- The key of a request to a location. -/
def EntryKey.of (url : Location.Url) (request : Bytes) : EntryKey :=
  ⟨url.text, request⟩

/-- A kept response: when it was put, how often it was read since, and its number in the order of
puts. Like the counts of a store, both are without bound. -/
structure Entry where
  key : EntryKey
  response : Bytes
  storedAt : Nat
  hits : Nat
  number : Nat
deriving DecidableEq, Repr

/-- Whether an entry has outlived a timeout. -/
def Entry.expired (e : Entry) (timeout : Option Nat) (now : Nat) : Bool :=
  match timeout with
  | none => false
  | some ms => ms < now - e.storedAt

/-- Whether an entry is given up rather than another that was used less recently. -/
def Mode.beats (mode : Mode) (e other : Entry) : Bool :=
  match mode with
  | .lru => false
  | .lfu => e.hits < other.hits
  | .mfu => other.hits < e.hits
  | .fifo => e.number < other.number
  | .lifo => other.number < e.number

/-- The entry that a mode gives up, of entries in the order from the least recently used. -/
def Mode.pick (mode : Mode) : List Entry → Option Entry
  | [] => none
  | e :: es => some (es.foldl (fun best e => if mode.beats e best then e else best) e)

/-- The entry that a mode gives up, of entries in the order from the most recently used. -/
def victim? (mode : Mode) (entries : List Entry) : Option Entry :=
  mode.pick entries.reverse

/-- The entries without that of a key. -/
def removeKey (key : EntryKey) (entries : List Entry) : List Entry :=
  entries.filter (·.key != key)

/-- Give up one entry, if there is any. -/
def evictOne (mode : Mode) (entries : List Entry) : List Entry :=
  match victim? mode entries with
  | none => entries
  | some e => removeKey e.key entries

/-- Give up a number of entries, one after the other. -/
def evict (mode : Mode) : Nat → List Entry → List Entry
  | 0, entries => entries
  | n + 1, entries => evict mode n (evictOne mode entries)

/-- A bounded set of responses, the most recently used first. -/
structure Partition where
  retention : Retention
  entries : List Entry
  lastNumber : Nat
deriving DecidableEq, Repr

/-- What reading a partition finds. -/
inductive Found where
  | hit (response : Bytes)
  | expired
  | miss
deriving DecidableEq, Repr

/-- How many entries keeping a response cost. -/
structure Cost where
  evicted : Nat
  expired : Nat
deriving DecidableEq, Repr

namespace Partition

/-- A partition without entries. -/
def empty (retention : Retention) : Partition :=
  ⟨retention, [], 0⟩

/-- The entry of a key. -/
def find? (p : Partition) (key : EntryKey) : Option Entry :=
  p.entries.find? (·.key == key)

/-- Whether an entry has outlived the partition's timeout. -/
def hasExpired (p : Partition) (now : Nat) (e : Entry) : Bool :=
  e.expired p.retention.timeout now

/-- Read a response. A hit is counted and makes the entry the most recent; an expired entry is
removed. -/
def lookup (p : Partition) (now : Nat) (key : EntryKey) : Found × Partition :=
  match p.find? key with
  | none => (.miss, p)
  | some e =>
    let others := removeKey key p.entries
    if p.hasExpired now e then (.expired, { p with entries := others })
    else (.hit e.response, { p with entries := { e with hits := e.hits + 1 } :: others })

/-- Whether a key is held and has not expired. -/
def contains (p : Partition) (now : Nat) (key : EntryKey) : Bool :=
  match p.find? key with
  | none => false
  | some e => !p.hasExpired now e

/-- Remove the expired entries. -/
def purge (p : Partition) (now : Nat) : Partition :=
  { p with entries := p.entries.filter (!p.hasExpired now ·) }

/-- The number of entries. -/
def size (p : Partition) : Nat :=
  p.entries.length

/-- The partition with room for one more entry: a full one first loses what has expired, and then
gives up entries until it has room. -/
def makeRoom (p : Partition) (now : Nat) : Cost × Partition :=
  let purged := if p.retention.size ≤ p.size then p.purge now else p
  let count := min (purged.size + 1 - purged.retention.size) purged.size
  (⟨count, p.size - purged.size⟩,
    { purged with entries := evict purged.retention.mode count purged.entries })

/-- Keep a response. That of a key already held is replaced; else room is made for it. -/
def insert (p : Partition) (now : Nat) (key : EntryKey) (response : Bytes) : Cost × Partition :=
  let number := p.lastNumber + 1
  let entry : Entry := ⟨key, response, now, 0, number⟩
  if (p.find? key).isSome then
    (⟨0, 0⟩, { p with entries := entry :: removeKey key p.entries, lastNumber := number })
  else
    let (cost, room) := p.makeRoom now
    (cost, { room with entries := entry :: room.entries, lastNumber := number })

/-- Remove all entries. Numbers go on from the last. -/
def clear (p : Partition) : Partition :=
  { p with entries := [] }

end Partition

end OlapClient.Cache
