import OlapClient.Cache.Memory
import OlapClient.Proofs.Cache.Entries
import OlapClient.Proofs.Property.Lookup

namespace OlapClient.Cache

open Location (Url)

/-!
# Runs of a store in memory

A store in memory is driven by operations of any number of sessions, one after the other, while time
goes on.

* `Operation`, `Outcome` — what callers ask for, and what they are told.
* `Clocked.step`, `Clocked.run` — one operation, and a list of them, on a store and a clock.
* `Memory.get_eq_ok`, `Memory.put_eq_ok` — what an operation that succeeds has done.
-/

/-! ### What operations do -/

namespace Memory

/-- A session's partition is the one that the registry names. -/
theorem partition_eq_ok {m : Memory} {id : SessionId} {name : String} {p : Partition} :
    m.partition id = .ok (name, p) ↔
      m.registry.partitionOf id = .ok name ∧ m.partitions.find? name = some p := by
  unfold partition
  cases hr : m.registry.partitionOf id with
  | error e => simp
  | ok name' =>
    cases hf : m.partitions.find? name' with
    | none =>
      simp only [hf, reduceCtorEq, Except.ok.injEq, false_iff]
      rintro ⟨rfl, hp⟩
      rw [hf] at hp
      cases hp
    | some p' =>
      simp only [hf, Except.ok.injEq, Prod.mk.injEq]
      constructor
      · rintro ⟨rfl, rfl⟩
        exact ⟨rfl, hf⟩
      · rintro ⟨rfl, hp⟩
        rw [hf] at hp
        exact ⟨rfl, Option.some.inj hp⟩

/-- The store after a look-up of a session's partition. -/
def afterLookup (m : Memory) (now : Nat) (name : String) (p : Partition) (key : EntryKey) :
    Memory :=
  { m with
    partitions := m.partitions.insert name (p.lookup now key).2
    counters := Counters.found m.counters (p.lookup now key).1 }

/-- The store after an insertion into a session's partition. -/
def afterInsert (m : Memory) (now : Nat) (name : String) (p : Partition) (key : EntryKey)
    (response : Bytes) : Memory :=
  { m with
    partitions := m.partitions.insert name (p.insert now key response).2
    counters := Counters.paid m.counters (p.insert now key response).1 }

variable {m m' : Memory} {now : Nat} {id : SessionId} {url : Url} {request response : Bytes}
  {name : String} {p : Partition}

theorem get_of_partition (hr : request ≠ []) (hp : m.partition id = .ok (name, p)) :
    m.get now id url request = .ok (Found.response? (p.lookup now (.of url request)).1,
      m.afterLookup now name p (.of url request)) := by
  simp only [get, if_neg hr, hp, afterLookup]

/-- A look-up that does not fail is one in the session's partition. -/
theorem get_eq_ok {found : Option Bytes} (h : m.get now id url request = .ok (found, m')) :
    request ≠ [] ∧ ∃ name p, m.partition id = .ok (name, p) ∧
      found = Found.response? (p.lookup now (.of url request)).1 ∧
      m' = m.afterLookup now name p (.of url request) := by
  by_cases hr : request = []
  · rw [get, if_pos hr] at h
    cases h
  · refine ⟨hr, ?_⟩
    cases hp : m.partition id with
    | error e => simp only [get, if_neg hr, hp] at h; cases h
    | ok np =>
      obtain ⟨name, p⟩ := np
      rw [get_of_partition hr hp] at h
      cases h
      exact ⟨name, p, rfl, rfl, rfl⟩

theorem put_of_partition (hr : request ≠ []) (hp : m.partition id = .ok (name, p)) :
    m.put now id url request response =
      .ok (m.afterInsert now name p (.of url request) response) := by
  simp only [put, if_neg hr, hp, afterInsert]

/-- A put that does not fail is an insertion into the session's partition. -/
theorem put_eq_ok (h : m.put now id url request response = .ok m') :
    request ≠ [] ∧ ∃ name p, m.partition id = .ok (name, p) ∧
      m' = m.afterInsert now name p (.of url request) response := by
  by_cases hr : request = []
  · rw [put, if_pos hr] at h
    cases h
  · refine ⟨hr, ?_⟩
    cases hp : m.partition id with
    | error e => simp only [put, if_neg hr, hp] at h; cases h
    | ok np =>
      obtain ⟨name, p⟩ := np
      rw [put_of_partition hr hp] at h
      cases h
      exact ⟨name, p, rfl, rfl⟩

/-- After a session was registered there are the partitions from before and that of the session,
which is empty if it is new. -/
theorem register_find? (m : Memory) (nonce : String) (connection cache : PropertyMap)
    (retention : Retention) (name : String) :
    (m.register nonce connection cache retention).2.partitions.find? name =
      (m.partitions.find? name).or
        (if (m.registry.register nonce connection cache).1.partition = name then
          some (.empty retention) else none) := by
  simp only [register]
  split
  · rename_i h
    obtain ⟨p, hp⟩ := Option.isSome_iff_exists.1 h
    split
    · rename_i heq
      rw [← heq, hp]
      rfl
    · rw [Option.or_none]
  · rename_i h
    rw [NameMap.find?_insert]
    split
    · rename_i heq
      rw [← heq, Option.not_isSome_iff_eq_none.1 h]
      rfl
    · rw [Option.or_none]

/-- Registering a session keeps every partition that there is. -/
theorem register_find?_of_some {nonce : String} {connection cache : PropertyMap}
    {retention : Retention} (h : m.partitions.find? name = some p) :
    (m.register nonce connection cache retention).2.partitions.find? name = some p := by
  simp only [register]
  split
  · exact h
  · rename_i hnone
    rw [NameMap.find?_insert_of_ne]
    · exact h
    · rintro rfl
      rw [h] at hnone
      exact hnone rfl

/-- A session that was registered has a partition. -/
theorem register_find?_new (m : Memory) (nonce : String) (connection cache : PropertyMap)
    (retention : Retention) :
    ∃ p, (m.register nonce connection cache retention).2.partitions.find?
      (m.registry.register nonce connection cache).1.partition = some p := by
  simp only [register]
  split
  · rename_i h
    exact Option.isSome_iff_exists.1 h
  · exact ⟨_, NameMap.find?_insert_self _ _ _⟩

/-- A partition that registering a session has created is empty. -/
theorem register_find?_eq_some {nonce : String} {connection cache : PropertyMap}
    {retention : Retention}
    (h : (m.register nonce connection cache retention).2.partitions.find? name = some p) :
    m.partitions.find? name = some p ∨
      (m.partitions.find? name = none ∧ p = .empty retention) := by
  simp only [register] at h
  split at h
  · exact .inl h
  · rename_i hnone
    rw [NameMap.find?_insert] at h
    split at h
    · rename_i heq
      subst heq
      cases h
      exact .inr ⟨by simpa using hnone, rfl⟩
    · exact .inl h

end Memory

/-! ### Runs -/

/-- What callers ask of a store, or that time goes on. -/
inductive Operation where
  | configure (nonce : String) (connection cache : PropertyMap)
  | tryConfigure (nonce : String) (connection cache : PropertyMap)
  | get (id : SessionId) (url : Url) (request : Bytes)
  | put (id : SessionId) (url : Url) (request response : Bytes)
  | contains (id : SessionId) (url : Url) (request : Bytes)
  | purge
  | flush
  | sleep (ms : Nat)

/-- What callers are told. -/
inductive Outcome where
  | session (id : SessionId)
  | found (response : Option Bytes)
  | stored
  | held (b : Bool)
  | purged (n : Nat)
  | done
  | failed (e : CacheError)
deriving DecidableEq, Repr

/-- A store and the time in milliseconds. -/
structure Clocked where
  store : Memory
  now : Nat

namespace Clocked

/-- A store without sessions, at some time. -/
def fresh (defaults : Retention) (now : Nat) : Clocked :=
  ⟨.empty defaults, now⟩

/-- Do one operation. One that fails changes nothing. -/
def step (s : Clocked) : Operation → Outcome × Clocked
  | .configure nonce connection cache =>
    let (id, store) := s.store.configure nonce connection cache
    (.session id, { s with store })
  | .tryConfigure nonce connection cache =>
    match s.store.tryConfigure nonce connection cache with
    | .ok (id, store) => (.session id, { s with store })
    | .error e => (.failed e, s)
  | .get id url request =>
    match s.store.get s.now id url request with
    | .ok (response, store) => (.found response, { s with store })
    | .error e => (.failed e, s)
  | .put id url request response =>
    match s.store.put s.now id url request response with
    | .ok store => (.stored, { s with store })
    | .error e => (.failed e, s)
  | .contains id url request =>
    match (CacheKey.make id url request).bind (s.store.contains s.now) with
    | .ok b => (.held b, s)
    | .error e => (.failed e, s)
  | .purge =>
    let (n, store) := s.store.purge s.now
    (.purged n, { s with store })
  | .flush => (.done, { s with store := s.store.flush })
  | .sleep ms => (.done, { s with now := s.now + ms })

/-- Asking leaves everything as it was. -/
theorem step_contains (s : Clocked) (id : SessionId) (url : Url) (request : Bytes) :
    (s.step (.contains id url request)).2 = s := by
  rw [step]
  split <;> rfl

/-- Do operations, one after the other. -/
def run (s : Clocked) : List Operation → Clocked
  | [] => s
  | op :: ops => (s.step op).2.run ops

end Clocked

end OlapClient.Cache
