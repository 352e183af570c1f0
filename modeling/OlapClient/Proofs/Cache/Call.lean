import OlapClient.Proofs.Cache.Operation

namespace OlapClient.Cache

open Location (Url)

/-!
# Calls

Three operations are calls: a session reads, keeps or asks about the response of one request. A call
concerns the partition of its session, and beyond it only the counts of the store.

* `Call`, `Operation.call?` — the operations that are calls.
* `Operation.cases_call` — a case for calls and one for each of the other operations.
* `Call.act` — what a call does to a partition, whatever store the partition is in.
* `Clocked.call_cases`, `Clocked.step_eq_call` — an operation that is a call fails, or acts on the
  partition of its session.
* `Operation.retention?` — the settings that an operation asks for when it registers a session.
* `Clocked.Steps` — the six things that an operation can do.
* `Clocked.outcomes`, `Clocked.run_concat` — what callers are told in a run, and a run by its last
  operation.
-/

/-! ### Calls and what they do -/

/-- What a session wants of a request: to read its response, to keep one, or to ask whether there
is one. -/
inductive Demand where
  | read
  | keep (response : Bytes)
  | ask

/-- A session's demand for a request. -/
structure Call where
  session : SessionId
  url : Url
  request : Bytes
  demand : Demand

/-- The key of a call's request. -/
def Call.key (c : Call) : EntryKey :=
  .of c.url c.request

/-- The call that an operation is. -/
def Operation.call? : Operation → Option Call
  | .get id url request => some ⟨id, url, request, .read⟩
  | .put id url request response => some ⟨id, url, request, .keep response⟩
  | .contains id url request => some ⟨id, url, request, .ask⟩
  | _ => none

/-- To show something of all operations, show it of calls in one way, and of each of the others. -/
@[elab_as_elim]
theorem Operation.cases_call {motive : Operation → Prop}
    (call : ∀ op c, op.call? = some c → motive op)
    (configure : ∀ nonce connection cache, motive (.configure nonce connection cache))
    (tryConfigure : ∀ nonce connection cache, motive (.tryConfigure nonce connection cache))
    (purge : motive .purge) (flush : motive .flush) (sleep : ∀ ms, motive (.sleep ms))
    (op : Operation) : motive op := by
  cases op with
  | configure nonce connection cache => exact configure nonce connection cache
  | tryConfigure nonce connection cache => exact tryConfigure nonce connection cache
  | get id url request => exact call _ _ rfl
  | put id url request response => exact call _ _ rfl
  | contains id url request => exact call _ _ rfl
  | purge => exact purge
  | flush => exact flush
  | sleep ms => exact sleep ms

/-- What a call leads to: what the caller is told, the partition after it, and what is counted. -/
structure Effect where
  outcome : Outcome
  partition : Partition
  counted : Counters

/-- What a call does to a partition. -/
def Call.act (c : Call) (now : Nat) (p : Partition) : Effect :=
  match c.demand with
  | .read =>
    let (found, p') := p.lookup now c.key
    ⟨.found (Memory.Found.response? found), p', Memory.Counters.found {} found⟩
  | .keep response =>
    let (cost, p') := p.insert now c.key response
    ⟨.stored, p', Memory.Counters.paid {} cost⟩
  | .ask => ⟨.held (p.contains now c.key), p, {}⟩

/-- Counts put together. -/
def Counters.add (c d : Counters) : Counters :=
  ⟨c.hits + d.hits, c.misses + d.misses, c.inserts + d.inserts, c.evictions + d.evictions,
    c.expirations + d.expirations⟩

theorem Counters.add_right_comm (c d e : Counters) : (c.add d).add e = (c.add e).add d := by
  simp only [add, Nat.add_right_comm]

theorem Counters.found_eq_add (c : Counters) (f : Found) :
    Memory.Counters.found c f = c.add (Memory.Counters.found {} f) := by
  cases f <;> simp [Memory.Counters.found, add]

theorem Counters.paid_eq_add (c : Counters) (cost : Cost) :
    Memory.Counters.paid c cost = c.add (Memory.Counters.paid {} cost) := by
  simp [Memory.Counters.paid, add]

/-- A store after a call that led to something in a partition. -/
def Memory.after (m : Memory) (name : String) (e : Effect) : Memory :=
  { m with
    partitions := m.partitions.insert name e.partition
    counters := m.counters.add e.counted }

namespace Clocked

variable {s : Clocked} {op : Operation} {c : Call}

/-- Make a call. One without a request, or of a session without a partition, changes nothing. -/
def call (s : Clocked) (c : Call) : Outcome × Clocked :=
  if c.request = [] then (.failed .emptyRequest, s)
  else
    match s.store.partition c.session with
    | .error e => (.failed e, s)
    | .ok (name, p) =>
      ((c.act s.now p).outcome, { s with store := s.store.after name (c.act s.now p) })

theorem call_of_nil (h : c.request = []) : s.call c = (.failed .emptyRequest, s) :=
  if_pos h

theorem call_of_error {e : CacheError} (hr : c.request ≠ [])
    (he : s.store.partition c.session = .error e) : s.call c = (.failed e, s) := by
  simp only [call, if_neg hr, he]

theorem call_of_partition {name : String} {p : Partition} (hr : c.request ≠ [])
    (hp : s.store.partition c.session = .ok (name, p)) :
    s.call c =
      ((c.act s.now p).outcome, { s with store := s.store.after name (c.act s.now p) }) := by
  simp only [call, if_neg hr, hp]

/-- A call fails and changes nothing, or acts on the partition of its session. -/
theorem call_cases (s : Clocked) (c : Call) :
    (∃ e, s.call c = (.failed e, s)) ∨
    (∃ name p, s.store.partition c.session = .ok (name, p) ∧ s.call c =
      ((c.act s.now p).outcome, { s with store := s.store.after name (c.act s.now p) })) := by
  by_cases hr : c.request = []
  · exact .inl ⟨_, call_of_nil hr⟩
  · cases hp : s.store.partition c.session with
    | error e => exact .inl ⟨e, call_of_error hr hp⟩
    | ok np => exact .inr ⟨np.1, np.2, rfl, call_of_partition hr hp⟩

theorem call_now (s : Clocked) (c : Call) : (s.call c).2.now = s.now := by
  obtain ⟨e, heq⟩ | ⟨_, _, _, heq⟩ := s.call_cases c <;> rw [heq]

theorem call_registry (s : Clocked) (c : Call) :
    (s.call c).2.store.registry = s.store.registry := by
  obtain ⟨e, heq⟩ | ⟨_, _, _, heq⟩ := s.call_cases c <;> rw [heq]
  rfl

theorem call_defaults (s : Clocked) (c : Call) :
    (s.call c).2.store.defaults = s.store.defaults := by
  obtain ⟨e, heq⟩ | ⟨_, _, _, heq⟩ := s.call_cases c <;> rw [heq]
  rfl

/-- An operation that is a call acts on the partition of its session. -/
theorem step_eq_call (h : op.call? = some c) : s.step op = s.call c := by
  cases op with
  | get id url request =>
    cases h
    by_cases hr : request = []
    · simp [step, call, Memory.get, hr]
    · cases hp : s.store.partition id with
      | error e => simp [step, call, Memory.get, hr, hp]
      | ok np =>
        simp [step, call, Memory.get, hr, hp, Call.act, Memory.after, Call.key,
          ← Counters.found_eq_add]
  | put id url request response =>
    cases h
    by_cases hr : request = []
    · simp [step, call, Memory.put, hr]
    · cases hp : s.store.partition id with
      | error e => simp [step, call, Memory.put, hr, hp]
      | ok np =>
        simp [step, call, Memory.put, hr, hp, Call.act, Memory.after, Call.key,
          ← Counters.paid_eq_add]
  | contains id url request =>
    cases h
    by_cases hr : request = []
    · simp [step, call, CacheKey.make, hr, Except.bind]
    · cases hp : s.store.partition id with
      | error e =>
        simp [step, call, CacheKey.make, Memory.contains, hr, hp, Except.bind, Except.map]
      | ok np =>
        -- the partition is put back as it was, which is no change
        have hsame := NameMap.insert_eq_self (Memory.partition_eq_ok.1 hp).2
        simp [step, call, CacheKey.make, Memory.contains, hr, hp, Except.bind, Except.map,
          Call.act, Call.key, Memory.after, Counters.add, hsame]
  | _ => cases h

end Clocked

/-! ### Steps -/

/-- The settings that an operation asks for when it registers a session. -/
def Operation.retention? (defaults : Retention) : Operation → Option Retention
  | .configure _ _ cache => some (defaults.overlayLossy cache)
  | .tryConfigure _ _ cache => (defaults.overlay cache).toOption
  | _ => none

namespace Clocked

/-- What an operation can do: make a call, register a session with the settings that it asks for,
fail, remove what has expired, remove everything, or let time go on. -/
inductive Steps (s : Clocked) : Operation → Outcome × Clocked → Prop where
  | called {op : Operation} {c : Call} (h : op.call? = some c) : s.Steps op (s.call c)
  | enrolled {op : Operation} (nonce : String) (connection cache : PropertyMap)
      (retention : Retention) (h : op.retention? s.store.defaults = some retention) :
      s.Steps op (.session (s.store.register nonce connection cache retention).1,
        { s with store := (s.store.register nonce connection cache retention).2 })
  | refused {op : Operation} (e : CacheError) : s.Steps op (.failed e, s)
  | purged : s.Steps .purge
      (.purged (s.store.purge s.now).1, { s with store := (s.store.purge s.now).2 })
  | flushed : s.Steps .flush (.done, { s with store := s.store.flush })
  | slept (ms : Nat) : s.Steps (.sleep ms) (.done, { s with now := s.now + ms })

theorem steps (s : Clocked) (op : Operation) : s.Steps op (s.step op) := by
  induction op using Operation.cases_call with
  | call op c hop =>
    rw [step_eq_call hop]
    exact .called hop
  | configure nonce connection cache => exact .enrolled nonce connection cache _ rfl
  | tryConfigure nonce connection cache =>
    simp only [step, Memory.tryConfigure]
    cases h : s.store.defaults.overlay cache with
    | error e => exact .refused e
    | ok retention =>
      refine .enrolled nonce connection cache retention ?_
      rw [Operation.retention?, h]
      rfl
  | purge => exact .purged
  | flush => exact .flushed
  | sleep ms => exact .slept ms

/-- What the callers of operations are told, in order. -/
def outcomes (s : Clocked) : List Operation → List Outcome
  | [] => []
  | op :: ops => (s.step op).1 :: (s.step op).2.outcomes ops

theorem run_concat (s : Clocked) (ops : List Operation) (op : Operation) :
    s.run (ops ++ [op]) = ((s.run ops).step op).2 := by
  induction ops generalizing s with
  | nil => rfl
  | cons x xs ih => exact ih (s.step x).2

end Clocked

end OlapClient.Cache
