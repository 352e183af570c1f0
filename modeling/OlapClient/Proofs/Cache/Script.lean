import OlapClient.Proofs.Cache.Call

namespace OlapClient.Cache

open Location (Url)

/-!
# Operations as scripts

A store is changed in place, so that what an operation writes before it fails is not taken back. Here
each operation is a script: its checks, reads and writes, one after the other. The scripts do what the
operations do, and none of them writes before its last check.

* `Script`, `Script.runOn` — a script, and what it tells and leaves when it runs on a store.
* `Script.ReadsOnly`, `Script.NeverFails`, `Script.FailsClean` — a script that writes nothing, one
  that does not fail, and one that has written nothing when it fails.
* `Script.read`, `Script.keep`, `Script.ask`, `Script.enrol` — the scripts of the operations.
* `Operation.script`, `Clocked.perform` — the script of any operation, and doing it.
* `Clocked.step_eq_perform` — an operation does what its script does.
* `Operation.script_failsClean`, `Clocked.step_of_failed` — an operation that fails has written
  nothing.
-/

/-- A script on a store. What it writes before it fails stays written. -/
abbrev Script :=
  ExceptT CacheError (StateM Memory)

namespace Script

variable {α β : Type}

/-- What a script tells when it runs on a store, and the store that it leaves. -/
def runOn (x : Script α) (m : Memory) : Except CacheError α × Memory :=
  StateT.run (ExceptT.run x) m

variable {m : Memory}

@[simp] theorem runOn_pure (a : α) : (pure a : Script α).runOn m = (.ok a, m) :=
  rfl

/-- The store as it is. -/
def store : Script Memory :=
  get

@[simp] theorem runOn_store : store.runOn m = (.ok m, m) :=
  rfl

@[simp] theorem runOn_modify (f : Memory → Memory) :
    (modify f : Script PUnit).runOn m = (.ok ⟨⟩, f m) :=
  rfl

/-- A script goes on unless its first part fails, and then from the store that this part leaves. -/
@[simp] theorem runOn_bind (x : Script α) (f : α → Script β) :
    (x >>= f).runOn m = match x.runOn m with
      | (.ok a, m') => (f a).runOn m'
      | (.error e, m') => (.error e, m') := by
  show StateT.run (ExceptT.run (x >>= f)) m = _
  rw [ExceptT.run_bind]
  simp only [runOn, StateT.run_bind]
  rcases StateT.run (ExceptT.run x) m with ⟨_ | a, m'⟩ <;> rfl

@[simp] theorem runOn_map (x : Script α) (f : α → β) :
    (f <$> x).runOn m = match x.runOn m with
      | (.ok a, m') => (.ok (f a), m')
      | (.error e, m') => (.error e, m') := by
  rw [map_eq_pure_bind, runOn_bind]
  rfl

/-- Fail if a result is a failure. -/
def check (x : Except CacheError α) : Script α :=
  ExceptT.mk (pure x)

@[simp] theorem runOn_check (x : Except CacheError α) : (check x).runOn m = (x, m) :=
  rfl

/-! ### Failures -/

/-- A script writes nothing. -/
def ReadsOnly (x : Script α) : Prop :=
  ∀ m, (x.runOn m).2 = m

/-- A script does not fail. -/
def NeverFails (x : Script α) : Prop :=
  ∀ m e, (x.runOn m).1 ≠ .error e

/-- A script that fails has written nothing. -/
def FailsClean (x : Script α) : Prop :=
  ∀ m e, (x.runOn m).1 = .error e → (x.runOn m).2 = m

variable {x : Script α} {f : α → Script β}

theorem readsOnly_pure (a : α) : (pure a : Script α).ReadsOnly :=
  fun _ => rfl

theorem readsOnly_store : store.ReadsOnly :=
  fun _ => rfl

theorem readsOnly_check (x : Except CacheError α) : (check x).ReadsOnly :=
  fun _ => rfl

/-- After a script that writes nothing the next part finds the same store. -/
theorem ReadsOnly.runOn_bind (hx : x.ReadsOnly) (f : α → Script β) (m : Memory) :
    (x >>= f).runOn m = match (x.runOn m).1 with
      | .ok a => (f a).runOn m
      | .error e => (.error e, m) := by
  have hm := hx m
  rw [Script.runOn_bind]
  generalize x.runOn m = told at hm
  obtain ⟨e | a, m'⟩ := told <;> subst hm <;> rfl

theorem ReadsOnly.bind (hx : x.ReadsOnly) (hf : ∀ a, (f a).ReadsOnly) : (x >>= f).ReadsOnly := by
  intro m
  rw [hx.runOn_bind]
  cases (x.runOn m).1 with
  | error e => rfl
  | ok a => exact hf a m

theorem neverFails_pure (a : α) : (pure a : Script α).NeverFails :=
  fun _ _ => nofun

theorem neverFails_modify (g : Memory → Memory) : (modify g : Script PUnit).NeverFails :=
  fun _ _ => nofun

theorem NeverFails.bind (hx : x.NeverFails) (hf : ∀ a, (f a).NeverFails) :
    (x >>= f).NeverFails := by
  intro m e
  rw [runOn_bind]
  rcases hrun : x.runOn m with ⟨e' | a, m'⟩
  · exact absurd (congrArg Prod.fst hrun) (hx m e')
  · exact hf a m' e

theorem ReadsOnly.failsClean (hx : x.ReadsOnly) : x.FailsClean :=
  fun m _ _ => hx m

theorem NeverFails.failsClean (hx : x.NeverFails) : x.FailsClean :=
  fun m e h => absurd h (hx m e)

/-- Checks may come before a script that fails without having written. -/
theorem FailsClean.bind (hx : x.ReadsOnly) (hf : ∀ a, (f a).FailsClean) :
    (x >>= f).FailsClean := by
  intro m e
  rw [hx.runOn_bind]
  cases (x.runOn m).1 with
  | error e' => exact fun _ => rfl
  | ok a => exact hf a m e

/-- Such a script may be followed by one that does not fail. -/
theorem FailsClean.followed (hx : x.FailsClean) (hf : ∀ a, (f a).NeverFails) :
    (x >>= f).FailsClean := by
  intro m e
  rw [runOn_bind]
  rcases hrun : x.runOn m with ⟨e' | a, m'⟩
  · intro _
    have hclean := hx m e' (congrArg Prod.fst hrun)
    rwa [hrun] at hclean
  · exact fun h => absurd h (hf a m' e)

/-! ### The scripts of operations -/

/-- A request must not be empty. -/
def checkRequest (request : Bytes) : Script Unit :=
  check (if request = [] then .error .emptyRequest else .ok ())

/-- Find the partition of a session. -/
def partition (id : SessionId) : Script (String × Partition) := do
  check ((← store).partition id)

/-- Put a partition back. -/
def replace (name : String) (p : Partition) : Script Unit :=
  modify fun m => { m with partitions := m.partitions.insert name p }

/-- Count. -/
def count (f : Counters → Counters) : Script Unit :=
  modify fun m => { m with counters := f m.counters }

/-- Read the response of a request: check the request, find the partition, look up, count. -/
def read (now : Nat) (id : SessionId) (url : Url) (request : Bytes) : Script (Option Bytes) := do
  checkRequest request
  let (name, p) ← partition id
  let (found, p') := p.lookup now (.of url request)
  -- nothing is checked from here on
  replace name p'
  count (Memory.Counters.found · found)
  return Memory.Found.response? found

/-- Keep the response of a request: check the request, find the partition, insert, count. -/
def keep (now : Nat) (id : SessionId) (url : Url) (request response : Bytes) : Script Unit := do
  checkRequest request
  let (name, p) ← partition id
  let (cost, p') := p.insert now (.of url request) response
  -- nothing is checked from here on
  replace name p'
  count (Memory.Counters.paid · cost)

/-- Ask whether a request's response is held: make its key, find the partition, look. -/
def ask (now : Nat) (id : SessionId) (url : Url) (request : Bytes) : Script Bool := do
  let key ← check (CacheKey.make id url request)
  let (_, p) ← partition key.session
  return p.contains now key.entry

/-- Register a session: issue its id, and then create its partition unless it exists. -/
def enrol (nonce : String) (connection cache : PropertyMap) (retention : Retention) :
    Script SessionId := do
  let (session, registry) := (← store).registry.register nonce connection cache
  modify fun m => { m with registry }
  -- the session is registered already when its partition is looked for
  modify fun m => { m with
    partitions :=
      if (m.partitions.find? session.partition).isSome then m.partitions
      else m.partitions.insert session.partition (.empty retention) }
  return session.id

variable (now : Nat) (id : SessionId) (url : Url) (request response : Bytes)

theorem neverFails_enrol (nonce : String) (connection cache : PropertyMap)
    (retention : Retention) : (enrol nonce connection cache retention).NeverFails :=
  fun _ _ => nofun

theorem readsOnly_partition : (partition id).ReadsOnly :=
  readsOnly_store.bind fun m => readsOnly_check (m.partition id)

theorem readsOnly_ask : (ask now id url request).ReadsOnly :=
  (readsOnly_check _).bind fun key => (readsOnly_partition key.session).bind fun _ =>
    readsOnly_pure _

theorem failsClean_read : (read now id url request).FailsClean := by
  refine .bind (readsOnly_check _) fun _ => .bind (readsOnly_partition id) fun _ => ?_
  exact ((neverFails_modify _).bind fun _ => (neverFails_modify _).bind fun _ =>
    neverFails_pure _).failsClean

theorem failsClean_keep : (keep now id url request response).FailsClean := by
  refine .bind (readsOnly_check _) fun _ => .bind (readsOnly_partition id) fun _ => ?_
  exact ((neverFails_modify _).bind fun _ => neverFails_modify _).failsClean

/-! ### What the scripts do -/

theorem runOn_checkRequest : (checkRequest request).runOn m =
    (if request = [] then .error .emptyRequest else .ok (), m) :=
  rfl

theorem runOn_partition : (partition id).runOn m = (m.partition id, m) :=
  rfl

theorem runOn_read : (read now id url request).runOn m =
    match m.get now id url request with
    | .ok (found, m') => (.ok found, m')
    | .error e => (.error e, m) := by
  by_cases hr : request = []
  · simp [read, runOn_checkRequest, Memory.get, hr]
  · cases hp : m.partition id <;>
      simp [read, runOn_checkRequest, runOn_partition, Memory.get, hr, hp, replace, count]

theorem runOn_keep : (keep now id url request response).runOn m =
    match m.put now id url request response with
    | .ok m' => (.ok (), m')
    | .error e => (.error e, m) := by
  by_cases hr : request = []
  · simp [keep, runOn_checkRequest, Memory.put, hr]
  · cases hp : m.partition id <;>
      simp [keep, runOn_checkRequest, runOn_partition, Memory.put, hr, hp, replace, count]

theorem runOn_ask : (ask now id url request).runOn m =
    ((CacheKey.make id url request).bind (m.contains now), m) := by
  cases hkey : CacheKey.make id url request with
  | error e => simp [ask, hkey, Except.bind]
  | ok key =>
    cases hp : m.partition key.session <;>
      simp [ask, hkey, runOn_partition, Memory.contains, hp, Except.bind, Except.map]

theorem runOn_enrol (nonce : String) (connection cache : PropertyMap) (retention : Retention) :
    (enrol nonce connection cache retention).runOn m =
      (.ok (m.register nonce connection cache retention).1,
        (m.register nonce connection cache retention).2) :=
  rfl

end Script

/-! ### Operations -/

/-- The script of an operation. Letting time go on does nothing to a store. -/
def Operation.script (now : Nat) : Operation → Script Outcome
  | .configure nonce connection cache => do
    let retention := (← Script.store).defaults.overlayLossy cache
    return .session (← Script.enrol nonce connection cache retention)
  | .tryConfigure nonce connection cache => do
    let retention ← Script.check ((← Script.store).defaults.overlay cache)
    return .session (← Script.enrol nonce connection cache retention)
  | .get id url request => do
    return .found (← Script.read now id url request)
  | .put id url request response => do
    Script.keep now id url request response
    return .stored
  | .contains id url request => do
    return .held (← Script.ask now id url request)
  | .purge => do
    let (n, m) := (← Script.store).purge now
    modify fun _ => m
    return .purged n
  | .flush => do
    modify Memory.flush
    return .done
  | .sleep _ => return .done

/-- How long an operation takes. Only waiting takes time. -/
def Operation.lasts : Operation → Nat
  | .sleep ms => ms
  | _ => 0

/-- **An operation that fails has written nothing.** All checks of its script come before the first
write. -/
theorem Operation.script_failsClean (now : Nat) (op : Operation) : (op.script now).FailsClean := by
  -- telling the caller at the end does not fail
  have hend {α : Type} (f : α → Outcome) (a : α) :
      (pure (f a) : Script Outcome).NeverFails := Script.neverFails_pure (f a)
  cases op with
  | configure nonce connection cache =>
    refine .bind Script.readsOnly_store fun m => ?_
    exact ((Script.neverFails_enrol nonce connection cache _).bind (hend _)).failsClean
  | tryConfigure nonce connection cache =>
    refine .bind Script.readsOnly_store fun m => .bind (Script.readsOnly_check _) fun retention => ?_
    exact ((Script.neverFails_enrol nonce connection cache retention).bind (hend _)).failsClean
  | get id url request => exact (Script.failsClean_read now id url request).followed (hend _)
  | put id url request response =>
    exact (Script.failsClean_keep now id url request response).followed (hend _)
  | contains id url request =>
    exact (Script.readsOnly_ask now id url request).failsClean.followed (hend _)
  | purge =>
    refine .bind Script.readsOnly_store fun m => ?_
    exact ((Script.neverFails_modify _).bind (hend _)).failsClean
  | flush => exact ((Script.neverFails_modify _).bind (hend _)).failsClean
  | sleep ms => exact (Script.readsOnly_pure _).failsClean

/-- A call that finds its partition does not fail. -/
theorem Call.act_ne_failed (c : Call) (now : Nat) (p : Partition) (e : CacheError) :
    (c.act now p).outcome ≠ .failed e := by
  cases hd : c.demand <;> simp [act, hd]

namespace Clocked

variable {s : Clocked} {op : Operation}

/-- Do an operation by its script. What a script that fails has written stays. -/
def perform (s : Clocked) (op : Operation) : Outcome × Clocked :=
  match (op.script s.now).runOn s.store with
  | (.ok outcome, store) => (outcome, ⟨store, s.now + op.lasts⟩)
  | (.error e, store) => (.failed e, ⟨store, s.now + op.lasts⟩)

/-- An operation does what its script does. -/
theorem step_eq_perform (s : Clocked) (op : Operation) : s.step op = s.perform op := by
  cases op with
  | configure nonce connection cache => rfl
  | tryConfigure nonce connection cache =>
    cases h : s.store.defaults.overlay cache <;>
      simp [step, perform, Operation.script, Operation.lasts, Memory.tryConfigure, h,
        Script.runOn_enrol, Except.map]
  | get id url request =>
    cases h : s.store.get s.now id url request <;>
      simp [step, perform, Operation.script, Operation.lasts, Script.runOn_read, h]
  | put id url request response =>
    cases h : s.store.put s.now id url request response <;>
      simp [step, perform, Operation.script, Operation.lasts, Script.runOn_keep, h]
  | contains id url request =>
    cases h : (CacheKey.make id url request).bind (s.store.contains s.now) <;>
      simp [step, perform, Operation.script, Operation.lasts, Script.runOn_ask, h]
  | purge => rfl
  | flush => rfl
  | sleep ms => rfl

/-- An operation that fails leaves everything as it was. -/
theorem step_of_failed {e : CacheError} (h : (s.step op).1 = .failed e) : (s.step op).2 = s := by
  have hsteps := s.steps op
  generalize s.step op = r at h hsteps
  cases hsteps with
  | @called _ c _ =>
    obtain ⟨e', heq⟩ | ⟨name, p, _, heq⟩ := s.call_cases c
    · rw [heq]
    · -- a call fails before it acts on its partition, or not at all
      rw [heq] at h
      exact absurd h (c.act_ne_failed s.now p e)
  | refused => rfl
  | _ => cases h

end Clocked

end OlapClient.Cache
