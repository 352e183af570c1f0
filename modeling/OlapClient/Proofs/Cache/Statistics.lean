import OlapClient.Proofs.Cache.WellFormed

namespace OlapClient.Cache

/-!
# Statistics

Every entry that was put is held, or has left the store on one of four ways, of which the store
counts two. The other two are told by the run.

* `Outcome.isFound`, `Outcome.isHit` — look-ups that did not fail, and those that found a response.
* `Clocked.replaced`, `Clocked.flushed` — the entries that an operation replaces or flushes.
* `Clocked.tally` — the sum over a run.
* `Call.act_balance`, `Clocked.balance_step`, `Clocked.balance_run` — no call, no step and so no
  run loses an entry or counts one twice.
* `statistics_conserve_entries` — the balance of a store that began without sessions.
-/

/-! ### What is told and what is lost -/

/-- A look-up that did not fail. -/
def Outcome.isFound : Outcome → Bool
  | .found _ => true
  | _ => false

/-- A look-up that found a response. -/
def Outcome.isHit : Outcome → Bool
  | .found (some _) => true
  | _ => false

namespace Clocked

/-- How many entries an operation replaces: one, if it is a put that succeeds and its key is held,
be it expired or not. -/
def replaced (s : Clocked) (op : Operation) : Nat :=
  match op with
  | .put id url request _ =>
    match (s.step op).1, s.store.partition id with
    | .stored, .ok (_, p) => if (p.find? (.of url request)).isSome then 1 else 0
    | _, _ => 0
  | _ => 0

/-- How many entries an operation flushes. -/
def flushed (s : Clocked) : Operation → Nat
  | .flush => s.store.size - s.store.flush.size
  | _ => 0

/-- The sum of what the operations of a run amount to, each in the state that it finds. -/
def tally (amount : Clocked → Operation → Nat) (s : Clocked) : List Operation → Nat
  | [] => 0
  | op :: ops => amount s op + (s.step op).2.tally amount ops

end Clocked

/-! ### Calls -/

namespace Call

/-- How many entries a call replaces in a partition. -/
def replaced (c : Call) (p : Partition) : Nat :=
  match c.demand with
  | .keep _ => if (p.find? c.key).isSome then 1 else 0
  | _ => 0

variable (c : Call) (now : Nat) (p : Partition)

/-- What a call counts is what its caller is told. -/
theorem act_counted :
    (c.act now p).counted.inserts = (if (c.act now p).outcome = .stored then 1 else 0) ∧
    (c.act now p).counted.hits + (c.act now p).counted.misses =
      (if (c.act now p).outcome.isFound then 1 else 0) ∧
    (c.act now p).counted.hits = (if (c.act now p).outcome.isHit then 1 else 0) := by
  cases hd : c.demand with
  | read =>
    simp only [act, hd]
    cases (p.lookup now c.key).1 <;>
      simp [Memory.Counters.found, Memory.Found.response?, Outcome.isFound, Outcome.isHit]
  | keep response => simp [act, hd, Memory.Counters.paid, Outcome.isFound, Outcome.isHit]
  | ask => simp [act, hd, Outcome.isFound, Outcome.isHit]

variable {p}

/-- An entry that a call adds is held after it, and one that it removes is counted, or replaced. -/
theorem act_balance (hp : p.Distinct) :
    (c.act now p).partition.size + (c.act now p).counted.evictions +
      (c.act now p).counted.expirations + c.replaced p =
        p.size + (c.act now p).counted.inserts := by
  cases hd : c.demand with
  | read =>
    simp only [act, replaced, hd]
    obtain ⟨_, heq⟩ | ⟨e, hf, _, heq⟩ | ⟨e, hf, _, heq⟩ := p.lookup_cases now c.key
    · simp [heq, Memory.Counters.found]
    · have hlength := Partition.size_removeKey hp hf
      simp only [heq, Memory.Counters.found, Partition.size] at hlength ⊢
      omega
    · have hlength := Partition.size_removeKey hp hf
      simp only [heq, Memory.Counters.found, Partition.size, List.length_cons] at hlength ⊢
      omega
  | keep response =>
    have hcost := Partition.insert_cost hp now c.key response
    simp only [act, replaced, hd, Memory.Counters.paid, Nat.zero_add]
    omega
  | ask => simp [act, replaced, hd]

end Call

/-! ### Stores -/

namespace Memory

/-- The entries that are held, and those that the store has counted out. -/
def accounted (m : Memory) : Nat :=
  m.size + m.counters.evictions + m.counters.expirations

variable {m : Memory}

theorem size_after {name : String} {p : Partition} (hp : m.partitions.find? name = some p)
    (e : Effect) : (m.after name e).size + p.size = m.size + e.partition.size := by
  have htotal := NameMap.total_insert m.partitions Partition.size name e.partition
  rw [hp] at htotal
  exact htotal

/-- A partition that registering a session creates is empty. -/
theorem size_register (nonce : String) (connection cache : PropertyMap) (retention : Retention) :
    (m.register nonce connection cache retention).2.size = m.size := by
  simp only [register, size]
  split
  · rfl
  · rename_i hnone
    have htotal := NameMap.total_insert m.partitions Partition.size
      (m.registry.register nonce connection cache).1.partition (.empty retention)
    rw [Option.not_isSome_iff_eq_none.1 hnone] at htotal
    exact htotal

theorem size_flush_le : m.flush.size ≤ m.size :=
  NameMap.total_map_le m.partitions Partition.size _ fun _ _ => Nat.zero_le _

/-- Purging counts every entry that it removes. -/
theorem accounted_purge (now : Nat) : (m.purge now).2.accounted = m.accounted := by
  have hle : (m.purge now).2.size ≤ m.size :=
    NameMap.total_map_le m.partitions Partition.size _
      fun _ p => (p.purge_entries_sublist now).length_le
  have hcount : (m.purge now).2.counters.expirations =
      m.counters.expirations + (m.size - (m.purge now).2.size) := rfl
  have hevictions : (m.purge now).2.counters.evictions = m.counters.evictions := rfl
  simp only [accounted]
  omega

end Memory

/-! ### Runs -/

namespace Clocked

variable {s : Clocked}

/-- Nothing is replaced where nothing is stored. -/
theorem replaced_eq_zero {op : Operation} (h : (s.step op).1 ≠ .stored) : s.replaced op = 0 := by
  cases op with
  | put id url request response =>
    simp only [replaced]
    split
    · rename_i hstored _
      exact absurd hstored h
    · rfl
  | _ => rfl

theorem flushed_eq_zero {op : Operation} (h : (s.step op).1 ≠ .done) : s.flushed op = 0 := by
  cases op with
  | flush => exact absurd rfl h
  | _ => rfl

/-- What an operation replaces is what its call replaces in the partition of its session. -/
theorem replaced_of_acts {op : Operation} {c : Call} (hcall : op.call? = some c) {name : String}
    {p : Partition} (hp : s.store.partition c.session = .ok (name, p))
    (hout : (s.step op).1 = (c.act s.now p).outcome) : s.replaced op = c.replaced p := by
  cases op with
  | put id url request response =>
    cases hcall
    simp only [replaced, hout, hp, Call.act, Call.replaced]
    rfl
  | get id url request =>
    cases hcall
    rfl
  | contains id url request =>
    cases hcall
    rfl
  | _ => cases hcall

/-- Every entry that a step adds is held after it, and one that it removes is counted, replaced or
flushed. -/
theorem balance_step (h : s.store.WellFormed) (op : Operation) :
    (s.step op).2.store.accounted + s.replaced op + s.flushed op + s.store.counters.inserts =
      s.store.accounted + (s.step op).2.store.counters.inserts := by
  have hstep := s.steps op
  generalize hr : s.step op = r at hstep ⊢
  cases hstep with
  | called hcall =>
    rename_i c
    obtain ⟨e, heq⟩ | ⟨name, p, hp, heq⟩ := s.call_cases c
    · rw [replaced_eq_zero (by simp [hr, heq]), flushed_eq_zero (by simp [hr, heq]), heq]
      rfl
    · -- the call acts on one partition, which keeps the balance there
      have hf := (Memory.partition_eq_ok.1 hp).2
      have hbalance := c.act_balance s.now (h.partitions name p hf).keys
      have hsize := Memory.size_after hf (c.act s.now p)
      have hdone : (c.act s.now p).outcome ≠ .done := by
        cases hd : c.demand <;> simp [Call.act, hd]
      rw [replaced_of_acts hcall hp (by rw [hr, heq]), flushed_eq_zero (by simpa [hr, heq]), heq]
      simp only [Memory.accounted, Memory.after, Counters.add] at hsize ⊢
      omega
  | enrolled nonce connection cache retention =>
    rw [replaced_eq_zero (by simp [hr]), flushed_eq_zero (by simp [hr])]
    simp only [Memory.accounted, Memory.size_register]
    rfl
  | refused e =>
    rw [replaced_eq_zero (by simp [hr]), flushed_eq_zero (by simp [hr])]
    rfl
  | purged =>
    rw [replaced_eq_zero (by simp [hr]), flushed_eq_zero (by simp [hr])]
    have haccounted := s.store.accounted_purge s.now
    have hinserts : (s.store.purge s.now).2.counters.inserts = s.store.counters.inserts := rfl
    simp only
    omega
  | flushed =>
    have hle := s.store.size_flush_le
    have hcounters : s.store.flush.counters = s.store.counters := rfl
    rw [replaced_eq_zero (by simp [hr])]
    simp only [flushed, Memory.accounted, hcounters]
    omega
  | slept ms => rfl

/-- A run keeps the balance of what is held, counted out, replaced and flushed. -/
theorem balance_run (h : s.store.WellFormed) (ops : List Operation) :
    (s.run ops).store.accounted + s.tally replaced ops + s.tally flushed ops +
      s.store.counters.inserts = s.store.accounted + (s.run ops).store.counters.inserts := by
  induction ops generalizing s with
  | nil => rfl
  | cons op ops ih =>
    have hstep := balance_step h op
    have hrest := ih (wellFormed_step h op)
    simp only [run, tally]
    omega

/-- What a step counts is what its caller is told. -/
theorem counters_step (s : Clocked) (op : Operation) :
    (s.step op).2.store.counters.inserts =
      s.store.counters.inserts + (if (s.step op).1 = .stored then 1 else 0) ∧
    (s.step op).2.store.counters.hits + (s.step op).2.store.counters.misses =
      s.store.counters.hits + s.store.counters.misses + (if (s.step op).1.isFound then 1 else 0) ∧
    (s.step op).2.store.counters.hits =
      s.store.counters.hits + (if (s.step op).1.isHit then 1 else 0) := by
  have hstep := s.steps op
  generalize s.step op = r at hstep ⊢
  cases hstep with
  | called hcall =>
    rename_i c
    obtain ⟨e, heq⟩ | ⟨name, p, hp, heq⟩ := s.call_cases c
    · simp [heq, Outcome.isFound, Outcome.isHit]
    · obtain ⟨hinserts, hfound, hhits⟩ := c.act_counted s.now p
      simp only [heq, Memory.after, Counters.add]
      omega
  | enrolled nonce connection cache retention =>
    simp [Memory.register, Outcome.isFound, Outcome.isHit]
  | refused e => simp [Outcome.isFound, Outcome.isHit]
  | purged => simp [Memory.purge, Outcome.isFound, Outcome.isHit]
  | flushed => simp [Memory.flush, Outcome.isFound, Outcome.isHit]
  | slept ms => simp [Outcome.isFound, Outcome.isHit]

/-- What a run counts is how often its callers were told. -/
theorem counters_run (s : Clocked) (ops : List Operation) :
    (s.run ops).store.counters.inserts =
      s.store.counters.inserts + (s.outcomes ops).count .stored ∧
    (s.run ops).store.counters.hits + (s.run ops).store.counters.misses =
      s.store.counters.hits + s.store.counters.misses + (s.outcomes ops).countP (·.isFound) ∧
    (s.run ops).store.counters.hits =
      s.store.counters.hits + (s.outcomes ops).countP (·.isHit) := by
  induction ops generalizing s with
  | nil => simp [run, outcomes]
  | cons op ops ih =>
    obtain ⟨hinserts, hfound, hhits⟩ := counters_step s op
    obtain ⟨hinserts', hfound', hhits'⟩ := ih (s.step op).2
    simp only [run, outcomes, List.count_cons, List.countP_cons, beq_iff_eq]
    omega

theorem length_outcomes (s : Clocked) (ops : List Operation) :
    (s.outcomes ops).length = ops.length := by
  induction ops generalizing s with
  | nil => rfl
  | cons op ops ih => exact congrArg Nat.succ (ih _)

end Clocked

/-- **Statistics conserve entries.** After any run of a store that began without sessions, every
entry that was put is held, was given up, has expired, was replaced by a put of its key, or was
flushed, and is counted once. The store counts a put, a look-up and a hit for each that its callers
were told of. No count is greater than the number of operations. -/
theorem statistics_conserve_entries (defaults : Retention) (start : Nat) (ops : List Operation) :
    let s := Clocked.fresh defaults start
    let told := s.outcomes ops
    let stats := (s.run ops).store.stats
    let counters := stats.counters
    counters.inserts = stats.entries + counters.evictions + counters.expirations +
      s.tally Clocked.replaced ops + s.tally Clocked.flushed ops ∧
    counters.inserts = told.count .stored ∧
    counters.hits + counters.misses = told.countP (·.isFound) ∧
    counters.hits = told.countP (·.isHit) ∧
    (s.run ops).store.size = stats.entries ∧
    counters.inserts ≤ ops.length ∧ counters.evictions ≤ ops.length ∧
      counters.expirations ≤ ops.length ∧ counters.hits + counters.misses ≤ ops.length := by
  intro s told stats counters
  have hbalance := Clocked.balance_run (s := s) (Memory.wellFormed_empty defaults) ops
  obtain ⟨hinserts, hfound, hhits⟩ := Clocked.counters_run s ops
  -- a store without sessions has counted nothing and holds nothing
  have hstart : s.store.accounted = 0 := rfl
  have hzero : s.store.counters = {} := rfl
  simp only [hzero, hstart, Nat.zero_add, Nat.add_zero] at hbalance hinserts hfound hhits
  have hputs : (s.outcomes ops).count .stored ≤ (s.outcomes ops).length := List.count_le_length
  have hgets : (s.outcomes ops).countP (·.isFound) ≤ (s.outcomes ops).length :=
    List.countP_le_length
  have hlength := Clocked.length_outcomes s ops
  have hentries : stats.entries = (s.run ops).store.size := rfl
  have hcounters : counters = (s.run ops).store.counters := rfl
  simp only [Memory.accounted] at hbalance
  rw [hentries, hcounters]
  refine ⟨by omega, hinserts, hfound, hhits, rfl, ?_⟩
  omega

end OlapClient.Cache
