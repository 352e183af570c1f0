import OlapClient.Proofs.Cache.WellFormed

namespace OlapClient.Cache

open Location (Url)

/-!
# Lazy expiry

Entries that have expired stay in a partition until something drops them, and nobody but the count
of expired entries can tell when that happens.

* `Partition.alive`, `Partition.purge_eq` — the entries whose age the timeout allows, and that a purge
  leaves these.
* `Partition.find?_purge_cases`, `Partition.makeRoom_purge` — finding an entry and making room in a
  partition, and in the same without its expired entries.
* `Partition.act_purge` — a call does the same to both.
* `Clocked.visible` — a store without expired entries and without their count.
* `Clocked.step_visible`, `Clocked.step_congr` — every operation does the same to two stores that
  are alike in this, and keeps them alike.
* `Memory.pruned`, `Clocked.eagerRun` — a store without expired entries, and a run of the store that
  drops every entry at once when it expires.
* `lazy_expiry_eq_eager` — the store and that one cannot be told apart.
-/

/-! ### Partitions without expired entries -/

/-- Counts but for that of expired entries. -/
def Counters.visible (c : Counters) : Counters :=
  { c with expirations := 0 }

/-- What has expired stays so. -/
theorem Entry.expired_mono {e : Entry} {timeout : Option Nat} {now later : Nat} (h : now ≤ later)
    (he : e.expired timeout now = true) : e.expired timeout later = true := by
  cases timeout with
  | none => cases he
  | some ms =>
    simp only [expired, decide_eq_true_eq] at he ⊢
    omega

namespace Partition

variable {p : Partition} {now : Nat} {key : EntryKey}

/-- The entries whose age the timeout allows. -/
def alive (p : Partition) (now : Nat) : List Entry :=
  p.entries.filter fun e => Within p.retention.timeout (now - e.storedAt)

/-- A purge leaves what is alive. -/
theorem purge_eq (p : Partition) (now : Nat) : p.purge now = { p with entries := p.alive now } := by
  refine congrArg (mk p.retention · p.lastNumber) (List.filter_congr fun e _ => ?_)
  rw [Bool.eq_iff_iff, Bool.not_eq_true', decide_eq_true_iff]
  exact expired_eq_false_iff e p.retention.timeout now

theorem mem_purge {e : Entry} :
    e ∈ (p.purge now).entries ↔ e ∈ p.entries ∧ p.hasExpired now e = false := by
  simp only [purge, List.mem_filter, Bool.not_eq_true']

theorem purge_purge (p : Partition) {later : Nat} (h : now ≤ later) :
    (p.purge now).purge later = p.purge later := by
  simp only [purge, hasExpired, List.filter_filter, Partition.mk.injEq, true_and, and_true]
  refine List.filter_congr fun e _ => ?_
  cases hnow : e.expired p.retention.timeout now with
  | false => simp
  | true => simp [Entry.expired_mono h hnow]

/-- What is found without the expired entries is what is found with them, unless it has expired. -/
theorem find?_purge_cases (hp : p.Distinct) (now : Nat) (key : EntryKey) :
    (p.find? key = none ∧ (p.purge now).find? key = none) ∨
    (∃ e, p.find? key = some e ∧ p.hasExpired now e = true ∧ (p.purge now).find? key = none) ∨
    (∃ e, p.find? key = some e ∧ p.hasExpired now e = false ∧
      (p.purge now).find? key = some e) := by
  cases hf : p.find? key with
  | none =>
    refine .inl ⟨rfl, find?_eq_none_iff.2 fun e he => ?_⟩
    exact find?_eq_none_iff.1 hf e (mem_purge.1 he).1
  | some e =>
    obtain ⟨he, rfl⟩ := mem_of_find? hf
    cases hx : p.hasExpired now e with
    | false =>
      refine .inr (.inr ⟨e, rfl, hx, ?_⟩)
      exact find?_of_mem (purge_distinct hp now) (mem_purge.2 ⟨he, hx⟩)
    | true =>
      refine .inr (.inl ⟨e, rfl, hx, find?_eq_none_iff.2 fun x hin hkey => ?_⟩)
      obtain ⟨hx', hlive⟩ := mem_purge.1 hin
      -- no other entry has the key
      have hsame := find?_of_mem hp hx'
      rw [hkey, hf] at hsame
      cases hsame
      rw [hx] at hlive
      cases hlive

theorem removeKey_purge (p : Partition) (now : Nat) (key : EntryKey) :
    removeKey key (p.purge now).entries = (removeKey key p.entries).filter (!p.hasExpired now ·) := by
  simp only [removeKey, purge, List.filter_filter, Bool.and_comm]

/-- A key of which no entry is alive may be removed before what has expired. -/
theorem purge_removeKey (h : (p.purge now).find? key = none) :
    Partition.purge { p with entries := removeKey key p.entries } now = p.purge now := by
  have hdrop := removeKey_eq_self (find?_eq_none_iff.1 h)
  rw [removeKey_purge] at hdrop
  exact congrArg (Partition.mk p.retention · p.lastNumber) hdrop

/-- Whether a partition is full of expired entries or without them, it gives up the same. -/
theorem makeRoom_purge (p : Partition) (now : Nat) :
    ((p.purge now).makeRoom now).1.evicted = (p.makeRoom now).1.evicted ∧
      ((p.purge now).makeRoom now).2.purge now = (p.makeRoom now).2.purge now := by
  have hle : (p.purge now).size ≤ p.size := (p.purge_entries_sublist now).length_le
  have hsame : (p.purge now).retention = p.retention := rfl
  by_cases hfull : p.retention.size ≤ p.size
  · -- both have lost what has expired before they give up anything
    simp only [makeRoom, if_pos hfull, purge_purge p (Nat.le_refl now), ite_self, true_and]
  · -- neither is full, and so both stay as they are
    have hlt : p.size < p.retention.size := Nat.lt_of_not_le hfull
    rw [makeRoom_of_lt hlt, makeRoom_of_lt (by rw [hsame]; omega), purge_purge p (Nat.le_refl now)]
    refine ⟨?_, rfl⟩
    have hspare : ¬ p.retention.size ≤ (p.purge now).size := by omega
    simp only [makeRoom, hsame, if_neg hfull, if_neg hspare]
    omega

/-- A partition without expired entries that has room gives up nothing. -/
theorem makeRoom_of_spare (hlive : p.purge now = p) (h : p.size + 1 ≤ max p.retention.size 1) :
    p.makeRoom now = (⟨0, 0⟩, p) := by
  have hcount : min (p.size + 1 - p.retention.size) p.size = 0 := by omega
  rw [makeRoom_of_live hlive, hcount, evict]

/-- Partitions that are alike without their expired entries stay so with one more entry. -/
theorem purge_push_congr {q : Partition} (h : p.purge now = q.purge now) (e : Entry) (number : Nat) :
    (Partition.mk p.retention (e :: p.entries) number).purge now =
      (Partition.mk q.retention (e :: q.entries) number).purge now := by
  have hretention : (p.purge now).retention = (q.purge now).retention := congrArg retention h
  have hentries : (p.purge now).entries = (q.purge now).entries := congrArg entries h
  simp only [purge] at hretention
  simp only [purge, hasExpired, hretention, List.filter_cons] at hentries ⊢
  rw [hentries]

theorem lookup_purge (hp : p.Distinct) (now : Nat) (key : EntryKey) :
    Memory.Found.response? ((p.purge now).lookup now key).1 =
        Memory.Found.response? (p.lookup now key).1 ∧
      ((p.purge now).lookup now key).2.purge now = (p.lookup now key).2.purge now ∧
      (Memory.Counters.found {} ((p.purge now).lookup now key).1).visible =
        (Memory.Counters.found {} (p.lookup now key).1).visible := by
  obtain ⟨hf, hf'⟩ | ⟨e, hf, hx, hf'⟩ | ⟨e, hf, hx, hf'⟩ := find?_purge_cases hp now key
  · simp only [lookup, hf, hf', purge_purge p (Nat.le_refl now), and_self]
  · -- the expired entry is dropped now, or it was before
    simp only [lookup, hf, hf', hx, if_true, purge_purge p (Nat.le_refl now)]
    exact ⟨rfl, (purge_removeKey hf').symm, rfl⟩
  · have hx' : (p.purge now).hasExpired now e = false := hx
    simp only [lookup, hf, hf', hx, hx', Bool.false_eq_true, if_false, removeKey_purge, true_and,
      and_true]
    simp only [purge, hasExpired, List.filter_cons, List.filter_filter, Bool.and_self]

theorem insert_purge (hp : p.WellFormed) (now : Nat) (key : EntryKey) (response : Bytes) :
    ((p.purge now).insert now key response).1.evicted = (p.insert now key response).1.evicted ∧
      ((p.purge now).insert now key response).2.purge now =
        (p.insert now key response).2.purge now := by
  obtain ⟨hf, hf'⟩ | ⟨e, hf, hx, hf'⟩ | ⟨e, hf, hx, hf'⟩ := find?_purge_cases hp.keys now key
  · -- a new key makes room in either
    obtain ⟨hevicted, hroom⟩ := makeRoom_purge p now
    simp only [insert, hf, hf', Option.isSome_none, Bool.false_eq_true, if_false]
    exact ⟨hevicted, purge_push_congr hroom _ _⟩
  · -- the expired entry is replaced, and without it there is room for a new key
    have hgone := purge_removeKey hf'
    have hbase : (p.purge now).purge now =
        Partition.purge { p with entries := removeKey key p.entries } now :=
      (purge_purge p (Nat.le_refl now)).trans hgone.symm
    have hless : (p.purge now).size + 1 ≤ p.size := by
      have hlength := size_removeKey hp.keys hf
      have hle : (p.purge now).size ≤ (removeKey key p.entries).length := by
        rw [← hgone]
        exact (purge_entries_sublist _ now).length_le
      omega
    have hspare := makeRoom_of_spare (purge_purge p (Nat.le_refl now))
      (Nat.le_trans hless hp.bounded)
    simp only [insert, hf, hf', Option.isSome_none, Option.isSome_some, Bool.false_eq_true,
      if_false, if_true, hspare, true_and]
    exact purge_push_congr hbase _ _
  · -- the entry is replaced in either
    have hbase : Partition.purge { p.purge now with entries := removeKey key (p.purge now).entries }
        now = Partition.purge { p with entries := removeKey key p.entries } now := by
      rw [removeKey_purge]
      simp only [purge, hasExpired, List.filter_filter, Bool.and_self]
    simp only [insert, hf, hf', Option.isSome_some, if_true, true_and]
    exact purge_push_congr hbase _ _

theorem contains_purge (hp : p.Distinct) (now : Nat) (key : EntryKey) :
    (p.purge now).contains now key = p.contains now key := by
  obtain ⟨hf, hf'⟩ | ⟨e, hf, hx, hf'⟩ | ⟨e, hf, hx, hf'⟩ := find?_purge_cases hp now key
  · simp only [contains, hf, hf']
  · simp only [contains, hf, hf', hx, Bool.not_true]
  · have hx' : (p.purge now).hasExpired now e = false := hx
    simp only [contains, hf, hf', hx, hx']

/-- A call does the same to a partition and to that without its expired entries, but for the count
of those. -/
theorem act_purge (hp : p.WellFormed) (c : Call) (now : Nat) :
    (c.act now (p.purge now)).outcome = (c.act now p).outcome ∧
      (c.act now (p.purge now)).partition.purge now = (c.act now p).partition.purge now ∧
      (c.act now (p.purge now)).counted.visible = (c.act now p).counted.visible := by
  cases hd : c.demand with
  | read =>
    obtain ⟨hfound, hpartition, hcounted⟩ := lookup_purge hp.keys now c.key
    simp only [Call.act, hd, hfound, hpartition, hcounted, and_self]
  | keep response =>
    obtain ⟨hevicted, hpartition⟩ := insert_purge hp now c.key response
    simp only [Call.act, hd, Memory.Counters.paid, Counters.visible, hevicted, hpartition, and_self]
  | ask =>
    simp only [Call.act, hd, contains_purge hp.keys, purge_purge p (Nat.le_refl now), and_self]

end Partition

/-! ### Stores without expired entries -/

/-- A store without expired entries and without their count. -/
def Memory.visible (m : Memory) (now : Nat) : Memory :=
  { m with
    partitions := m.partitions.map fun _ p => p.purge now
    counters := m.counters.visible }

namespace Memory

variable {m m' : Memory} {now : Nat}

theorem partition_visible (m : Memory) (now : Nat) (id : SessionId) :
    (m.visible now).partition id = (m.partition id).map fun np => (np.1, np.2.purge now) := by
  simp only [partition, visible]
  cases m.registry.partitionOf id with
  | error e => rfl
  | ok name =>
    simp only [NameMap.find?_map]
    cases m.partitions.find? name <;> rfl

/-- Stores with the same registry, defaults and counts are alike if their partitions are. -/
theorem visible_eq (hregistry : m.registry = m'.registry) (hdefaults : m.defaults = m'.defaults)
    (hcounters : m.counters.visible = m'.counters.visible)
    (hpartitions : ∀ name, (m.partitions.find? name).map (·.purge now) =
      (m'.partitions.find? name).map (·.purge now)) : m.visible now = m'.visible now := by
  simp only [visible, hregistry, hdefaults, hcounters, mk.injEq, true_and, and_true]
  exact NameMap.ext_find? fun name => by simpa only [NameMap.find?_map] using hpartitions name

theorem find?_visible (m : Memory) {later : Nat} (h : now ≤ later) (name : String) :
    ((m.visible now).partitions.find? name).map (·.purge later) =
      (m.partitions.find? name).map (·.purge later) := by
  simp only [visible, NameMap.find?_map, Option.map_map]
  refine congrArg (Option.map · _) (funext fun p => ?_)
  exact Partition.purge_purge p h

/-- What is no longer visible is not visible later. -/
theorem visible_visible (m : Memory) {later : Nat} (h : now ≤ later) :
    (m.visible now).visible later = m.visible later :=
  visible_eq rfl rfl rfl (m.find?_visible h)

theorem after_visible {name : String} {e e' : Effect}
    (hpartition : e'.partition.purge now = e.partition.purge now)
    (hcounted : e'.counted.visible = e.counted.visible) :
    ((m.visible now).after name e').visible now = (m.after name e).visible now := by
  refine visible_eq rfl rfl ?_ fun name' => ?_
  · have hcounts := hcounted
    simp only [Counters.visible, Counters.mk.injEq, and_true] at hcounts
    simp only [after, visible, Counters.add, Counters.visible, hcounts]
  · have hold := m.find?_visible (Nat.le_refl now) name'
    simp only [after, NameMap.find?_insert]
    split
    · exact congrArg some hpartition
    · exact hold

theorem register_visible (m : Memory) (now : Nat) (nonce : String)
    (connection cache : PropertyMap) (retention : Retention) :
    ((m.visible now).register nonce connection cache retention).2.visible now =
      (m.register nonce connection cache retention).2.visible now := by
  refine visible_eq rfl rfl rfl fun name => ?_
  have hold := m.find?_visible (Nat.le_refl now) name
  rw [register_find?, register_find?, Option.map_or, Option.map_or, hold]
  rfl

theorem purge_visible (m : Memory) (now : Nat) : (m.purge now).2.visible now = m.visible now := by
  refine visible_eq rfl rfl rfl fun name => ?_
  simp only [purge, NameMap.find?_map, Option.map_map]
  refine congrArg (Option.map · _) (funext fun p => ?_)
  exact Partition.purge_purge p (Nat.le_refl now)

/-- A store in which every partition holds what is alive, and nothing else. -/
def pruned (m : Memory) (now : Nat) : Memory :=
  { m with partitions := m.partitions.map fun _ p => { p with entries := p.alive now } }

theorem pruned_visible (m : Memory) (now : Nat) : (m.pruned now).visible now = m.visible now := by
  have hpartitions : (m.pruned now).partitions = (m.purge now).2.partitions := by
    simp only [pruned, purge, Partition.purge_eq]
  rw [← purge_visible m now]
  exact visible_eq rfl rfl rfl fun name => by rw [hpartitions]

theorem WellFormed.pruned (h : m.WellFormed) (now : Nat) : (m.pruned now).WellFormed :=
  h.map (fun _ hp => hp.of_sublist List.filter_sublist) rfl rfl

theorem flush_visible (m : Memory) (now : Nat) :
    (m.visible now).flush.visible now = m.flush.visible now := by
  refine visible_eq rfl rfl rfl fun name => ?_
  simp only [flush, visible, NameMap.find?_map, Option.map_map]
  rfl

end Memory

/-! ### Runs -/

/-- Whether an operation removes expired entries and does nothing else. -/
def Operation.isPurge : Operation → Bool
  | .purge => true
  | _ => false

/-- Operations but for those that only remove expired entries. -/
def withoutPurges (ops : List Operation) : List Operation :=
  ops.filter (!·.isPurge)

namespace Clocked

variable {s s' : Clocked}

/-- A store without what has expired by now and without the count of that. -/
def visible (s : Clocked) : Clocked :=
  { s with store := s.store.visible s.now }

theorem visible_visible (s : Clocked) : s.visible.visible = s.visible :=
  congrArg (Clocked.mk · s.now) (s.store.visible_visible (Nat.le_refl s.now))

theorem call_visible (h : s.store.WellFormed) (c : Call) :
    (s.visible.call c).1 = (s.call c).1 ∧
      (s.visible.call c).2.visible = (s.call c).2.visible := by
  have hpartition := s.store.partition_visible s.now c.session
  by_cases hr : c.request = []
  · rw [call_of_nil hr, call_of_nil hr]
    exact ⟨rfl, s.visible_visible⟩
  · cases hp : s.store.partition c.session with
    | error e =>
      rw [hp] at hpartition
      rw [call_of_error hr hp, call_of_error hr hpartition]
      exact ⟨rfl, s.visible_visible⟩
    | ok np =>
      obtain ⟨name, p⟩ := np
      rw [hp] at hpartition
      rw [call_of_partition hr hp, call_of_partition hr hpartition]
      have hwell := h.partitions name p (Memory.partition_eq_ok.1 hp).2
      obtain ⟨houtcome, hact, hcounted⟩ := Partition.act_purge hwell c s.now
      exact ⟨houtcome, congrArg (Clocked.mk · s.now) (Memory.after_visible hact hcounted)⟩

/-- An operation does the same whether what has expired is still there or not. -/
theorem step_visible (h : s.store.WellFormed) (op : Operation) :
    (op.isPurge = false → (s.visible.step op).1 = (s.step op).1) ∧
      (s.visible.step op).2.visible = (s.step op).2.visible := by
  induction op using Operation.cases_call with
  | call op c hop =>
    rw [step_eq_call hop, step_eq_call hop]
    exact (call_visible h c).imp_left fun heq _ => heq
  | configure nonce connection cache =>
    exact ⟨fun _ => rfl, congrArg (Clocked.mk · s.now)
      (s.store.register_visible s.now nonce connection cache _)⟩
  | tryConfigure nonce connection cache =>
    have hdefaults : s.visible.store.defaults = s.store.defaults := rfl
    simp only [step, Memory.tryConfigure, hdefaults]
    cases s.store.defaults.overlay cache with
    | error e => exact ⟨fun _ => rfl, s.visible_visible⟩
    | ok retention =>
      exact ⟨fun _ => rfl, congrArg (Clocked.mk · s.now)
        (s.store.register_visible s.now nonce connection cache retention)⟩
  | purge =>
    refine ⟨fun hpurge => absurd hpurge (by decide), congrArg (Clocked.mk · s.now) ?_⟩
    calc ((s.store.visible s.now).purge s.now).2.visible s.now
        = (s.store.visible s.now).visible s.now := Memory.purge_visible _ s.now
      _ = s.store.visible s.now := Memory.visible_visible _ (Nat.le_refl s.now)
      _ = (s.store.purge s.now).2.visible s.now := (Memory.purge_visible _ s.now).symm
  | flush => exact ⟨fun _ => rfl, congrArg (Clocked.mk · s.now) (s.store.flush_visible s.now)⟩
  | sleep ms =>
    refine ⟨fun _ => rfl, congrArg (Clocked.mk · (s.now + ms)) ?_⟩
    exact s.store.visible_visible (Nat.le_add_right s.now ms)

/-- Two stores that are alike without what has expired do the same, and stay alike. -/
theorem step_congr (h : s.store.WellFormed) (h' : s'.store.WellFormed)
    (heq : s.visible = s'.visible) (op : Operation) :
    (op.isPurge = false → (s.step op).1 = (s'.step op).1) ∧
      (s.step op).2.visible = (s'.step op).2.visible := by
  obtain ⟨hout, hsame⟩ := step_visible h op
  obtain ⟨hout', hsame'⟩ := step_visible h' op
  rw [heq] at hout hsame
  exact ⟨fun hop => (hout hop).symm.trans (hout' hop), hsame.symm.trans hsame'⟩

theorem run_congr (h : s.store.WellFormed) (h' : s'.store.WellFormed)
    (heq : s.visible = s'.visible) (ops : List Operation) :
    (s.run ops).visible = (s'.run ops).visible := by
  induction ops generalizing s s' with
  | nil => exact heq
  | cons op ops ih =>
    exact ih (wellFormed_step h op) (wellFormed_step h' op) (step_congr h h' heq op).2

/-- Removing what has expired changes nothing that is visible. -/
theorem step_purge_visible (s : Clocked) : (s.step .purge).2.visible = s.visible :=
  congrArg (Clocked.mk · s.now) (s.store.purge_visible s.now)

/-- What is visible after a run does not depend on what is purged in it. -/
theorem run_withoutPurges (h : s.store.WellFormed) (ops : List Operation) :
    (s.run ops).visible = (s.run (withoutPurges ops)).visible := by
  induction ops generalizing s with
  | nil => rfl
  | cons op ops ih =>
    have hrest := ih (wellFormed_step h op)
    cases hop : op.isPurge with
    | true =>
      have hdrop : withoutPurges (op :: ops) = withoutPurges ops :=
        List.filter_cons_of_neg (by simp [hop])
      have hsame : (s.step op).2.visible = s.visible := by
        cases op with
        | purge => exact s.step_purge_visible
        | _ => cases hop
      rw [hdrop, run, hrest]
      exact run_congr (wellFormed_step h op) h hsame (withoutPurges ops)
    | false =>
      have hkeep : withoutPurges (op :: ops) = op :: withoutPurges ops :=
        List.filter_cons_of_pos (by simp [hop])
      rw [hkeep]
      exact hrest

/-- A store without what has expired by now. -/
def pruned (s : Clocked) : Clocked :=
  { s with store := s.store.pruned s.now }

theorem pruned_visible (s : Clocked) : s.pruned.visible = s.visible :=
  congrArg (Clocked.mk · s.now) (s.store.pruned_visible s.now)

/-- Do one operation on a store from which every entry whose age exceeds the timeout is removed
first. -/
def eagerStep (s : Clocked) (op : Operation) : Outcome × Clocked :=
  s.pruned.step op

/-- Do operations, one after the other, on a store from which every entry is removed as soon as it
has expired. -/
def eagerRun (s : Clocked) : List Operation → Clocked
  | [] => s
  | op :: ops => (s.eagerStep op).2.eagerRun ops

theorem wellFormed_eagerStep (h : s.store.WellFormed) (op : Operation) :
    (s.eagerStep op).2.store.WellFormed :=
  wellFormed_step (s := s.pruned) (h.pruned s.now) op

theorem wellFormed_eagerRun (h : s.store.WellFormed) (ops : List Operation) :
    (s.eagerRun ops).store.WellFormed := by
  induction ops generalizing s with
  | nil => exact h
  | cons op ops ih => exact ih (wellFormed_eagerStep h op)

theorem eagerStep_congr (h : s.store.WellFormed) (h' : s'.store.WellFormed)
    (heq : s.visible = s'.visible) (op : Operation) :
    (op.isPurge = false → (s.step op).1 = (s'.eagerStep op).1) ∧
      (s.step op).2.visible = (s'.eagerStep op).2.visible :=
  step_congr h (h'.pruned s'.now) (heq.trans s'.pruned_visible.symm) op

theorem eagerRun_congr (h : s.store.WellFormed) (h' : s'.store.WellFormed)
    (heq : s.visible = s'.visible) (ops : List Operation) :
    (s.run ops).visible = (s'.eagerRun ops).visible := by
  induction ops generalizing s s' with
  | nil => exact heq
  | cons op ops ih =>
    exact ih (wellFormed_step h op) (wellFormed_eagerStep h' op) (eagerStep_congr h h' heq op).2

end Clocked

/-- Two counts agree on hits, misses and entries given up. -/
def Counters.Agree (c d : Counters) : Prop :=
  c.hits = d.hits ∧ c.misses = d.misses ∧ c.evictions = d.evictions

theorem Clocked.agree_of_visible {s s' : Clocked} (h : s.visible = s'.visible) :
    s.store.counters.Agree s'.store.counters := by
  have hcounters : s.store.counters.visible = s'.store.counters.visible :=
    congrArg (fun t => t.store.counters) h
  simp only [Counters.visible, Counters.mk.injEq, and_true] at hcounters
  exact ⟨hcounters.1, hcounters.2.1, hcounters.2.2.2⟩

/-- **Lazy expiry is eager expiry.** After any run of a store that began without sessions, every
operation but a purge tells its caller what the store would tell that removes every entry as soon as
it has expired, and both have counted the same hits, misses and entries given up. And so it is for
two runs that differ in purges only. -/
theorem lazy_expiry_eq_eager (defaults : Retention) (start : Nat) (ops : List Operation) :
    let s := Clocked.fresh defaults start
    let lazy := s.run ops
    let eager := s.eagerRun ops
    (∀ op, op.isPurge = false → (lazy.step op).1 = (eager.eagerStep op).1) ∧
    lazy.store.counters.Agree eager.store.counters ∧
    ∀ ops', withoutPurges ops' = withoutPurges ops →
      (∀ op, op.isPurge = false → ((s.run ops').step op).1 = (lazy.step op).1) ∧
      (s.run ops').store.counters.Agree lazy.store.counters := by
  intro s lazy eager
  have hs : s.store.WellFormed := Memory.wellFormed_empty defaults
  have hlazy : lazy.store.WellFormed := Clocked.wellFormed_run hs ops
  have heager : eager.store.WellFormed := Clocked.wellFormed_eagerRun hs ops
  have hsame : lazy.visible = eager.visible := Clocked.eagerRun_congr hs hs rfl ops
  refine ⟨fun op hop => (Clocked.eagerStep_congr hlazy heager hsame op).1 hop,
    Clocked.agree_of_visible hsame, fun ops' hops => ?_⟩
  have hother : (s.run ops').visible = lazy.visible := by
    rw [Clocked.run_withoutPurges hs ops', hops, ← Clocked.run_withoutPurges hs ops]
  exact ⟨fun op hop => (Clocked.step_congr (Clocked.wellFormed_run hs ops') hlazy hother op).1 hop,
    Clocked.agree_of_visible hother⟩

/-- A full partition of which one entry has expired: a put costs the other entry nothing, be what
has expired dropped by that put, at once, or by a purge before it. -/
theorem lazy_expiry_eq_eager_full_partition :
    let cache : PropertyMap := ((∅ : PropertyMap).insert "Size" "2").insert "Timeout" "1"
    let url : Url := ⟨"http", none, .segments [[]], none, none⟩
    let put (byte : UInt8) : Operation := .put ⟨"s1-a"⟩ url [byte] [byte]
    let start : List Operation := [.configure "a" ∅ cache, put 1, .sleep 600, put 2, .sleep 600]
    let ops := start ++ [put 3]
    let ops' := start ++ [.purge, put 3, .purge]
    let op : Operation := .get ⟨"s1-a"⟩ url [2]
    let s := Clocked.fresh .standard 0
    withoutPurges ops' = withoutPurges ops ∧ op.isPurge = false ∧
      ((s.run ops).step op).1 = .found (some [2]) ∧
      ((s.eagerRun ops).eagerStep op).1 = .found (some [2]) ∧
      ((s.run ops').step op).1 = .found (some [2]) ∧
      (s.run ops').store.counters.Agree (s.run ops).store.counters := by
  intro cache url put start ops ops' op s
  have hops : withoutPurges ops' = withoutPurges ops := rfl
  have hop : op.isPurge = false := rfl
  have hfound : ((s.run ops).step op).1 = .found (some [2]) := by decide +kernel
  have hall := lazy_expiry_eq_eager .standard 0 ops
  have hs : Clocked.fresh .standard 0 = s := rfl
  simp only [hs] at hall
  obtain ⟨heager, _, hpurges⟩ := hall
  obtain ⟨hsame, hcounters⟩ := hpurges ops' hops
  exact ⟨hops, hop, hfound, (heager op hop).symm.trans hfound, (hsame op hop).trans hfound,
    hcounters⟩

end OlapClient.Cache
