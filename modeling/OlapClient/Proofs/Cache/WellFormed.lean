import Mathlib.Data.List.Induction
import OlapClient.Proofs.Cache.Call
import OlapClient.Proofs.Cache.Issued
import OlapClient.Proofs.Cache.Retention

namespace OlapClient.Cache

open Location (Url)

/-!
# Well-formed stores

What holds of a store in memory at any time, whatever its callers do.

* `Partition.WellFormed` — keys and numbers are distinct, and the size is kept.
* `Registry.WellFormed`, `Memory.WellFormed` — sessions and partitions belong together.
* `Clocked.wellFormed_step`, `Clocked.wellFormed_run` — every step, and so every run, keeps this.
* `Clocked.Creates` — an operation registers the first session of a partition.
* `representation_invariant` — all of it about a store that began without sessions, and that each
  partition has the settings that its first session asked for.
-/

/-! ### Partitions -/

namespace Partition

/-- No key and no number is held twice, numbers have been given out, and there are no more entries
than the size admits. A partition whose size is zero still holds one entry. -/
structure WellFormed (p : Partition) : Prop where
  keys : p.Distinct
  numbers : (p.entries.map (·.number)).Nodup
  numbered : ∀ e ∈ p.entries, 1 ≤ e.number ∧ e.number ≤ p.lastNumber
  bounded : p.size ≤ max p.retention.size 1

theorem wellFormed_empty (retention : Retention) : (empty retention).WellFormed where
  keys := List.nodup_nil
  numbers := List.nodup_nil
  numbered e he := by cases he
  bounded := Nat.zero_le _

namespace WellFormed

variable {p : Partition}

/-- Losing entries does no harm. -/
theorem of_sublist (h : p.WellFormed) {entries : List Entry} (hsub : entries.Sublist p.entries) :
    WellFormed { p with entries } where
  keys := h.keys.sublist (hsub.map _)
  numbers := h.numbers.sublist (hsub.map _)
  numbered e he := h.numbered e (hsub.subset he)
  bounded := Nat.le_trans hsub.length_le h.bounded

theorem purge (h : p.WellFormed) (now : Nat) : (p.purge now).WellFormed :=
  h.of_sublist (purge_entries_sublist p now)

theorem clear (h : p.WellFormed) : p.clear.WellFormed :=
  h.of_sublist (List.nil_sublist _)

theorem lookup (h : p.WellFormed) (now : Nat) (key : EntryKey) :
    (p.lookup now key).2.WellFormed := by
  obtain ⟨_, heq⟩ | ⟨e, _, _, heq⟩ | ⟨e, hf, _, heq⟩ := lookup_cases p now key
  · rw [heq]
    exact h
  · rw [heq]
    exact h.of_sublist (removeKey_sublist key p.entries)
  · -- the entry that is hit moves to the front, and a hit changes neither its key nor its number
    obtain ⟨he, rfl⟩ := mem_of_find? hf
    have hperm := cons_removeKey_perm h.keys he
    rw [heq]
    refine ⟨(hperm.map Entry.key).nodup_iff.2 h.keys, (hperm.map Entry.number).nodup_iff.2 h.numbers,
      fun x hx => ?_, Nat.le_trans (Nat.le_of_eq hperm.length_eq) h.bounded⟩
    rcases List.mem_cons.1 hx with rfl | hin
    · exact h.numbered e he
    · exact h.numbered x (mem_removeKey.1 hin).1

theorem insert (h : p.WellFormed) (now : Nat) (key : EntryKey) (response : Bytes) :
    (p.insert now key response).2.WellFormed := by
  have hsize := insert_size_le h.keys h.bounded now key response
  obtain ⟨kept, heq, hsub, _⟩ := insert_spec p now key response
  have hold : kept.Sublist p.entries := hsub.trans (removeKey_sublist key p.entries)
  rw [heq] at hsize ⊢
  refine ⟨?_, ?_, fun e he => ?_, hsize⟩
  · refine List.nodup_cons.2 ⟨fun hmem => ?_, h.keys.sublist (hold.map _)⟩
    obtain ⟨e, he, hkey⟩ := List.mem_map.1 hmem
    exact (mem_removeKey.1 (hsub.subset he)).2 hkey
  · -- the new number is beyond all that were given out
    refine List.nodup_cons.2 ⟨fun hmem => ?_, h.numbers.sublist (hold.map _)⟩
    obtain ⟨e, he, hnumber⟩ := List.mem_map.1 hmem
    have hle := (h.numbered e (hold.subset he)).2
    simp only at hnumber
    omega
  · rcases List.mem_cons.1 he with rfl | hin
    · exact ⟨Nat.succ_pos _, Nat.le_refl _⟩
    · have hnumber := h.numbered e (hold.subset hin)
      exact ⟨hnumber.1, Nat.le_succ_of_le hnumber.2⟩

theorem act (h : p.WellFormed) (c : Call) (now : Nat) : (c.act now p).partition.WellFormed := by
  cases hd : c.demand with
  | read => simpa only [Call.act, hd] using h.lookup now c.key
  | keep response => simpa only [Call.act, hd] using h.insert now c.key response
  | ask => simpa only [Call.act, hd] using h

end WellFormed

theorem act_retention (c : Call) (now : Nat) (p : Partition) :
    (c.act now p).partition.retention = p.retention := by
  cases hd : c.demand with
  | read => simp only [Call.act, hd, lookup_retention]
  | keep response =>
    obtain ⟨kept, heq, _⟩ := insert_spec p now c.key response
    simp only [Call.act, hd, heq]
  | ask => simp only [Call.act, hd]

end Partition

/-! ### Registries -/

namespace Registry

/-- Ids are numbered, every session is found under its id, and its partition is the one that sharing
and its properties give it. -/
structure WellFormed (r : Registry) : Prop where
  numbered : r.Numbered
  found : ∀ x ∈ r.sessions, r.lookup x.id = .ok x
  placed : ∀ x ∈ r.sessions, x.partition = r.sharing.partition x.id x.cacheProperties

theorem wellFormed_empty (sharing : Sharing) : (empty sharing).WellFormed where
  numbered := numbered_empty sharing
  found x hx := by cases hx
  placed x hx := by cases hx

theorem WellFormed.register {r : Registry} (h : r.WellFormed) (nonce : String)
    (connection cache : PropertyMap) : (r.register nonce connection cache).2.WellFormed where
  numbered := h.numbered.register nonce connection cache
  found x hx := by
    rcases List.mem_cons.1 hx with rfl | hold
    · exact r.lookup_register_self nonce connection cache
    · exact lookup_register_of_ok h.numbered (h.found x hold) nonce connection cache
  placed x hx := by
    rcases List.mem_cons.1 hx with rfl | hold
    · rfl
    · exact h.placed x hold

/-- An id that no session has was never issued. -/
theorem partitionOf_of_unknown {r : Registry} {id : SessionId} (h : ∀ x ∈ r.sessions, x.id ≠ id) :
    r.partitionOf id = .error (.uninitialized id) := by
  have hf : r.sessions.find? (·.id == id) = none := by simpa using h
  simp only [partitionOf, lookup, hf]
  rfl

end Registry

/-! ### Stores -/

namespace Memory

/-- Registry and partitions are well formed, every session has a partition, and every partition a
session. -/
structure WellFormed (m : Memory) : Prop where
  registry : m.registry.WellFormed
  partitions : ∀ name p, m.partitions.find? name = some p → p.WellFormed
  housed : ∀ x ∈ m.registry.sessions, ∃ p, m.partitions.find? x.partition = some p
  owned : ∀ name p, m.partitions.find? name = some p → ∃ x ∈ m.registry.sessions, x.partition = name

variable {m : Memory}

theorem wellFormed_empty (defaults : Retention) : (empty defaults).WellFormed where
  registry := Registry.wellFormed_empty _
  partitions name p h := by
    rw [empty, NameMap.find?_empty] at h
    cases h
  housed x hx := by cases hx
  owned name p h := by
    rw [empty, NameMap.find?_empty] at h
    cases h

namespace WellFormed

theorem register (h : m.WellFormed) (nonce : String) (connection cache : PropertyMap)
    (retention : Retention) : (m.register nonce connection cache retention).2.WellFormed where
  registry := h.registry.register nonce connection cache
  partitions name p hp := by
    rcases register_find?_eq_some hp with hold | ⟨_, rfl⟩
    · exact h.partitions name p hold
    · exact Partition.wellFormed_empty retention
  housed x hx := by
    rcases List.mem_cons.1 hx with rfl | hold
    · exact m.register_find?_new nonce connection cache retention
    · obtain ⟨p, hp⟩ := h.housed x hold
      exact ⟨p, register_find?_of_some hp⟩
  owned name p hp := by
    rw [register_find?] at hp
    cases hold : m.partitions.find? name with
    | some q =>
      obtain ⟨x, hx, hname⟩ := h.owned name q hold
      exact ⟨x, List.mem_cons_of_mem _ hx, hname⟩
    | none =>
      -- the partition is new, and so it is that of the new session
      rw [hold, Option.none_or] at hp
      split at hp
      · rename_i hname
        exact ⟨_, List.mem_cons_self, hname⟩
      · cases hp

/-- The partitions may be changed one by one, if none is added or removed. -/
theorem change (h : m.WellFormed) {m' : Memory} (hregistry : m'.registry = m.registry)
    (hold : ∀ name, (m'.partitions.find? name).isSome = (m.partitions.find? name).isSome)
    (hnew : ∀ name p', m'.partitions.find? name = some p' → p'.WellFormed) : m'.WellFormed where
  registry := by
    rw [hregistry]
    exact h.registry
  partitions := hnew
  housed x hx := by
    rw [hregistry] at hx
    obtain ⟨p, hp⟩ := h.housed x hx
    rw [← Option.isSome_iff_exists, hold, hp]
    rfl
  owned name p' hp' := by
    have hsome := hold name
    rw [hp', Option.isSome_some, eq_comm, Option.isSome_iff_exists] at hsome
    obtain ⟨p, hp⟩ := hsome
    rw [hregistry]
    exact h.owned name p hp

theorem after (h : m.WellFormed) {name : String} {p : Partition}
    (hp : m.partitions.find? name = some p) {e : Effect} (he : e.partition.WellFormed) :
    (m.after name e).WellFormed := by
  refine h.change rfl (fun name' => ?_) fun name' q hq => ?_
  · rw [Memory.after, NameMap.find?_insert]
    split
    · rename_i heq
      rw [← heq, hp]
      rfl
    · rfl
  · rw [Memory.after, NameMap.find?_insert] at hq
    split at hq
    · cases hq
      exact he
    · exact h.partitions name' q hq

/-- All partitions may be changed in one way. -/
theorem map (h : m.WellFormed) {f : Partition → Partition}
    (hf : ∀ p, p.WellFormed → (f p).WellFormed) {m' : Memory} (hregistry : m'.registry = m.registry)
    (hpartitions : m'.partitions = m.partitions.map fun _ p => f p) : m'.WellFormed := by
  refine h.change hregistry (fun name => ?_) fun name p' hp' => ?_
  · rw [hpartitions, NameMap.find?_map, Option.isSome_map]
  · rw [hpartitions, NameMap.find?_map, Option.map_eq_some_iff] at hp'
    obtain ⟨p, hp, rfl⟩ := hp'
    exact hf p (h.partitions name p hp)

/-- A session's id leads to its partition. -/
theorem partition_of_session (h : m.WellFormed) {x : Session} (hx : x ∈ m.registry.sessions) :
    ∃ p, m.partition x.id = .ok (x.partition, p) := by
  obtain ⟨p, hp⟩ := h.housed x hx
  exact ⟨p, partition_eq_ok.2 ⟨Registry.partitionOf_of_lookup (h.registry.found x hx), hp⟩⟩

end WellFormed

end Memory

/-! ### Runs -/

/-- No operation asks for a size of zero, if the settings that sessions start from do not. -/
theorem Operation.retention?_size_pos {op : Operation} {defaults retention : Retention}
    (hdefaults : 1 ≤ defaults.size) (h : op.retention? defaults = some retention) :
    1 ≤ retention.size := by
  cases op with
  | configure nonce connection cache =>
    cases h
    exact Retention.overlayLossy_size_pos hdefaults cache
  | tryConfigure nonce connection cache =>
    exact Retention.overlay_size_pos (Except.toOption_eq_some h) hdefaults
  | _ => cases h

namespace Clocked

variable {s : Clocked}

theorem wellFormed_step (h : s.store.WellFormed) (op : Operation) :
    (s.step op).2.store.WellFormed := by
  have hstep := s.steps op
  generalize s.step op = r at hstep ⊢
  cases hstep with
  | called hcall =>
    rename_i c
    obtain ⟨e, heq⟩ | ⟨name, p, hp, heq⟩ := s.call_cases c
    · rw [heq]
      exact h
    · rw [heq]
      have hf := (Memory.partition_eq_ok.1 hp).2
      exact h.after hf ((h.partitions name p hf).act c s.now)
  | enrolled nonce connection cache retention => exact h.register nonce connection cache retention
  | refused e => exact h
  | purged => exact h.map (fun p hp => hp.purge s.now) rfl rfl
  | flushed => exact h.map (fun p hp => hp.clear) rfl rfl
  | slept ms => exact h

theorem wellFormed_run (h : s.store.WellFormed) (ops : List Operation) :
    (s.run ops).store.WellFormed := by
  induction ops generalizing s with
  | nil => exact h
  | cons op ops ih => exact ih (wellFormed_step h op)

/-! ### Sessions and partitions of a run -/

/-- An operation tells its caller no id but that of a session that it registers. -/
theorem mem_sessions_step (s : Clocked) (op : Operation) (id : SessionId) :
    (∃ x ∈ (s.step op).2.store.registry.sessions, x.id = id) ↔
      (∃ x ∈ s.store.registry.sessions, x.id = id) ∨ (s.step op).1 = .session id := by
  have hstep := s.steps op
  generalize s.step op = r at hstep ⊢
  cases hstep with
  | called hcall =>
    rename_i c
    obtain ⟨e, heq⟩ | ⟨name, p, _, heq⟩ := s.call_cases c
    · simp [heq]
    · have hout : (c.act s.now p).outcome ≠ .session id := by
        cases hd : c.demand <;> simp [Call.act, hd]
      simp [heq, Memory.after, hout]
  | enrolled nonce connection cache retention =>
    simp [Memory.register, Registry.register, or_comm]
  | refused e => simp
  | purged => simp [Memory.purge]
  | flushed => simp [Memory.flush]
  | slept ms => simp

theorem mem_sessions_run (s : Clocked) (ops : List Operation) (id : SessionId) :
    (∃ x ∈ (s.run ops).store.registry.sessions, x.id = id) ↔
      (∃ x ∈ s.store.registry.sessions, x.id = id) ∨ .session id ∈ s.outcomes ops := by
  induction ops generalizing s with
  | nil => simp [run, outcomes]
  | cons op ops ih =>
    rw [run, ih, mem_sessions_step, outcomes, List.mem_cons, or_assoc, eq_comm]

/-- An operation registers the first session of a partition. -/
def Creates (s : Clocked) (op : Operation) (name : String) : Prop :=
  s.store.partitions.find? name = none ∧ ∃ id, (s.step op).1 = .session id ∧
    (s.step op).2.store.registry.partitionOf id = .ok name

/-- A partition after an operation has the settings that it had before, or that the operation asks
for as it creates the partition. -/
theorem find?_step {op : Operation} {name : String} {p : Partition}
    (h : (s.step op).2.store.partitions.find? name = some p) :
    (∃ q, s.store.partitions.find? name = some q ∧ q.retention = p.retention) ∨
      (s.Creates op name ∧ op.retention? s.store.defaults = some p.retention) := by
  have hstep := s.steps op
  unfold Creates
  generalize s.step op = r at hstep h ⊢
  cases hstep with
  | called hcall =>
    rename_i c
    obtain ⟨e, heq⟩ | ⟨name', q, hq, heq⟩ := s.call_cases c
    · rw [heq] at h
      exact .inl ⟨p, h, rfl⟩
    · rw [heq] at h
      simp only [Memory.after, NameMap.find?_insert] at h
      split at h
      · rename_i hname
        subst hname
        cases h
        exact .inl ⟨q, (Memory.partition_eq_ok.1 hq).2, (Partition.act_retention c s.now q).symm⟩
      · exact .inl ⟨p, h, rfl⟩
  | enrolled nonce connection cache retention hask =>
    rw [Memory.register_find?] at h
    cases hold : s.store.partitions.find? name with
    | some q =>
      rw [hold, Option.some_or] at h
      cases h
      exact .inl ⟨_, rfl, rfl⟩
    | none =>
      rw [hold, Option.none_or] at h
      split at h
      · rename_i hname
        cases h
        have hfound := s.store.registry.lookup_register_self nonce connection cache
        refine .inr ⟨⟨rfl, _, rfl, ?_⟩, hask⟩
        rw [← hname]
        exact Registry.partitionOf_of_lookup hfound
      · cases h
  | refused e => exact .inl ⟨p, h, rfl⟩
  | purged =>
    simp only [Memory.purge, NameMap.find?_map, Option.map_eq_some_iff] at h
    obtain ⟨q, hq, rfl⟩ := h
    exact .inl ⟨q, hq, rfl⟩
  | flushed =>
    simp only [Memory.flush, NameMap.find?_map, Option.map_eq_some_iff] at h
    obtain ⟨q, hq, rfl⟩ := h
    exact .inl ⟨q, hq, rfl⟩
  | slept ms => exact .inl ⟨p, h, rfl⟩

/-- No operation changes the settings that sessions start from. -/
theorem defaults_step (s : Clocked) (op : Operation) :
    (s.step op).2.store.defaults = s.store.defaults := by
  have hstep := s.steps op
  generalize s.step op = r at hstep ⊢
  cases hstep with
  | called hcall => exact s.call_defaults _
  | _ => rfl

theorem defaults_run (s : Clocked) (ops : List Operation) :
    (s.run ops).store.defaults = s.store.defaults := by
  induction ops generalizing s with
  | nil => rfl
  | cons op ops ih => exact (ih _).trans (defaults_step s op)

/-- A partition has the settings that the operation asked for that created it. -/
theorem exists_creates (defaults : Retention) (start : Nat) (ops : List Operation) {name : String}
    {p : Partition} (h : ((fresh defaults start).run ops).store.partitions.find? name = some p) :
    ∃ before op after, ops = before ++ op :: after ∧
      ((fresh defaults start).run before).Creates op name ∧
      op.retention? defaults = some p.retention := by
  -- by induction from the end: the last operation has created the partition, or an earlier one has
  induction ops using List.reverseRecOn generalizing p with
  | nil =>
    rw [run, fresh, Memory.empty, NameMap.find?_empty] at h
    cases h
  | append_singleton ops op ih =>
    rw [run_concat] at h
    obtain ⟨q, hq, hsame⟩ | ⟨hcreates, hask⟩ := find?_step h
    · obtain ⟨before, op', after, rfl, hcreates, hask⟩ := ih hq
      refine ⟨before, op', after ++ [op], ?_, hcreates, hsame ▸ hask⟩
      rw [List.append_assoc, List.cons_append]
    · rw [defaults_run] at hask
      exact ⟨ops, op, [], rfl, hcreates, hask⟩

end Clocked

/-- **Representation invariant.** After any run of a store that began without sessions and with
settings that can be made: every partition has a positive size and no more entries than it; no key
and no number is held twice, and the numbers are among those given out; every session's id leads to
its partition, and so does every id that a caller was told, while any other id is reported as never
issued; every partition is that of a session; and each has the settings that the operation asked
for that registered its first session. -/
theorem representation_invariant (defaults : Retention) (hmade : defaults.Made) (start : Nat)
    (ops : List Operation) :
    let s := Clocked.fresh defaults start
    let m := (s.run ops).store
    (∀ name p, m.partitions.find? name = some p →
      1 ≤ p.retention.size ∧ p.size ≤ p.retention.size ∧ p.Distinct ∧
      (p.entries.map (·.number)).Nodup ∧ ∀ e ∈ p.entries, 1 ≤ e.number ∧ e.number ≤ p.lastNumber) ∧
    (∀ x ∈ m.registry.sessions, ∃ p, m.partition x.id = .ok (x.partition, p)) ∧
    (∀ id, .session id ∈ s.outcomes ops → ∃ name p, m.partition id = .ok (name, p)) ∧
    (∀ id, .session id ∉ s.outcomes ops → m.partition id = .error (.uninitialized id)) ∧
    (∀ name p, m.partitions.find? name = some p →
      ∃ x ∈ m.registry.sessions, x.partition = name) ∧
    (∀ name p, m.partitions.find? name = some p → ∃ before op after, ops = before ++ op :: after ∧
      (s.run before).Creates op name ∧ op.retention? defaults = some p.retention) := by
  intro s m
  have h : m.WellFormed := Clocked.wellFormed_run (Memory.wellFormed_empty defaults) ops
  have hids (id : SessionId) : (∃ x ∈ m.registry.sessions, x.id = id) ↔
      .session id ∈ s.outcomes ops := by
    rw [Clocked.mem_sessions_run]
    simp [s, Clocked.fresh, Memory.empty, Registry.empty]
  refine ⟨fun name p hp => ?_, fun x hx => h.partition_of_session hx, fun id hid => ?_,
    fun id hid => ?_, h.owned, fun name p hp => Clocked.exists_creates defaults start ops hp⟩
  · have hwell := h.partitions name p hp
    obtain ⟨_, op, _, _, _, hask⟩ := Clocked.exists_creates defaults start ops hp
    have hsize : 1 ≤ p.retention.size := Operation.retention?_size_pos hmade.size_pos hask
    have hbounded := hwell.bounded
    exact ⟨hsize, by omega, hwell.keys, hwell.numbers, hwell.numbered⟩
  · obtain ⟨x, hx, rfl⟩ := (hids id).2 hid
    exact ⟨x.partition, h.partition_of_session hx⟩
  · have hnone : ∀ x ∈ m.registry.sessions, x.id ≠ id :=
      fun x hx heq => hid ((hids id).1 ⟨x, hx, heq⟩)
    simp only [Memory.partition, Registry.partitionOf_of_unknown hnone]

/-- Two sessions of one name, where the second asks for another size: the partition keeps the size
that the first asked for, and a third put costs an entry. -/
theorem representation_invariant_shared_name :
    let cache (size : String) : PropertyMap :=
      ((∅ : PropertyMap).insert "Name" " team ").insert "Size" size
    let url : Url := ⟨"http", none, .segments [[]], none, none⟩
    let ops : List Operation :=
      [.configure "a" ∅ (cache "2"), .tryConfigure "b" ∅ (cache "9"), .put ⟨"s1-a"⟩ url [1] [1],
        .put ⟨"s2-b"⟩ url [2] [2], .put ⟨"s2-b"⟩ url [3] [3]]
    let defaults := Retention.standard.withSize 0
    let s := Clocked.fresh defaults 0
    let m := (s.run ops).store
    defaults.Made ∧ m.partition ⟨"s3-c"⟩ = .error (.uninitialized ⟨"s3-c"⟩) ∧
      ∃ p, m.partition ⟨"s2-b"⟩ = .ok ("named:team", p) ∧ p.size = 2 ∧ p.retention.size = 2 ∧
        p.Distinct ∧ ∃ before op after, ops = before ++ op :: after ∧
          (s.run before).Creates op "named:team" ∧ op.retention? defaults = some p.retention := by
  intro cache url ops defaults s m
  have hmade : defaults.Made := .withSize .standard 0
  have hp : m.partition ⟨"s2-b"⟩ = .ok ("named:team", ⟨⟨2, some 300000, .lru⟩,
      [⟨.of url [3], [3], 0, 0, 3⟩, ⟨.of url [2], [2], 0, 0, 2⟩], 3⟩) := by
    decide +kernel
  have hstranger : .session ⟨"s3-c"⟩ ∉ s.outcomes ops := by decide +kernel
  have hall := representation_invariant defaults hmade 0 ops
  have hm : ((Clocked.fresh defaults 0).run ops).store = m := rfl
  simp only [hm] at hall
  obtain ⟨hshape, _, _, hunknown, _, hcreated⟩ := hall
  have hf := (Memory.partition_eq_ok.1 hp).2
  obtain ⟨_, _, hkeys, _⟩ := hshape _ _ hf
  exact ⟨hmade, hunknown _ hstranger, _, hp, rfl, rfl, hkeys, hcreated _ _ hf⟩

end OlapClient.Cache
