import OlapClient.Cache.Vault
import OlapClient.Proofs.Cache.Issued
import OlapClient.Proofs.Cache.Operation
import OlapClient.Proofs.Cache.Recording

namespace OlapClient.Cache

open Location (Url)

/-!
# What stores hold

A response is held under a partition and a key, be it in memory or in a file. Of all operations only
a put makes a store hold more, and only the response that was put.

* `Memory.Holds`, `Replay.Holds`, `Store.Holds`, `Vault.Holds` — a response that is held.
* `Memory.Adds` — the entries after an operation were there before it, or are new.
* `Store.Adds`, `Vault.Adds` — what is held after an operation was held before it, or is new.
* `Vault.configure_store` — registering a session changes its store alone.
* `Vault.get_adds`, `Vault.put_adds`, … — what each operation adds.
* `Vault.held_of_found` — what a look-up finds was held.
-/

variable {partition : String} {key : EntryKey} {response : Bytes}

/-! ### In memory -/

namespace Memory

/-- A partition has an entry of a key with a response. -/
def Holds (m : Memory) (partition : String) (key : EntryKey) (response : Bytes) : Prop :=
  ∃ p, m.partitions.find? partition = some p ∧ ∃ e ∈ p.entries, e.key = key ∧ e.response = response

variable {m m' : Memory} {now : Nat} {id : SessionId} {url : Url} {request : Bytes}

theorem not_holds_empty (defaults : Retention) :
    ¬ (empty defaults).Holds partition key response := by
  rintro ⟨p, hp, _⟩
  rw [empty, NameMap.find?_empty] at hp
  cases hp

/-- The second store has the sessions and partitions of the first. Its entries are those of the
first, but for the hits, or new; the numbers of entries go on from the last. -/
structure Adds (m : Memory) (new : String → Entry → Prop) (m' : Memory) : Prop where
  registry : m.registry.Grows m'.registry
  numbers : ∀ name p, m.partitions.find? name = some p →
    ∃ p', m'.partitions.find? name = some p' ∧ p.lastNumber ≤ p'.lastNumber
  entries : ∀ name p', m'.partitions.find? name = some p' → ∀ e' ∈ p'.entries, new name e' ∨
    ∃ p, m.partitions.find? name = some p ∧ ∃ e ∈ p.entries, ∃ hits, e' = { e with hits }

variable {new : String → Entry → Prop}

theorem Adds.refl (m : Memory) (new : String → Entry → Prop) : m.Adds new m where
  registry := .refl m.registry
  numbers _ p hp := ⟨p, hp, Nat.le_refl _⟩
  entries _ p hp e he := .inr ⟨p, hp, e, he, e.hits, rfl⟩

/-- What is held was held before, or is in a new entry. -/
theorem Adds.holds (h : m.Adds new m') (hh : m'.Holds partition key response) :
    m.Holds partition key response ∨
      ∃ e, new partition e ∧ e.key = key ∧ e.response = response := by
  obtain ⟨p', hp', e', he', hkey, hresponse⟩ := hh
  rcases h.entries partition p' hp' e' he' with hnew | ⟨p, hp, e, he, hits, rfl⟩
  · exact .inr ⟨e', hnew, hkey, hresponse⟩
  · exact .inl ⟨p, hp, e, he, hkey, hresponse⟩

/-- A session keeps its partition. -/
theorem Adds.keeps_partition (h : m.Adds new m') (hnumbered : m.registry.Numbered) {name : String}
    {p : Partition} (hp : m.partition id = .ok (name, p)) :
    ∃ p', m'.partition id = .ok (name, p') := by
  obtain ⟨hname, hpart⟩ := partition_eq_ok.1 hp
  obtain ⟨p', hp', _⟩ := h.numbers name p hpart
  exact ⟨p', partition_eq_ok.2 ⟨h.registry.partitionOf hnumbered hname, hp'⟩⟩

/-- Registering a session creates no entry. -/
theorem register_adds (m : Memory) (nonce : String) (connection cache : PropertyMap)
    (retention : Retention) (new : String → Entry → Prop) :
    m.Adds new (m.register nonce connection cache retention).2 where
  registry := m.registry.register_grows nonce connection cache
  numbers _ p hp := ⟨p, register_find?_of_some hp, Nat.le_refl _⟩
  entries name p' hp' e' he' := by
    rcases register_find?_eq_some hp' with hold | ⟨_, rfl⟩
    · exact .inr ⟨p', hold, e', he', e'.hits, rfl⟩
    · cases he'

/-- One partition may be replaced by another. -/
theorem Adds.insert {name : String} {p p' : Partition} (hp : m.partitions.find? name = some p)
    (hnumbers : p.lastNumber ≤ p'.lastNumber)
    (hentries : ∀ e' ∈ p'.entries, new name e' ∨ ∃ e ∈ p.entries, ∃ hits, e' = { e with hits })
    (hregistry : m'.registry = m.registry)
    (hpartitions : m'.partitions = m.partitions.insert name p') : m.Adds new m' where
  registry := by
    rw [hregistry]
    exact .refl m.registry
  numbers name' q hq := by
    rw [hpartitions]
    by_cases hname : name = name'
    · subst hname
      rw [hp] at hq
      cases hq
      exact ⟨p', NameMap.find?_insert_self _ _ _, hnumbers⟩
    · exact ⟨q, by rw [NameMap.find?_insert_of_ne _ _ hname, hq], Nat.le_refl _⟩
  entries name' q hq e' he' := by
    rw [hpartitions, NameMap.find?_insert] at hq
    split at hq
    · rename_i hname
      subst hname
      cases hq
      rcases hentries e' he' with hnew | hold
      · exact .inl hnew
      · exact .inr ⟨p, hp, hold⟩
    · exact .inr ⟨q, hq, e', he', e'.hits, rfl⟩

theorem get_adds {found : Option Bytes} (hget : m.get now id url request = .ok (found, m'))
    (new : String → Entry → Prop) : m.Adds new m' := by
  obtain ⟨_, name, p, hp, _, rfl⟩ := get_eq_ok hget
  have hnumbers := Nat.le_of_eq (p.lookup_lastNumber now (.of url request)).symm
  exact .insert (partition_eq_ok.1 hp).2 hnumbers (fun e' he' => .inr (Partition.mem_lookup he'))
    rfl rfl

/-- What a look-up finds is the response of an entry in the session's partition. -/
theorem get_eq_some (hget : m.get now id url request = .ok (some response, m')) :
    ∃ name p e, m.partition id = .ok (name, p) ∧ p.find? (.of url request) = some e ∧
      e ∈ p.entries ∧ e.key = .of url request ∧ e.response = response := by
  obtain ⟨_, name, p, hp, hfound, _⟩ := get_eq_ok hget
  obtain ⟨e, he, hf, hkey, hresponse, _⟩ := Partition.lookup_eq_hit hfound.symm
  exact ⟨name, p, e, hp, hf, he, hkey, hresponse⟩

/-- The new entry of a put. -/
def PutEntry (m : Memory) (now : Nat) (id : SessionId) (url : Url) (request response : Bytes)
    (name : String) (e : Entry) : Prop :=
  ∃ p, m.partition id = .ok (name, p) ∧
    e = ⟨.of url request, response, now, 0, p.lastNumber + 1⟩

theorem put_adds {kept : Bytes} (hput : m.put now id url request kept = .ok m') :
    m.Adds (m.PutEntry now id url request kept) m' := by
  obtain ⟨_, name, p, hp, rfl⟩ := put_eq_ok hput
  refine .insert (partition_eq_ok.1 hp).2 ?_ (fun e' he' => ?_) rfl rfl
  · rw [Partition.insert_lastNumber]
    exact Nat.le_succ _
  · rcases Partition.mem_insert he' with rfl | ⟨hin, _⟩
    · exact .inl ⟨p, hp, rfl⟩
    · exact .inr ⟨e', hin, e'.hits, rfl⟩

theorem flush_adds (m : Memory) (new : String → Entry → Prop) : m.Adds new m.flush where
  registry := .refl m.registry
  numbers name p hp := by
    refine ⟨p.clear, ?_, Nat.le_refl _⟩
    simp only [flush, NameMap.find?_map, hp, Option.map_some]
  entries name p' hp' e' he' := by
    simp only [flush, NameMap.find?_map, Option.map_eq_some_iff] at hp'
    obtain ⟨p, _, rfl⟩ := hp'
    cases he'

end Memory

/-! ### In files -/

namespace Replay

/-- The file of a key in a partition is a recording of the key with a response. -/
def Holds (r : Replay) (fs : Files) (partition : String) (key : EntryKey) (response : Bytes) :
    Prop :=
  ∃ content, fs.node? (fs.placeOf (entryPath r.root partition key)) = some (.file content) ∧
    recorded? key content = some response

variable {r : Replay} {fs fs' : Files} {new : Bytes → Prop} {id : SessionId} {url : Url}
  {request : Bytes}

/-- What is held after files were added was held before, or is one of the new recordings. -/
theorem holds_of_adds (hadds : fs.Adds new fs') (h : r.Holds fs' partition key response) :
    r.Holds fs partition key response ∨
      ∃ content, new content ∧ recorded? key content = some response := by
  obtain ⟨content, hnode, hrecorded⟩ := h
  -- the path of the recording leads to the same place in both trees
  rw [hadds.placeOf_eq] at hnode
  rcases hadds.files _ _ hnode with hold | hnew
  · exact .inl ⟨content, hold, hrecorded⟩
  · exact .inr ⟨content, hnew, hrecorded⟩

/-- What a look-up finds is held in the session's partition. -/
theorem held_of_found (hget : r.get fs id url request = .ok (some response)) :
    ∃ name, r.registry.partitionOf id = .ok name ∧ r.Holds fs name (.of url request) response := by
  unfold get at hget
  split at hget
  · cases hget
  · split at hget
    · cases hget
    · rename_i name hname
      exact ⟨name, hname, readEntry_eq_ok (Except.mapError_eq_ok hget)⟩

/-- Whether it succeeds or not, a put records nothing but its response. -/
theorem holds_of_put {nonce : String} {kept : Bytes} (hfit : (EntryKey.of url request).Writable)
    (h : r.Holds (r.put fs nonce id url request kept).2 partition key response) :
    r.Holds fs partition key response ∨ (key = .of url request ∧ response = kept) := by
  unfold put at h
  split at h
  · exact .inl h
  · split at h
    · exact .inl h
    · rename_i name _
      rcases holds_of_adds (writeEntry_adds fs r.root name (.of url request) nonce kept) h with
        hold | ⟨content, rfl, hrecorded⟩
      · exact .inl hold
      · exact .inr (recorded?_recording hfit hrecorded)

theorem holds_of_flush (h : r.Holds (r.flush fs) partition key response) :
    r.Holds fs partition key response := by
  rcases holds_of_adds (flush_adds r fs fun _ => False) h with hold | ⟨_, hfalse, _⟩
  · exact hold
  · exact hfalse.elim

end Replay

/-! ### In stores of either kind -/

namespace Store

/-- A store holds a response. -/
def Holds (s : Store) (fs : Files) (partition : String) (key : EntryKey) (response : Bytes) :
    Prop :=
  match s with
  | .memory m => m.Holds partition key response
  | .replay r => r.Holds fs partition key response

/-- The store keeps recordings in files. -/
def Records (s : Store) : Prop :=
  ∃ r, s = .replay r

/-- The store knows a session and has a partition for it. Ids are numbered, so that other sessions
do not change this. -/
def Knows (s : Store) (id : SessionId) : Prop :=
  match s with
  | .memory m => m.registry.Numbered ∧ ∃ name p, m.partition id = .ok (name, p)
  | .replay r => r.registry.Numbered ∧ ∃ name, r.registry.partitionOf id = .ok name

/-- Every id that the store has issued has a number. -/
def Numbered : Store → Prop
  | .memory m => m.registry.Numbered
  | .replay r => r.registry.Numbered

/-- The second store is of the kind of the first, knows its sessions, and holds what the first does
or new responses. -/
structure Adds (s : Store) (fs : Files) (new : EntryKey → Bytes → Prop) (s' : Store)
    (fs' : Files) : Prop where
  kind : s'.Records ↔ s.Records
  knows : ∀ id, s.Knows id → s'.Knows id
  holds : ∀ partition key response, s'.Holds fs' partition key response →
    s.Holds fs partition key response ∨ new key response

variable {s : Store} {m : Machine} {id : SessionId} {url : Url} {request : Bytes}
  {new : EntryKey → Bytes → Prop}

theorem Adds.refl (s : Store) (fs : Files) (new : EntryKey → Bytes → Prop) : s.Adds fs new s fs :=
  ⟨.rfl, fun _ h => h, fun _ _ _ h => .inl h⟩

theorem Adds.memory {x y : Memory} {entry : String → Entry → Prop} (h : x.Adds entry y)
    (hnew : ∀ name e, entry name e → new e.key e.response) (fs fs' : Files) :
    Adds (.memory x) fs new (.memory y) fs' where
  kind := by
    constructor <;>
    · rintro ⟨r, hr⟩
      cases hr
  knows id hk := by
    obtain ⟨hnumbered, name, p, hp⟩ := hk
    exact ⟨h.registry.numbered hnumbered, name, h.keeps_partition hnumbered hp⟩
  holds partition key response hh := by
    rcases h.holds hh with hold | ⟨e, hentry, rfl, rfl⟩
    · exact .inl hold
    · exact .inr (hnew partition e hentry)

/-- A store in memory without new entries. -/
theorem Adds.memory_old {x y : Memory} (h : x.Adds (fun _ _ => False) y) (fs fs' : Files)
    (new : EntryKey → Bytes → Prop) : Adds (.memory x) fs new (.memory y) fs' :=
  .memory h (fun _ _ hfalse => hfalse.elim) fs fs'

theorem configure_adds (s : Store) (m : Machine) (connection cache : PropertyMap)
    (new : EntryKey → Bytes → Prop) :
    s.Adds m.files new (s.configure m connection cache).2.1
      (s.configure m connection cache).2.2.files := by
  cases s with
  | memory x => exact .memory_old (x.register_adds _ connection cache _ _) _ _ new
  | replay r =>
    have hgrows := r.registry.register_grows m.draw.1 connection cache
    refine ⟨iff_of_true ⟨_, rfl⟩ ⟨r, rfl⟩, fun id hk => ?_, fun _ _ _ h => .inl h⟩
    obtain ⟨hnumbered, name, hname⟩ := hk
    exact ⟨hgrows.numbered hnumbered, name, hgrows.partitionOf hnumbered hname⟩

theorem get_adds (s : Store) (m : Machine) (id : SessionId) (url : Url) (request : Bytes)
    (new : EntryKey → Bytes → Prop) :
    s.Adds m.files new (s.get m id url request).2 m.files := by
  cases s with
  | memory x =>
    simp only [get]
    split
    · rename_i found y hget
      exact .memory_old (Memory.get_adds hget _) _ _ new
    · exact .refl _ _ _
  | replay r => exact .refl _ _ _

/-- What a look-up finds is held. -/
theorem held_of_found (h : (s.get m id url request).1 = .ok (some response)) :
    ∃ partition, s.Holds m.files partition (.of url request) response := by
  cases s with
  | memory x =>
    simp only [get] at h
    split at h
    · rename_i found y hget
      cases h
      obtain ⟨name, p, e, hp, _, he, hkey, hresponse⟩ := Memory.get_eq_some hget
      exact ⟨name, p, (Memory.partition_eq_ok.1 hp).2, e, he, hkey, hresponse⟩
    · cases h
  | replay r =>
    obtain ⟨name, _, hh⟩ := Replay.held_of_found h
    exact ⟨name, hh⟩

/-- A put adds its response. -/
theorem put_adds (s : Store) (m : Machine) (id : SessionId) (url : Url) (request kept : Bytes)
    (hfit : s.Records → (EntryKey.of url request).Writable) :
    s.Adds m.files (fun key response => key = .of url request ∧ response = kept)
      (s.put m id url request kept).2.1 (s.put m id url request kept).2.2.files := by
  cases s with
  | memory x =>
    simp only [put]
    split
    · rename_i y hput
      refine .memory (Memory.put_adds hput) (fun name e hentry => ?_) _ _
      obtain ⟨p, _, rfl⟩ := hentry
      exact ⟨rfl, rfl⟩
    · exact .refl _ _ _
  | replay r =>
    exact ⟨.rfl, fun _ hk => hk, fun _ _ _ h => Replay.holds_of_put (hfit ⟨r, rfl⟩) h⟩

theorem flush_adds (s : Store) (m : Machine) (new : EntryKey → Bytes → Prop) :
    s.Adds m.files new (s.flush m).1 (s.flush m).2.files := by
  cases s with
  | memory x => exact .memory_old (x.flush_adds _) _ _ new
  | replay r =>
    exact ⟨.rfl, fun _ hk => hk, fun _ _ _ h => .inl (Replay.holds_of_flush h)⟩

/-- A session that is registered is known. -/
theorem configure_knows (h : s.Numbered) (m : Machine) (connection cache : PropertyMap) :
    (s.configure m connection cache).2.1.Knows (s.configure m connection cache).1 := by
  cases s with
  | memory x =>
    obtain ⟨p, hp⟩ := x.register_find?_new m.draw.1 connection cache
      (x.defaults.overlayLossy cache)
    have hlookup := x.registry.lookup_register_self m.draw.1 connection cache
    refine ⟨h.register _ connection cache, _, p, Memory.partition_eq_ok.2 ⟨?_, hp⟩⟩
    exact Registry.partitionOf_of_lookup hlookup
  | replay r =>
    have hlookup := r.registry.lookup_register_self m.draw.1 connection cache
    exact ⟨h.register _ connection cache, _, Registry.partitionOf_of_lookup hlookup⟩

/-- A look-up of a known session fails only where recordings cannot be read. -/
theorem get_eq_error {e : CacheError} (hk : s.Knows id) (hr : request ≠ [])
    (h : (s.get m id url request).1 = .error e) : s.Records ∧ ∃ cause, e = .storage cause := by
  cases s with
  | memory x =>
    obtain ⟨_, name, p, hp⟩ := hk
    simp only [get, Memory.get_of_partition hr hp] at h
    cases h
  | replay r =>
    obtain ⟨_, name, hname⟩ := hk
    refine ⟨⟨r, rfl⟩, ?_⟩
    simp only [get, Replay.get, if_neg hr, hname] at h
    obtain ⟨cause, _, hcause⟩ := Except.mapError_eq_error h
    exact ⟨cause, hcause.symm⟩

end Store

/-! ### In a vault -/

namespace Vault

/-- The store of a number holds a response. -/
def Holds (v : Vault) (n : Nat) (partition : String) (key : EntryKey) (response : Bytes) : Prop :=
  ∃ s, v.store? n = some s ∧ s.Holds v.machine.files partition key response

/-- The store of a number keeps recordings in files. -/
def Records (v : Vault) (n : Nat) : Prop :=
  ∃ s, v.store? n = some s ∧ s.Records

/-- The store of a number knows a session. -/
def Knows (v : Vault) (n : Nat) (id : SessionId) : Prop :=
  ∃ s, v.store? n = some s ∧ s.Knows id

/-- The store of a number is of the kind that it was, knows the sessions that it did, and holds what
it did or new responses. -/
structure Adds (v : Vault) (n : Nat) (new : EntryKey → Bytes → Prop) (v' : Vault) : Prop where
  kind : v'.Records n ↔ v.Records n
  knows : ∀ id, v.Knows n id → v'.Knows n id
  holds : ∀ partition key response, v'.Holds n partition key response →
    v.Holds n partition key response ∨ new key response

variable {v : Vault} {n : Nat} {s : Store} {id : SessionId} {url : Url} {request : Bytes}
  {new : EntryKey → Bytes → Prop}

theorem store?_replace (h : v.store? n = some s) (s' : Store) :
    (v.replace n s').store? n = some s' := by
  have hn : n < v.stores.length := (List.getElem?_eq_some_iff.1 h).1
  simp only [store?, replace, List.getElem?_set_self hn]

theorem store?_replace_of_ne (v : Vault) {k : Nat} (h : n ≠ k) (s : Store) :
    (v.replace n s).store? k = v.store? k :=
  List.getElem?_set_ne h

/-- Registering a session changes its store alone. -/
theorem configure_store (hs : v.store? n = some s) (connection cache : PropertyMap) :
    (v.configure n connection cache).1 = some (s.configure v.machine connection cache).1 ∧
      (v.configure n connection cache).2.store? n =
        some (s.configure v.machine connection cache).2.1 ∧
      ∀ k, k ≠ n → (v.configure n connection cache).2.store? k = v.store? k := by
  have hconfigure : v.configure n connection cache =
      (some (s.configure v.machine connection cache).1,
        { v with machine := (s.configure v.machine connection cache).2.2 }.replace n
          (s.configure v.machine connection cache).2.1) := by
    simp only [configure, hs]
  rw [hconfigure]
  exact ⟨rfl, store?_replace hs _, fun k hk => store?_replace_of_ne _ hk.symm _⟩

theorem Adds.refl (v : Vault) (n : Nat) (new : EntryKey → Bytes → Prop) : v.Adds n new v :=
  ⟨.rfl, fun _ h => h, fun _ _ _ h => .inl h⟩

theorem Adds.trans {v' v'' : Vault} (h : v.Adds n new v') (h' : v'.Adds n new v'') :
    v.Adds n new v'' where
  kind := h'.kind.trans h.kind
  knows id hk := h'.knows id (h.knows id hk)
  holds partition key response hh := by
    rcases h'.holds partition key response hh with hold | hnew
    · exact h.holds partition key response hold
    · exact .inr hnew

/-- What one store adds, its vault adds. -/
theorem Adds.replace (h : v.store? n = some s) {machine : Machine} {s' : Store}
    (hadds : s.Adds v.machine.files new s' machine.files) :
    v.Adds n new ({ v with machine }.replace n s') := by
  have hs' : ({ v with machine }.replace n s').store? n = some s' := store?_replace h s'
  refine ⟨?_, ?_, ?_⟩
  · constructor
    · rintro ⟨x, hx, hrecords⟩
      rw [hs'] at hx
      cases hx
      exact ⟨s, h, hadds.kind.1 hrecords⟩
    · rintro ⟨x, hx, hrecords⟩
      rw [h] at hx
      cases hx
      exact ⟨s', hs', hadds.kind.2 hrecords⟩
  · rintro id ⟨x, hx, hknows⟩
    rw [h] at hx
    cases hx
    exact ⟨s', hs', hadds.knows id hknows⟩
  · rintro partition key response ⟨x, hx, hh⟩
    rw [hs'] at hx
    cases hx
    rcases hadds.holds partition key response hh with hold | hnew
    · exact .inl ⟨s, h, hold⟩
    · exact .inr hnew

theorem configure_adds (v : Vault) (n : Nat) (connection cache : PropertyMap)
    (new : EntryKey → Bytes → Prop) : v.Adds n new (v.configure n connection cache).2 := by
  unfold configure
  split
  · exact .refl v n new
  · rename_i s hs
    exact .replace hs (s.configure_adds v.machine connection cache new)

theorem get_adds (v : Vault) (n : Nat) (id : SessionId) (url : Url) (request : Bytes)
    (new : EntryKey → Bytes → Prop) : v.Adds n new (v.get n id url request).2 := by
  unfold get
  split
  · exact .refl v n new
  · rename_i s hs
    exact .replace hs (s.get_adds v.machine id url request new)

/-- What a look-up finds is held. -/
theorem held_of_found (h : (v.get n id url request).1 = .ok (some response)) :
    ∃ partition, v.Holds n partition (.of url request) response := by
  unfold get at h
  split at h
  · cases h
  · rename_i s hs
    obtain ⟨partition, hh⟩ := Store.held_of_found h
    exact ⟨partition, s, hs, hh⟩

/-- A put adds its response, if the store can write its key. Memory takes every key. -/
theorem put_adds (v : Vault) (n : Nat) (id : SessionId) (url : Url) (request kept : Bytes)
    (hfit : v.Records n → (EntryKey.of url request).Writable) :
    v.Adds n (fun key response => key = .of url request ∧ response = kept)
      (v.put n id url request kept).2 := by
  unfold put
  split
  · exact .refl v n _
  · rename_i s hs
    exact .replace hs (s.put_adds v.machine id url request kept fun hr => hfit ⟨s, hs, hr⟩)

theorem flush_adds (v : Vault) (n : Nat) (new : EntryKey → Bytes → Prop) :
    v.Adds n new (v.flush n) := by
  unfold flush
  split
  · exact .refl v n new
  · rename_i s hs
    exact .replace hs (s.flush_adds v.machine new)

theorem sleep_adds (v : Vault) (n : Nat) (ms : Nat) (new : EntryKey → Bytes → Prop) :
    v.Adds n new { v with machine := v.machine.sleep ms } :=
  ⟨.rfl, fun _ h => h, fun _ _ _ h => .inl h⟩

/-- A session that is registered is known. -/
theorem configure_knows (hs : v.store? n = some s) (h : s.Numbered)
    (connection cache : PropertyMap) :
    ∃ id, (v.configure n connection cache).1 = some id ∧
      (v.configure n connection cache).2.Knows n id := by
  obtain ⟨hid, hafter, -⟩ := configure_store hs connection cache
  exact ⟨_, hid, _, hafter, Store.configure_knows h v.machine connection cache⟩

/-- A look-up of a known session fails only where recordings cannot be read. -/
theorem get_eq_error {e : CacheError} (hk : v.Knows n id) (hr : request ≠ [])
    (h : (v.get n id url request).1 = .error e) : v.Records n ∧ ∃ cause, e = .storage cause := by
  obtain ⟨s, hs, hknows⟩ := hk
  simp only [get, hs] at h
  obtain ⟨hrecords, hcause⟩ := Store.get_eq_error hknows hr h
  exact ⟨⟨s, hs, hrecords⟩, hcause⟩

end Vault

end OlapClient.Cache
