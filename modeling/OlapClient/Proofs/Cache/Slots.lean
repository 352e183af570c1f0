import OlapClient.Proofs.Cache.Holding

namespace OlapClient.Cache

open Location (Url)

/-!
# Slots

The entries of a partition are numbered, and no number is used twice. So an entry is the same as
another, however often it was read since, exactly if both have one slot.

* `Slot`, `Memory.slot?`, `Vault.slot?` — the place of an entry, and that of a session's request.
* `Vault.configure_memory`, `Vault.get_memory`, `Vault.put_memory`, `Vault.flush_memory` — what
  operations on a vault do to a store in memory, and which slots they use.
-/

/-- The place of an entry in a store in memory: its partition, and its number there. -/
structure Slot where
  partition : String
  number : Nat
deriving DecidableEq, Repr

namespace Memory

/-- The slot of a session's request, if there is an entry for it. -/
def slot? (m : Memory) (id : SessionId) (url : Url) (request : Bytes) : Option Slot :=
  match m.partition id with
  | .error _ => none
  | .ok (name, p) => (p.find? (.of url request)).map fun e => ⟨name, e.number⟩

/-- A slot with an entry in it. -/
def Fills (m : Memory) (σ : Slot) (e : Entry) : Prop :=
  e.number = σ.number ∧ ∃ p, m.partitions.find? σ.partition = some p ∧ e ∈ p.entries

variable {m m' : Memory} {now : Nat} {id : SessionId} {url : Url} {request response : Bytes}

/-- What a look-up finds fills the slot of its request. -/
theorem slot?_of_get (hget : m.get now id url request = .ok (some response, m')) :
    ∃ σ e, m.slot? id url request = some σ ∧ m.registry.partitionOf id = .ok σ.partition ∧
      m.Fills σ e ∧ e.key = .of url request ∧ e.response = response := by
  obtain ⟨name, p, e, hp, hf, he, hkey, hresponse⟩ := get_eq_some hget
  obtain ⟨hname, hpart⟩ := partition_eq_ok.1 hp
  refine ⟨⟨name, e.number⟩, e, ?_, hname, ⟨rfl, p, hpart, he⟩, hkey, hresponse⟩
  rw [slot?, hp]
  simp only [hf, Option.map_some]

/-- What was put fills a slot that is next in its partition. -/
theorem slot?_of_put (hput : m.put now id url request response = .ok m') :
    ∃ name p, m.partition id = .ok (name, p) ∧
      m'.slot? id url request = some ⟨name, p.lastNumber + 1⟩ ∧
      ∃ p', m'.partitions.find? name = some p' ∧ p'.lastNumber = p.lastNumber + 1 := by
  obtain ⟨_, name, p, hp, rfl⟩ := put_eq_ok hput
  have hname := (partition_eq_ok.1 hp).1
  have hnew : (m.afterInsert now name p (.of url request) response).partitions.find? name =
      some (p.insert now (.of url request) response).2 := NameMap.find?_insert_self _ _ _
  have hpartition : (m.afterInsert now name p (.of url request) response).partition id =
      .ok (name, (p.insert now (.of url request) response).2) := partition_eq_ok.2 ⟨hname, hnew⟩
  refine ⟨name, p, hp, ?_, _, hnew, Partition.insert_lastNumber _ _ _ _⟩
  simp only [slot?, hpartition, Partition.find?_insert_self, Option.map_some]

end Memory

namespace Vault

/-- The slot of a session's request, if its store is in memory and has an entry for it. -/
def slot? (v : Vault) (n : Nat) (id : SessionId) (url : Url) (request : Bytes) : Option Slot :=
  match v.store? n with
  | some (.memory m) => m.slot? id url request
  | _ => none

variable {v : Vault} {n : Nat} {m : Memory} {id : SessionId} {url : Url} {request response : Bytes}

theorem slot?_memory (hs : v.store? n = some (.memory m)) :
    v.slot? n id url request = m.slot? id url request := by
  simp only [slot?, hs]

/-- A new session has a new id, and the partition that the sharing of its store gives it. -/
theorem configure_memory (hs : v.store? n = some (.memory m)) (connection cache : PropertyMap) :
    ∃ x m', (v.configure n connection cache).1 = some x.id ∧
      (v.configure n connection cache).2.store? n = some (.memory m') ∧
      m.Adds (fun _ _ => False) m' ∧ m'.registry.lookup x.id = .ok x ∧
      x.partition = m.registry.sharing.partition x.id cache ∧
      (m.registry.Numbered → ∀ y ∈ m.registry.sessions, x.id ≠ y.id) := by
  obtain ⟨hid, hafter, -⟩ := configure_store hs connection cache
  refine ⟨(m.registry.register v.machine.draw.1 connection cache).1,
    (m.configure v.machine.draw.1 connection cache).2, hid, hafter,
    m.register_adds _ connection cache _ _, ?_, rfl, ?_⟩
  · exact m.registry.lookup_register_self _ connection cache
  · intro hnumbered y hy
    exact hnumbered.ne_new hy _ connection cache

/-- A look-up that finds a response finds it in the slot of its request. -/
theorem get_memory (hs : v.store? n = some (.memory m)) (id : SessionId) (url : Url)
    (request : Bytes) :
    ∃ m', (v.get n id url request).2.store? n = some (.memory m') ∧
      m.Adds (fun _ _ => False) m' ∧
      ∀ response, (v.get n id url request).1 = .ok (some response) →
        ∃ σ e, v.slot? n id url request = some σ ∧ m.registry.partitionOf id = .ok σ.partition ∧
          m.Fills σ e ∧ e.key = .of url request ∧ e.response = response := by
  rw [slot?_memory hs]
  simp only [get, hs, Store.get]
  split
  · rename_i found m' hget
    refine ⟨m', store?_replace hs _, Memory.get_adds hget _, fun response hfound => ?_⟩
    cases hfound
    exact Memory.slot?_of_get hget
  · exact ⟨m, store?_replace hs _, .refl m _, fun response hfound => by cases hfound⟩

/-- A put that succeeds uses the next slot of the session's partition; one that fails changes
nothing. -/
theorem put_memory (hs : v.store? n = some (.memory m)) (id : SessionId) (url : Url)
    (request response : Bytes) :
    ∃ m', (v.put n id url request response).2.store? n = some (.memory m') ∧
      ((∃ e, (v.put n id url request response).1 = .error e ∧ m' = m) ∨
      (v.put n id url request response).1 = .ok () ∧
        m.Adds (m.PutEntry v.machine.now id url request response) m' ∧
        ∃ name p, m.partition id = .ok (name, p) ∧
          (v.put n id url request response).2.slot? n id url request =
            some ⟨name, p.lastNumber + 1⟩ ∧
          ∃ p', m'.partitions.find? name = some p' ∧ p'.lastNumber = p.lastNumber + 1) := by
  simp only [put, hs, Store.put]
  split
  · rename_i m' hput
    refine ⟨m', store?_replace hs _, .inr ⟨rfl, Memory.put_adds hput, ?_⟩⟩
    obtain ⟨name, p, hp, hslot, hnumber⟩ := Memory.slot?_of_put hput
    exact ⟨name, p, hp, (slot?_memory (store?_replace hs _)).trans hslot, hnumber⟩
  · rename_i e _
    exact ⟨m, store?_replace hs _, .inl ⟨e, rfl, rfl⟩⟩

theorem flush_memory (hs : v.store? n = some (.memory m)) :
    (v.flush n).store? n = some (.memory m.flush) := by
  simp only [flush, hs, Store.flush]
  exact store?_replace hs _

end Vault

end OlapClient.Cache
