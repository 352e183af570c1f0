import OlapClient.Proofs.Cache.Script
import OlapClient.Proofs.Connection.Opening

namespace OlapClient

open Cache (Clocked Operation Registry Retention Store Vault)

/-!
# What is refused leaves no trace

An operation of a store that fails, and a connection that cannot be opened on a store, change nothing.
A connection that is opened registers one session.

* `Cache.Store.registry`, `Cache.Store.configure_registry` — the sessions of a store, and the one that
  is registered.
* `Connection.start_of_failed`, `Connection.start_registers` — opening a connection on a store.
* `failures_change_nothing` — all of it, for any store that a run has led to.
-/

/-! ### Registering -/

namespace Cache

namespace Store

/-- The sessions of a store. -/
def registry : Store → Registry
  | .memory m => m.registry
  | .replay r => r.registry

/-- A store of either kind registers a session by its registry, under the next random text. -/
theorem configure_registry (s : Store) (m : Machine) (connection cache : PropertyMap) :
    (s.configure m connection cache).1 =
        (s.registry.register (m.nonce m.drawn) connection cache).1.id ∧
      (s.configure m connection cache).2.1.registry =
        (s.registry.register (m.nonce m.drawn) connection cache).2 := by
  cases s with
  | memory store => exact ⟨rfl, rfl⟩
  | replay store => exact ⟨rfl, rfl⟩

end Store

end Cache

/-! ### Opening on a store -/

namespace Connection

variable {v v' : Vault} {P : PropertyMap} {n : Nat} {store : Store} {c : Connection}

/-- A connection that cannot be opened on a store changes nothing. -/
theorem start_of_failed {e : ConnectionError} (h : start v P (some n) = (.error e, v')) :
    v' = v := by
  obtain ⟨e', heq⟩ | ⟨settings, -, heq⟩ := start_shared v P n
  · rw [heq] at h
    cases h
    rfl
  · rw [heq] at h
    cases h

/-- A connection that is opened on a store registers one session with it, and with no other. -/
theorem start_registers (hstore : v.store? n = some store)
    (h : start v P (some n) = (.ok c, v')) :
    ∃ x store', c.binding = some ⟨n, x.id⟩ ∧ v'.store? n = some store' ∧
      store'.registry.sessions = x :: store.registry.sessions ∧
      store'.registry.issued = store.registry.issued + 1 ∧
      ∀ k, k ≠ n → v'.store? k = v.store? k := by
  obtain ⟨e, heq⟩ | ⟨settings, -, heq⟩ := start_shared v P n
  · rw [heq] at h
    cases h
  · obtain ⟨hid, hafter, hothers⟩ :=
      Cache.Vault.configure_store hstore (route P).connection (route P).cache
    obtain ⟨hsession, hregistry⟩ :=
      store.configure_registry v.machine (route P).connection (route P).cache
    rw [heq] at h
    cases h
    -- the connection is bound to the session that the store's registry has just issued
    refine ⟨_, _, ?_, hafter, congrArg Registry.sessions hregistry,
      congrArg Registry.issued hregistry, hothers⟩
    rw [hid, hsession]
    rfl

end Connection

/-- **What fails changes nothing.** After any run of a store that began without sessions, an operation
does what its script does, and a script that fails leaves the store as it was, with its sessions and
the number of ids that it has issued, its partitions with all their entries, and its counts. The
same holds of every store of a vault when a connection cannot be opened on one of them, whatever its
properties. A connection that is opened there registers exactly one session. -/
theorem failures_change_nothing (defaults : Retention) (start : Nat) (ops : List Operation)
    (op : Operation) (v : Vault) (P : PropertyMap) (n : Nat) :
    let s := (Clocked.fresh defaults start).run ops
    s.step op = s.perform op ∧
    (∀ e m, (op.script s.now).runOn s.store = (.error e, m) → m = s.store) ∧
    (∀ e, (s.step op).1 = .failed e → (s.step op).2 = s) ∧
    (∀ e v', Connection.start v P (some n) = (.error e, v') → v' = v) ∧
    (∀ store c v', v.store? n = some store → Connection.start v P (some n) = (.ok c, v') →
      ∃ x store', c.binding = some ⟨n, x.id⟩ ∧ v'.store? n = some store' ∧
        store'.registry.sessions = x :: store.registry.sessions ∧
        store'.registry.issued = store.registry.issued + 1 ∧
        ∀ k, k ≠ n → v'.store? k = v.store? k) := by
  intro s
  refine ⟨s.step_eq_perform op, fun e m h => ?_, fun e h => Clocked.step_of_failed h,
    fun e v' h => Connection.start_of_failed h,
    fun store c v' hstore h => Connection.start_registers hstore h⟩
  have hclean := op.script_failsClean s.now s.store e
  rw [h] at hclean
  exact hclean rfl

/-- A store that holds a response and has one session. Registering another with a size of zero fails,
and so does opening a connection with a timeout of zero. A connection with another timeout is opened
in spite of its size of zero, and registers the second session. -/
theorem failures_change_nothing_zero :
    let url : Location.Url := ⟨"http", none, .segments [[]], none, none⟩
    let ops : List Operation := [.configure "a" ∅ ∅, .put ⟨"s1-a"⟩ url [1] [1]]
    let s := (Clocked.fresh .standard 0).run ops
    let unusable : Operation := .tryConfigure "b" ∅ ((∅ : PropertyMap).insert "Size" "0")
    let vault : Vault := ⟨⟨.empty, 0, fun n => toString n, 0⟩, [.memory s.store]⟩
    let properties (timeout : String) : PropertyMap :=
      (((∅ : PropertyMap).insert "Server" "http://h/x").insert "Timeout" timeout).insert
        "Cache.Size" "0"
    (s.step unusable).1 = .failed (.invalidProperty "Size" "0") ∧ (s.step unusable).2 = s ∧
      (∃ e, Connection.start vault (properties "0") (some 0) = (.error e, vault)) ∧
      ∃ c v' x store', Connection.start vault (properties "5") (some 0) = (.ok c, v') ∧
        c.binding = some ⟨0, x.id⟩ ∧ v'.store? 0 = some store' ∧
        store'.registry.sessions = x :: s.store.registry.sessions := by
  intro url ops s unusable vault properties
  have hall (timeout : String) :=
    failures_change_nothing .standard 0 ops unusable vault (properties timeout) 0
  have hfailed : (s.step unusable).1 = .failed (.invalidProperty "Size" "0") := by
    decide +kernel
  refine ⟨hfailed, (hall "0").2.2.1 _ hfailed, ?_, ?_⟩
  · have hrefused : (Connection.start vault (properties "0") (some 0)).1.toBool = false := by
      decide +kernel
    rcases hstart : Connection.start vault (properties "0") (some 0) with ⟨e | c, v'⟩
    · obtain rfl := (hall "0").2.2.2.1 e v' hstart
      exact ⟨e, rfl⟩
    · rw [hstart] at hrefused
      cases hrefused
  · have hopened : (Connection.start vault (properties "5") (some 0)).1.toBool = true := by
      decide +kernel
    rcases hstart : Connection.start vault (properties "5") (some 0) with ⟨e | c, v'⟩
    · rw [hstart] at hopened
      cases hopened
    · obtain ⟨x, store', hbinding, hstore', hsessions, -⟩ :=
        (hall "5").2.2.2.2 (.memory s.store) c v' rfl hstart
      exact ⟨c, v', x, store', rfl, hbinding, hstore', hsessions⟩

end OlapClient
