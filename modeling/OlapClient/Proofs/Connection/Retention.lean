import OlapClient.Proofs.Cache.Overlay
import OlapClient.Proofs.Connection.Opening

namespace OlapClient

open Cache (Memory Retention Setting Store Vault)

/-!
# The settings of a connection's partition

A connection that names a store in memory has one of its own. Its cache properties make the settings
of that store strictly, and then those of the partition lossily; the second time changes nothing.

* `Cache.Memory.retention_register` — the settings of a session whose partition is new.
* `Cache.Vault.create_memory`, `Cache.Vault.create_memory_of_error` — creating a store in memory.
* `Connection.start_memory`, `Connection.start_memory_of_error` — opening a connection on one.
* `strict_and_lossy_agree` — strict and lossy settings, and those of a connection.
-/

namespace Cache

variable {properties : PropertyMap} {kind : String}

/-- A session whose partition is new has the settings that it was registered with. -/
theorem Memory.retention_register {m : Memory} {nonce : String} {connection cache : PropertyMap}
    (hnew : m.partitions.find? (m.registry.register nonce connection cache).1.partition = none)
    (retention : Retention) :
    (m.register nonce connection cache retention).2.retention
      (m.register nonce connection cache retention).1 = .ok retention := by
  have hfind := m.register_find? nonce connection cache retention
    (m.registry.register nonce connection cache).1.partition
  rw [hnew, if_pos rfl, Option.none_or] at hfind
  have hname := Registry.partitionOf_of_lookup
    (m.registry.lookup_register_self nonce connection cache)
  have hpartition : (m.register nonce connection cache retention).2.partition
      (m.register nonce connection cache retention).1 = .ok (_, .empty retention) :=
    Memory.partition_eq_ok.2 ⟨hname, hfind⟩
  rw [Memory.retention, hpartition]
  rfl

/-- A store in memory is created with the settings that the properties make. -/
theorem Vault.create_memory {r : Retention} (v : Vault) (hkind : lowerString (trim kind) = "memory")
    (hr : Retention.ofProperties properties = .ok r) :
    v.create kind properties =
      (.ok v.stores.length, { v with stores := v.stores ++ [.memory (.empty r)] }) := by
  have hstore : Store.create v.machine kind properties = (.ok (.memory (.empty r)), v.machine) := by
    rw [Store.create, if_pos hkind, hr]
    rfl
  unfold create
  rw [hstore]
  rfl

theorem Vault.create_memory_of_error {e : CacheError} (v : Vault)
    (hkind : lowerString (trim kind) = "memory") (he : Retention.ofProperties properties = .error e) :
    v.create kind properties = (.error e, v) := by
  have hstore : Store.create v.machine kind properties = (.error e, v.machine) := by
    rw [Store.create, if_pos hkind, he]
    rfl
  unfold create
  rw [hstore]

/-- The first session of a store in memory has the settings that its cache properties make of the
store's, passing over bad ones. -/
theorem Vault.configure_first_memory {v : Vault} {n : Nat} {m : Memory}
    (hs : v.store? n = some (.memory m)) (hfirst : m.partitions = ∅)
    (connection cache : PropertyMap) :
    ∃ id m', (v.configure n connection cache).1 = some id ∧
      (v.configure n connection cache).2.store? n = some (.memory m') ∧
      m'.retention id = .ok (m.defaults.overlayLossy cache) := by
  obtain ⟨hid, hafter, -⟩ := configure_store hs connection cache
  refine ⟨_, _, hid, hafter, Memory.retention_register ?_ _⟩
  rw [hfirst, NameMap.find?_empty]

end Cache

namespace Connection

variable {P : PropertyMap} {settings : Settings} {kind : String}

/-- A connection with a store in memory is opened on a partition with the settings that its cache
properties make. -/
theorem start_memory {r : Retention} (v : Vault)
    (hs : Settings.ofProperties (route P).connection = .ok settings)
    (hcache : settings.cache = some kind) (hkind : lowerString (trim kind) = "memory")
    (hr : Retention.ofProperties (route P).cache = .ok r) :
    ∃ c v' b m, start v P none = (.ok c, v') ∧ c.binding = some b ∧
      v'.store? b.store = some (.memory m) ∧ m.retention b.session = .ok r := by
  have hchosen : chooseStore v none settings (route P).cache =
      (.ok (some v.stores.length), { v with stores := v.stores ++ [.memory (.empty r)] }) := by
    unfold chooseStore
    rw [hcache]
    dsimp only
    rw [Cache.Vault.create_memory v hkind hr]
  have hstore : (Vault.mk v.machine (v.stores ++ [.memory (.empty r)])).store? v.stores.length =
      some (.memory (.empty r)) := List.getElem?_concat_length
  obtain ⟨id, m, hid, hafter, hretention⟩ :=
    Cache.Vault.configure_first_memory hstore rfl (route P).connection (route P).cache
  refine ⟨_, _, ⟨v.stores.length, id⟩, m, start_of_chosen hs hchosen, ?_, hafter, ?_⟩
  · exact congrArg (Option.map (Binding.mk v.stores.length)) hid
  · -- the store has the settings already, so that the properties change nothing in them
    have hsame : r.overlayLossy (route P).cache = r :=
      Retention.overlayLossy_of_overlay (Retention.overlay_idem hr)
    exact hretention.trans (congrArg Except.ok hsame)

theorem start_memory_of_error {e : CacheError} (v : Vault)
    (hs : Settings.ofProperties (route P).connection = .ok settings)
    (hcache : settings.cache = some kind) (hkind : lowerString (trim kind) = "memory")
    (he : Retention.ofProperties (route P).cache = .error e) :
    start v P none = (.error (.cache e), v) := by
  refine start_of_refused hs ?_
  unfold chooseStore
  rw [hcache]
  dsimp only
  rw [Cache.Vault.create_memory_of_error v hkind he]

end Connection

/-- **Strict and lossy settings agree.** For all settings and properties: strict settings can be made
if and only if they can with each of the properties for size, time and mode alone, and else their
error is that of the first that fails alone, in this order. Lossy settings are what strict ones of
each setting alone make one after the other, and are the strict settings of the properties without
those that fail alone. So both are the same where the strict ones can be made; made again of the same
properties they do not change; and a positive size stays positive. A connection that names a store in
memory is opened on a partition whose settings are those that its cache properties make of the
standard ones, and is refused if they cannot be made. -/
theorem strict_and_lossy_agree (b : Retention) (p : PropertyMap) :
    ((∃ r, b.overlay p = .ok r) ↔ ∀ s : Setting, ∃ r, b.overlay (s.alone p) = .ok r) ∧
    (∀ e, b.overlay p = .error e ↔ ∃ before s after, Setting.all = before ++ s :: after ∧
      b.overlay (s.alone p) = .error e ∧ ∀ s' ∈ before, ∃ r, b.overlay (s'.alone p) = .ok r) ∧
    b.overlayLossy p =
      Setting.all.foldl (fun r s => ((r.overlay (s.alone p)).toOption).getD r) b ∧
    b.overlay (b.usable p) = .ok (b.overlayLossy p) ∧
    (∀ r, b.overlay p = .ok r → b.overlayLossy p = r ∧ r.overlay p = .ok r) ∧
    (b.overlayLossy p).overlayLossy p = b.overlayLossy p ∧
    (1 ≤ b.size → 1 ≤ (b.overlayLossy p).size ∧ ∀ r, b.overlay p = .ok r → 1 ≤ r.size) ∧
    (∀ (v : Vault) (P : PropertyMap) (settings : Settings) (kind : String),
      Settings.ofProperties (route P).connection = .ok settings → settings.cache = some kind →
      lowerString (trim kind) = "memory" →
      (∀ e, Retention.ofProperties (route P).cache = .error e →
        Connection.start v P none = (.error (.cache e), v)) ∧
      (∀ r, Retention.ofProperties (route P).cache = .ok r →
        ∃ c v' binding m, Connection.start v P none = (.ok c, v') ∧ c.binding = some binding ∧
          v'.store? binding.store = some (.memory m) ∧ m.retention binding.session = .ok r)) := by
  refine ⟨?_, fun e => ?_, b.overlayLossy_eq_loop p, b.overlay_usable p, fun r hr =>
    ⟨Retention.overlayLossy_of_overlay hr, Retention.overlay_idem hr⟩, b.overlayLossy_idem p,
    fun hb => ⟨Retention.overlayLossy_size_pos hb p, fun r hr => Retention.overlay_size_pos hr hb⟩,
    fun v P settings kind hs hcache hkind =>
      ⟨fun e he => Connection.start_memory_of_error v hs hcache hkind he,
        fun r hr => Connection.start_memory v hs hcache hkind hr⟩⟩
  -- whether a setting fails alone is told by what is at fault with it, whatever is changed
  · rw [Retention.exists_overlay_iff]
    exact forall_congr' fun s => Retention.exists_overlay_alone_iff.symm
  · simp only [Retention.exists_overlay_alone_iff, Retention.overlay_alone_eq_error_iff]
    exact Retention.overlay_eq_error_iff

/-- Properties of which the size and the mode are bad: alone the timeout succeeds, and the error is that
of the size. Lossily the timeout counts, and it does again. A connection with the timeout alone has
no expiry in its partition, and one with the bad size is refused. -/
theorem strict_and_lossy_agree_bad_size :
    let p : PropertyMap :=
      (((∅ : PropertyMap).insert "Size" "0").insert "Timeout" "0").insert "Mode" "nope"
    let b := Retention.standard
    let vault : Vault := ⟨⟨.empty, 0, fun n => toString n, 0⟩, []⟩
    let properties (key value : String) : PropertyMap :=
      (((∅ : PropertyMap).insert "Server" "http://h/x").insert "Cache" "Memory").insert key value
    b.overlay p = .error (.invalidProperty "Size" "0") ∧
      b.overlay (Setting.alone .timeout p) = .ok ⟨50, none, .lru⟩ ∧
      b.overlayLossy p = ⟨50, none, .lru⟩ ∧ b.overlay (b.usable p) = .ok ⟨50, none, .lru⟩ ∧
      1 ≤ (b.overlayLossy p).size ∧
      (∃ c v' binding m, Connection.start vault (properties "Cache.Timeout" "0") none = (.ok c, v') ∧
        c.binding = some binding ∧ v'.store? binding.store = some (.memory m) ∧
        m.retention binding.session = .ok ⟨50, none, .lru⟩) ∧
      Connection.start vault (properties "Cache.Size" "0") none =
        (.error (.cache (.invalidProperty "Size" "0")), vault) := by
  intro p b vault properties
  obtain ⟨-, -, -, husable, -, -, hpositive, hconnection⟩ := strict_and_lossy_agree b p
  have hlossy : b.overlayLossy p = ⟨50, none, .lru⟩ := by decide +kernel
  have hcache (key value : String)
      (h : (Settings.ofProperties (route (properties key value)).connection).toOption.bind
        (·.cache) = some "Memory") :
      ∃ settings, Settings.ofProperties (route (properties key value)).connection = .ok settings ∧
        settings.cache = some "Memory" := by
    obtain ⟨settings, hsettings, hkind⟩ := Option.bind_eq_some_iff.1 h
    exact ⟨settings, Except.toOption_eq_some hsettings, hkind⟩
  refine ⟨by decide +kernel, by decide +kernel, hlossy, hlossy ▸ husable,
    (hpositive (by decide)).1, ?_, ?_⟩
  · obtain ⟨settings, hsettings, hkind⟩ := hcache "Cache.Timeout" "0" (by decide +kernel)
    exact (hconnection vault _ settings "Memory" hsettings hkind (by decide +kernel)).2 _
      (by decide +kernel)
  · obtain ⟨settings, hsettings, hkind⟩ := hcache "Cache.Size" "0" (by decide +kernel)
    exact (hconnection vault _ settings "Memory" hsettings hkind (by decide +kernel)).1 _
      (by decide +kernel)

end OlapClient
