import OlapClient.Connection.Basic
import OlapClient.Proofs.Cache.Holding
import OlapClient.Proofs.Property.Settings

namespace OlapClient

open Cache (EntryKey Vault)
open Exchange (Endpoint)

/-!
# Opening connections

* `Cache.Vault.create_eq_ok` — the store that is created holds nothing but what files held.
* `Connection.start_of_error`, `Connection.start_of_chosen`, … — the steps of opening.
* `Connection.start_shared` — opening on a store that others use too.
* `Connection.start_own` — opening on a store of one's own, or on none.
-/

/-! ### Creating a store -/

namespace Cache

/-- Some file is a recording of a key with a response. -/
def RecordedIn (fs : Files) (key : EntryKey) (response : Bytes) : Prop :=
  ∃ path content, fs.node? path = some (.file content) ∧ recorded? key content = some response

/-- A store that was created is in memory and empty, or has issued no session and created nothing
but directories. -/
theorem Store.create_eq_ok {m m' : Machine} {kind : String} {properties : PropertyMap} {s : Store}
    (h : Store.create m kind properties = (.ok s, m')) :
    (∃ retention, s = .memory (.empty retention)) ∨
      ∃ root, s = .replay ⟨root, .empty Replay.sharing⟩ ∧
        m.files.Adds (fun _ => False) m'.files := by
  unfold Store.create at h
  dsimp only at h
  split at h
  · obtain ⟨retention, _, hs⟩ := Except.map_eq_ok (Prod.mk.inj h).1
    exact .inl ⟨retention, hs.symm⟩
  · split at h
    · refine .inr ?_
      unfold Replay.ofProperties at h
      split at h
      · cases h
      · rename_i directory _
        have hadds := m.files.makeDirectories_adds (fun _ => False) (.ofString directory)
        unfold Replay.create at h
        split at h
        · cases h
        · rename_i hmade
          rw [hmade] at hadds
          cases h
          exact ⟨.ofString directory, rfl, hadds⟩
    · cases h

/-- The store that a vault creates has issued only numbered ids. It holds nothing but recordings
that were there before. -/
theorem Vault.create_eq_ok {v v' : Vault} {kind : String} {properties : PropertyMap} {n : Nat}
    (h : v.create kind properties = (.ok n, v')) :
    ∃ s, v'.store? n = some s ∧ s.Numbered ∧ ∀ partition key response,
      v'.Holds n partition key response →
        v'.Records n ∧ RecordedIn v.machine.files key response := by
  unfold Vault.create at h
  split at h
  · cases h
  · rename_i s machine hcreate
    cases h
    have hstore : ({ v with machine }.add s).2.store? v.stores.length = some s :=
      List.getElem?_concat_length
    rcases Store.create_eq_ok hcreate with ⟨retention, rfl⟩ | ⟨root, rfl, hadds⟩
    · refine ⟨_, hstore, Registry.numbered_empty _, fun partition key response hh => ?_⟩
      obtain ⟨x, hx, hheld⟩ := hh
      cases Option.some.inj (hstore.symm.trans hx)
      exact absurd hheld (Memory.not_holds_empty retention)
    · refine ⟨_, hstore, Registry.numbered_empty _, fun partition key response hh => ?_⟩
      refine ⟨⟨_, hstore, _, rfl⟩, ?_⟩
      obtain ⟨x, hx, hheld⟩ := hh
      cases Option.some.inj (hstore.symm.trans hx)
      rcases Replay.holds_of_adds hadds hheld with ⟨content, hnode, hrecorded⟩ | ⟨_, hfalse, _⟩
      · exact ⟨_, content, hnode, hrecorded⟩
      · exact hfalse.elim

end Cache

/-! ### Endpoints -/

/-- The sender of every endpoint is fit for a header, so preparing one does not fail. -/
theorem Settings.build_endpoint (s : Settings) : s.endpoint.build = .ok s.endpoint := by
  have hagent : Exchange.isHeaderValue s.endpoint.agent = true := by
    show Exchange.isHeaderValue "xmla-client/0.0.0" = true
    decide
  rw [Endpoint.build, if_pos hagent]

namespace Connection

variable {v v' : Vault} {P : PropertyMap} {c : Connection} {settings : Settings}
  {shared : Option Nat}

/-! ### Steps of opening -/

theorem start_of_error {e : PropertyError}
    (hs : Settings.ofProperties (route P).connection = .error e) :
    start v P shared = (.error (.property e), v) := by
  rw [start, hs]

theorem start_of_refused {e : ConnectionError}
    (hs : Settings.ofProperties (route P).connection = .ok settings)
    (hc : chooseStore v shared settings (route P).cache = (.error e, v')) :
    start v P shared = (.error e, v') := by
  rw [start, hs]
  dsimp only
  rw [settings.build_endpoint]
  dsimp only
  rw [hc]

/-- Once its store is chosen, a connection opens. -/
theorem start_of_chosen {number : Option Nat}
    (hs : Settings.ofProperties (route P).connection = .ok settings)
    (hc : chooseStore v shared settings (route P).cache = (.ok number, v')) :
    start v P shared =
      (.ok ⟨settings, route P, settings.endpoint, (bindStore v' number (route P)).1, false⟩,
        (bindStore v' number (route P)).2) := by
  rw [start, hs]
  dsimp only
  rw [settings.build_endpoint]
  dsimp only
  rw [hc]

/-! ### Opening on a store -/

/-- A connection that cannot be opened on a shared store leaves the store alone. One that can is
registered with it. -/
theorem start_shared (v : Vault) (P : PropertyMap) (n : Nat) :
    (∃ e, start v P (some n) = (.error e, v)) ∨
    ∃ settings, Settings.ofProperties (route P).connection = .ok settings ∧
      start v P (some n) =
        (.ok ⟨settings, route P, settings.endpoint,
          (v.configure n (route P).connection (route P).cache).1.map (⟨n, ·⟩), false⟩,
        (v.configure n (route P).connection (route P).cache).2) := by
  cases hs : Settings.ofProperties (route P).connection with
  | error e => exact .inl ⟨_, start_of_error hs⟩
  | ok settings =>
    have hchosen : chooseStore v (some n) settings (route P).cache = (.ok (some n), v) := rfl
    exact .inr ⟨settings, rfl, start_of_chosen hs hchosen⟩

/-- A store of one's own is created, if the settings name its kind. -/
theorem chooseStore_own {number : Option Nat} {cache : PropertyMap}
    (h : chooseStore v none settings cache = (.ok number, v')) :
    (settings.cache = none ∧ number = none ∧ v' = v) ∨
      ∃ kind n, settings.cache = some kind ∧ number = some n ∧
        v.create kind cache = (.ok n, v') := by
  unfold chooseStore at h
  cases hkind : settings.cache with
  | none =>
    rw [hkind] at h
    cases h
    exact .inl ⟨rfl, rfl, rfl⟩
  | some kind =>
    refine .inr ?_
    rw [hkind] at h
    dsimp only at h
    split at h
    · cases h
    · rename_i n v₁ hcreate
      cases h
      exact ⟨kind, n, rfl, rfl, hcreate⟩

/-- A connection that was opened on a store of its own is known to it. The store holds nothing but
recordings that were there before. -/
theorem start_own (h : start v P none = (.ok c, v')) :
    ∃ settings, Settings.ofProperties (route P).connection = .ok settings ∧
      c = ⟨settings, route P, settings.endpoint, c.binding, false⟩ ∧
      ∀ b, c.binding = some b → v'.Knows b.store b.session ∧ ∀ partition key response,
        v'.Holds b.store partition key response →
          v'.Records b.store ∧ Cache.RecordedIn v.machine.files key response := by
  cases hs : Settings.ofProperties (route P).connection with
  | error e =>
    rw [start_of_error hs] at h
    cases h
  | ok settings =>
    refine ⟨settings, rfl, ?_⟩
    rcases hchosen : chooseStore v none settings (route P).cache with ⟨e | number, v₁⟩
    · rw [start_of_refused hs hchosen] at h
      cases h
    · rw [start_of_chosen hs hchosen] at h
      cases h
      refine ⟨rfl, fun b hb => ?_⟩
      obtain ⟨_, rfl, rfl⟩ | ⟨kind, n, _, rfl, hcreate⟩ := chooseStore_own hchosen
      · cases hb
      · obtain ⟨s, hstore, hnumbered, hheld⟩ := Vault.create_eq_ok hcreate
        obtain ⟨id, hid, hknows⟩ :=
          Vault.configure_knows hstore hnumbered (route P).connection (route P).cache
        -- the session of the connection is the one that was registered
        obtain ⟨id', hid', rfl⟩ := Option.map_eq_some_iff.1 hb
        cases hid.symm.trans hid'
        refine ⟨hknows, fun partition key response hh => ?_⟩
        -- registering the session has added nothing to what the new store holds
        have hadds := v₁.configure_adds n (route P).connection (route P).cache fun _ _ => False
        rcases hadds.holds partition key response hh with hold | hfalse
        · obtain ⟨hrecords, hrecorded⟩ := hheld partition key response hold
          exact ⟨hadds.kind.2 hrecords, hrecorded⟩
        · exact hfalse.elim

/-- Without a kind of cache, a connection opens without a store. -/
theorem start_plain (hs : Settings.ofProperties (route P).connection = .ok settings)
    (hcache : settings.cache = none) :
    start v P none = (.ok ⟨settings, route P, settings.endpoint, none, false⟩, v) := by
  have hchosen : chooseStore v none settings (route P).cache = (.ok none, v) := by
    unfold chooseStore
    rw [hcache]
  rw [start_of_chosen hs hchosen]
  rfl

end Connection

end OlapClient
