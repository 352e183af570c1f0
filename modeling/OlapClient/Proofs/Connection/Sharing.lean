import OlapClient.Proofs.Connection.Envelope
import OlapClient.Proofs.Connection.Traffic

namespace OlapClient

open Cache (EntryKey Memory Sharing Slot Vault partitionName?)
open Location (Url)

/-!
# What connections share

Connections on one store in memory share responses only under a name that both carry, and only where
they would have asked the same server for the same thing with the same properties.

* `Traffic.Accounted` — the invariant: every entry has the slot of the sending that fetched it, and
  slots are in the partitions of the sessions that use them.
* `Traffic.accounted_step`, `Traffic.accounted_run` — every action, and so every run, keeps it.
* `served_from_same_request` — who fetched a response that another connection is served.
-/

/-! ### The invariant -/

namespace Connection

/-- The connection was opened with properties: it has them, and its settings are theirs. -/
structure OpenedWith (c : Connection) (P : PropertyMap) : Prop where
  properties : c.properties = route P
  settings : Settings.ofProperties (route P).connection = .ok c.settings

/-- The connection has a session with a store in memory of a number, in the partition that its own
properties give it. -/
def Bound (c : Connection) (n : Nat) (m : Memory) : Prop :=
  ∃ P x, c.OpenedWith P ∧ c.binding = some ⟨n, x.id⟩ ∧ m.registry.lookup x.id = .ok x ∧
    x.partition = Sharing.isolated.partition x.id (route P).cache

/-- A connection with the same properties and session, be it open or closed. -/
structure Same (c c' : Connection) : Prop where
  properties : c'.properties = c.properties
  settings : c'.settings = c.settings
  binding : c'.binding = c.binding

theorem OpenedWith.same {c c' : Connection} {P : PropertyMap} (h : c.OpenedWith P)
    (hsame : c.Same c') : c'.OpenedWith P where
  properties := hsame.properties.trans h.properties
  settings := by
    rw [hsame.settings]
    exact h.settings

theorem Bound.same {c c' : Connection} {n : Nat} {m : Memory} (h : c.Bound n m)
    (hsame : c.Same c') : c'.Bound n m := by
  obtain ⟨P, x, hP, hb, hx⟩ := h
  exact ⟨P, x, hP.same hsame, hsame.binding.trans hb, hx⟩

end Connection

/-- The members of a list with one more at its end. -/
theorem getElem?_concat_eq_some {α : Type} {as : List α} {a b : α} {i : Nat}
    (h : (as ++ [a])[i]? = some b) : as[i]? = some b ∨ (i = as.length ∧ b = a) := by
  rcases Nat.lt_trichotomy i as.length with hlt | rfl | hgt
  · rw [List.getElem?_append_left hlt] at h
    exact .inl h
  · rw [List.getElem?_concat_length] at h
    exact .inr ⟨rfl, (Option.some.inj h).symm⟩
  · rw [List.getElem?_eq_none] at h
    · cases h
    · rw [List.length_append, List.length_singleton]
      omega

namespace Traffic

/-- The sending's connection has its entries in the partition of a slot. -/
def Uses (t : Traffic) (m : Memory) (x : Sending) (σ : Slot) : Prop :=
  ∃ c b, t.connections[x.connection]? = some c ∧ c.binding = some b ∧
    m.registry.partitionOf b.session = .ok σ.partition

/-- A sending fetched a response for a key into a slot. -/
def Fetched (t : Traffic) (σ : Slot) (key : EntryKey) (response : Bytes) : Prop :=
  ∃ y ∈ t.sendings, y.stage = .fetched response (some σ) ∧ y.key = key

/-- The shared store is in memory and keeps sessions without a name apart. Every entry, and every
response that was served, was fetched into its slot, for one key; slots are in the partitions of the
sessions that use them. -/
structure Accounted (t : Traffic) (m : Memory) : Prop where
  store : t.vault.store? t.store = some (.memory m)
  sharing : m.registry.sharing = .isolated
  numbered : m.registry.Numbered
  bound : ∀ (i : Nat) (c : Connection), t.connections[i]? = some c → c.Bound t.store m
  apart : ∀ (i j : Nat) (a b : Connection), t.connections[i]? = some a →
    t.connections[j]? = some b → a.binding = b.binding → i = j
  asked : ∀ x ∈ t.sendings, ∀ r, x.asked = some r → ∃ c, t.connections[x.connection]? = some c ∧
    x.url = c.settings.server ∧ c.envelope r = .ok x.request
  entries : ∀ σ e, m.Fills σ e → t.Fetched σ e.key e.response
  served : ∀ x ∈ t.sendings, ∀ response slot, x.stage = .served response slot →
    ∃ σ, slot = some σ ∧ t.Uses m x σ ∧ t.Fetched σ x.key response
  fetched : ∀ y ∈ t.sendings, ∀ response σ, y.stage = .fetched response (some σ) →
    t.Uses m y σ ∧ ∃ p, m.partitions.find? σ.partition = some p ∧ σ.number ≤ p.lastNumber
  once : ∀ y ∈ t.sendings, ∀ z ∈ t.sendings, ∀ response response' σ,
    y.stage = .fetched response (some σ) → z.stage = .fetched response' (some σ) →
      y.key = z.key ∧ response = response'

variable {t : Traffic} {m m' : Memory}

theorem Uses.grows {x : Sending} {σ : Slot} (h : t.Uses m x σ) (hnumbered : m.registry.Numbered)
    (hgrows : m.registry.Grows m'.registry) : t.Uses m' x σ := by
  obtain ⟨c, b, hc, hb, hpartition⟩ := h
  exact ⟨c, b, hc, hb, hgrows.partitionOf hnumbered hpartition⟩

/-- A change of the store and of the sendings. Sendings that have fetched stay, and there is at most
one new sending. Every new entry was fetched by it, into a slot beyond all that were used. -/
theorem Accounted.change (h : t.Accounted m) {vault : Vault} {sendings : List Sending}
    {new : String → Cache.Entry → Prop} {fresh : Option Sending}
    (hstore : vault.store? t.store = some (.memory m')) (hadds : m.Adds new m')
    (hkeep : ∀ y ∈ t.sendings, ∀ response slot, y.stage = .fetched response slot → y ∈ sendings)
    (hnew : ∀ z ∈ sendings, z ∈ t.sendings ∨ fresh = some z)
    (hfresh : ∀ z, fresh = some z → z ∈ sendings)
    (hasked : ∀ z, fresh = some z → ∀ r, z.asked = some r →
      ∃ c, t.connections[z.connection]? = some c ∧ z.url = c.settings.server ∧
        c.envelope r = .ok z.request)
    (hserved : ∀ z, fresh = some z → ∀ response slot, z.stage = .served response slot →
      ∃ σ, slot = some σ ∧ t.Uses m z σ ∧ t.Fetched σ z.key response)
    (hfetched : ∀ z, fresh = some z → ∀ response σ, z.stage = .fetched response (some σ) →
      t.Uses m z σ ∧ ∃ p p', m.partitions.find? σ.partition = some p ∧
        p.lastNumber < σ.number ∧ m'.partitions.find? σ.partition = some p' ∧
        σ.number ≤ p'.lastNumber)
    (hentry : ∀ name e, new name e → ∃ z, fresh = some z ∧
      z.stage = .fetched e.response (some ⟨name, e.number⟩) ∧ z.key = e.key) :
    Accounted { t with vault, sendings } m' := by
  have hstays : ∀ {σ key response}, t.Fetched σ key response →
      Fetched { t with vault, sendings } σ key response := by
    rintro σ key response ⟨y, hy, hstage, hkey⟩
    exact ⟨y, hkeep y hy response (some σ) hstage, hstage, hkey⟩
  have huses : ∀ {x σ}, t.Uses m x σ → Uses { t with vault, sendings } m' x σ :=
    fun hx => hx.grows h.numbered hadds.registry
  refine ⟨hstore, hadds.registry.sharing.trans h.sharing, hadds.registry.numbered h.numbered, ?_,
    h.apart, ?_, ?_, ?_, ?_, ?_⟩
  · intro i c hc
    obtain ⟨P, x, hP, hb, hx, hpartition⟩ := h.bound i c hc
    exact ⟨P, x, hP, hb, hadds.registry.lookup h.numbered _ x hx, hpartition⟩
  · intro z hz r hr
    rcases hnew z hz with hold | hin
    · exact h.asked z hold r hr
    · exact hasked z hin r hr
  · rintro ⟨name, number⟩ e ⟨rfl, p', hp', he⟩
    rcases hadds.entries name p' hp' e he with hin | ⟨p, hp, e₀, he₀, hits, rfl⟩
    · obtain ⟨z, hz, hstage, hkey⟩ := hentry name e hin
      exact ⟨z, hfresh z hz, hstage, hkey⟩
    · exact hstays (h.entries ⟨name, e₀.number⟩ e₀ ⟨rfl, p, hp, he₀⟩)
  · intro z hz response slot hstage
    obtain ⟨σ, hslot, hx, hf⟩ : ∃ σ, slot = some σ ∧ t.Uses m z σ ∧ t.Fetched σ z.key response := by
      rcases hnew z hz with hold | hin
      · exact h.served z hold response slot hstage
      · exact hserved z hin response slot hstage
    exact ⟨σ, hslot, huses hx, hstays hf⟩
  · intro z hz response σ hstage
    rcases hnew z hz with hold | hin
    · obtain ⟨hx, p, hp, hle⟩ := h.fetched z hold response σ hstage
      obtain ⟨p', hp', hle'⟩ := hadds.numbers _ p hp
      exact ⟨huses hx, p', hp', Nat.le_trans hle hle'⟩
    · obtain ⟨hx, _, p', _, _, hp', hle⟩ := hfetched z hin response σ hstage
      exact ⟨huses hx, p', hp', hle⟩
  · -- a new slot is beyond those of all that have fetched before
    have hbeyond : ∀ y ∈ t.sendings, ∀ z, fresh = some z → ∀ response response' σ,
        y.stage = .fetched response (some σ) → z.stage = .fetched response' (some σ) → False := by
      intro y hy z hz response response' σ hy' hz'
      obtain ⟨_, p, hp, hle⟩ := h.fetched y hy response σ hy'
      obtain ⟨_, q, _, hq, hlt, _⟩ := hfetched z hz response' σ hz'
      rw [hp] at hq
      cases hq
      exact Nat.not_le_of_lt hlt hle
    intro y hy z hz response response' σ hy' hz'
    rcases hnew y hy with hyold | hyin <;> rcases hnew z hz with hzold | hzin
    · exact h.once y hyold z hzold response response' σ hy' hz'
    · exact (hbeyond y hyold z hzin response response' σ hy' hz').elim
    · exact (hbeyond z hzold y hyin response' response σ hz' hy').elim
    · rw [hyin] at hzin
      cases hzin
      rw [hy'] at hz'
      cases hz'
      exact ⟨rfl, rfl⟩

/-- The store may lose entries, and sessions may be registered with it. -/
theorem Accounted.lose (h : t.Accounted m) {vault : Vault}
    (hstore : vault.store? t.store = some (.memory m'))
    (hadds : m.Adds (fun _ _ => False) m') : Accounted { t with vault } m' := by
  have hnone : ∀ {p : Sending → Prop}, ∀ z, (none : Option Sending) = some z → p z :=
    fun z hz => by cases hz
  exact h.change hstore hadds (fun y hy _ _ _ => hy) (fun z hz => .inl hz) hnone hnone hnone hnone
    fun _ _ hfalse => hfalse.elim

/-- Connections may change in what does not matter here, and others may come. -/
theorem Accounted.reconnect (h : t.Accounted m) {connections : List Connection}
    (hkeep : ∀ (i : Nat) (c : Connection), t.connections[i]? = some c →
      ∃ c', connections[i]? = some c' ∧ c.Same c')
    (hbound : ∀ (i : Nat) (c : Connection), connections[i]? = some c → c.Bound t.store m)
    (hapart : ∀ (i j : Nat) (a b : Connection), connections[i]? = some a →
      connections[j]? = some b → a.binding = b.binding → i = j) :
    Accounted { t with connections } m := by
  have huses : ∀ {x σ}, t.Uses m x σ → Uses { t with connections } m x σ := by
    rintro x σ ⟨c, b, hc, hb, hpartition⟩
    obtain ⟨c', hc', hsame⟩ := hkeep _ c hc
    exact ⟨c', b, hc', hsame.binding.trans hb, hpartition⟩
  refine ⟨h.store, h.sharing, h.numbered, hbound, hapart, ?_, h.entries, ?_, ?_, h.once⟩
  · intro x hx r hr
    obtain ⟨c, hc, hurl, henvelope⟩ := h.asked x hx r hr
    obtain ⟨c', hc', hsame⟩ := hkeep _ c hc
    refine ⟨c', hc', by rw [hsame.settings, hurl], ?_⟩
    rw [Connection.envelope, hsame.settings]
    exact henvelope
  · intro x hx response slot hstage
    obtain ⟨σ, hslot, hx', hf⟩ := h.served x hx response slot hstage
    exact ⟨σ, hslot, huses hx', hf⟩
  · intro y hy response σ hstage
    obtain ⟨hy', hp⟩ := h.fetched y hy response σ hstage
    exact ⟨huses hy', hp⟩

theorem Accounted.connect (h : t.Accounted m) (properties : PropertyMap) :
    ∃ m', (t.connect properties).Accounted m' := by
  unfold Traffic.connect
  rcases Connection.start_shared t.vault properties t.store with ⟨e, heq⟩ | ⟨settings, hs, heq⟩
  · rw [heq]
    exact ⟨m, h⟩
  · obtain ⟨x, m', hid, hstore, hadds, hx, hpartition, hother⟩ :=
      Vault.configure_memory h.store (route properties).connection (route properties).cache
    rw [heq, hid]
    have hlose := h.lose hstore hadds
    rw [h.sharing] at hpartition
    -- a session that was bound before has another id
    have hnew : ∀ (i : Nat) (c : Connection), t.connections[i]? = some c →
        c.binding ≠ some ⟨t.store, x.id⟩ := by
      intro i c hc heq
      obtain ⟨_, y, _, hb, hy, _⟩ := h.bound i c hc
      rw [hb] at heq
      have hid' := (Binding.mk.inj (Option.some.inj heq)).2
      exact hother h.numbered y (Cache.Registry.mem_of_lookup hy).1 hid'.symm
    refine ⟨m', hlose.reconnect ?_ ?_ ?_⟩
    · intro i c hc
      refine ⟨c, ?_, rfl, rfl, rfl⟩
      rw [List.getElem?_append_left (List.getElem?_eq_some_iff.1 hc).1]
      exact hc
    · intro i c hc
      rcases getElem?_concat_eq_some hc with hold | ⟨_, rfl⟩
      · exact hlose.bound i c hold
      · exact ⟨properties, x, ⟨rfl, hs⟩, rfl, hx, hpartition⟩
    · intro i j a b ha hb hab
      rcases getElem?_concat_eq_some ha with haold | ⟨rfl, rfl⟩ <;>
        rcases getElem?_concat_eq_some hb with hbold | ⟨rfl, rfl⟩
      · exact h.apart i j a b haold hbold hab
      · exact absurd hab (hnew i a haold)
      · exact absurd hab.symm (hnew j b hbold)
      · rfl

theorem Accounted.close (h : t.Accounted m) (i : Nat) :
    Accounted { t with connections := t.connections.modify i Connection.close } m := by
  -- each position has the connection that it had, closed or not
  have hback : ∀ (j : Nat) (c' : Connection),
      (t.connections.modify i Connection.close)[j]? = some c' →
        ∃ c, t.connections[j]? = some c ∧ c.Same c' := by
    intro j c' hc'
    rw [List.getElem?_modify] at hc'
    obtain ⟨c, hc, rfl⟩ := Option.map_eq_some_iff.1 hc'
    refine ⟨c, hc, ?_⟩
    split <;> exact ⟨rfl, rfl, rfl⟩
  refine h.reconnect ?_ ?_ ?_
  · intro j c hc
    refine ⟨if i = j then c.close else c, ?_, ?_⟩
    · rw [List.getElem?_modify, hc]
      split <;> rfl
    · split <;> exact ⟨rfl, rfl, rfl⟩
  · intro j c' hc'
    obtain ⟨c, hc, hsame⟩ := hback j c' hc'
    exact (h.bound j c hc).same hsame
  · intro j k a' b' ha' hb' hab
    obtain ⟨a, ha, hsame⟩ := hback j a' ha'
    obtain ⟨b, hb, hsame'⟩ := hback k b' hb'
    exact h.apart j k a b ha hb (by rw [← hsame.binding, ← hsame'.binding, hab])

/-- A sending is added that has fetched nothing yet. -/
theorem Accounted.add (h : t.Accounted m) {vault : Vault} (x : Sending)
    (hstore : vault.store? t.store = some (.memory m'))
    (hadds : m.Adds (fun _ _ => False) m')
    (hasked : ∀ r, x.asked = some r → ∃ c, t.connections[x.connection]? = some c ∧
      x.url = c.settings.server ∧ c.envelope r = .ok x.request)
    (hserved : ∀ response slot, x.stage = .served response slot →
      ∃ σ, slot = some σ ∧ t.Uses m x σ ∧ t.Fetched σ x.key response)
    (hfetched : ∀ response slot, x.stage ≠ .fetched response slot) :
    Accounted { t with vault, sendings := t.sendings ++ [x] } m' := by
  have hsome : ∀ {p : Sending → Prop}, p x → ∀ z, some x = some z → p z := by
    rintro p hx z hz
    cases hz
    exact hx
  refine h.change hstore hadds (fun y hy _ _ _ => List.mem_append_left _ hy) (fun z hz => ?_)
    (hsome (List.mem_append_right _ (List.mem_singleton.2 rfl))) (hsome hasked) (hsome hserved)
    (hsome fun response σ hstage => absurd hstage (hfetched response _))
    fun _ _ hfalse => hfalse.elim
  rcases List.mem_append.1 hz with hold | hin
  · exact .inl hold
  · exact .inr (congrArg some (List.mem_singleton.1 hin).symm)

theorem Accounted.send (h : t.Accounted m) (i : Nat) (asked : Option Soap.Request) (url : Url)
    (action : String) (request : Bytes)
    (hasked : ∀ r, asked = some r → ∃ c, t.connections[i]? = some c ∧ url = c.settings.server ∧
      c.envelope r = .ok request) :
    ∃ m', (t.send i asked url action request).Accounted m' := by
  unfold Traffic.send
  split
  · exact ⟨m, h⟩
  · rename_i c hc
    obtain ⟨_, x, _, hb, _⟩ := h.bound i c hc
    cases hclosed : c.closed with
    | true =>
      rw [Connection.depart_of_closed hclosed]
      exact ⟨m, h.add ⟨i, asked, url, request, _⟩ h.store (.refl m _) hasked
        (fun _ _ hstage => by cases hstage) fun _ _ hstage => by cases hstage⟩
    | false =>
      rw [Connection.depart_of_some hclosed hb]
      obtain ⟨m', hstore, hadds, hfound⟩ := Vault.get_memory h.store x.id url request
      refine ⟨m', h.add ⟨i, asked, url, request, _⟩ hstore hadds hasked ?_ ?_⟩
      · -- what is served is in the store, and so it was fetched
        intro response slot hstage
        obtain ⟨hget, hslot⟩ := Connection.afterLookup_eq_served hstage
        obtain ⟨σ, e, hσ, hpartition, hfills, hkey, rfl⟩ := hfound response hget
        refine ⟨σ, hslot.trans hσ, ⟨c, _, hc, hb, hpartition⟩, ?_⟩
        have hf := h.entries σ e hfills
        rw [hkey] at hf
        exact hf
      · exact fun _ _ => Connection.afterLookup_ne_fetched

/-- A sending that has fetched nothing comes to another stage. What it fetches then is the only new
entry, if any. -/
theorem Accounted.replace (h : t.Accounted m) {vault : Vault} {new : String → Cache.Entry → Prop}
    {k : Nat} {x : Sending} {stage : Stage} (hk : t.sendings[k]? = some x)
    (hx : ∀ response slot, x.stage ≠ .fetched response slot)
    (hstore : vault.store? t.store = some (.memory m')) (hadds : m.Adds new m')
    (hserved : ∀ response slot, stage ≠ .served response slot)
    (hfetched : ∀ response σ, stage = .fetched response (some σ) →
      t.Uses m x σ ∧ ∃ p p', m.partitions.find? σ.partition = some p ∧
        p.lastNumber < σ.number ∧ m'.partitions.find? σ.partition = some p' ∧
        σ.number ≤ p'.lastNumber)
    (hentry : ∀ name e, new name e → stage = .fetched e.response (some ⟨name, e.number⟩) ∧
      x.key = e.key) :
    Accounted { t.advance k x stage with vault } m' := by
  have hsome : ∀ {p : Sending → Prop}, p { x with stage } →
      ∀ z, some { x with stage := stage } = some z → p z := by
    rintro p hp z hz
    cases hz
    exact hp
  refine h.change hstore hadds ?_ (fun z hz => ?_) (hsome ?_)
    (hsome (h.asked x (List.mem_of_getElem? hk)))
    (hsome fun response slot hstage => absurd hstage (hserved response slot)) (hsome hfetched)
    fun name e hnew => ⟨_, rfl, hentry name e hnew⟩
  · intro y hy response slot hstage
    obtain ⟨j, hj⟩ := List.mem_iff_getElem?.1 hy
    have hjk : k ≠ j := by
      rintro rfl
      rw [hk] at hj
      cases hj
      exact hx response slot hstage
    exact List.mem_of_getElem? ((List.getElem?_set_ne hjk).trans hj)
  · rcases mem_advance hz with rfl | hold
    · exact .inr rfl
    · exact .inl hold
  · have hlt : k < t.sendings.length := (List.getElem?_eq_some_iff.1 hk).1
    exact List.mem_of_getElem? (List.getElem?_set_self hlt)

/-- What was received does not matter here. -/
theorem Accounted.receive (h : t.Accounted m) (received : List Received) :
    Accounted { t with received } m :=
  ⟨h.store, h.sharing, h.numbered, h.bound, h.apart, h.asked, h.entries, h.served, h.fetched,
    h.once⟩

theorem Accounted.answer (h : t.Accounted m) {k : Nat} {x : Sending} {post : Exchange.Post}
    (hk : t.sendings[k]? = some x) (hx : x.stage = .waiting post)
    (outcome : Except Exchange.ExchangeError Bytes) :
    (t.advance k x (.ofOutcome outcome)).Accounted m := by
  have hstage : ∀ response slot, Stage.ofOutcome outcome ≠ .served response slot ∧
      Stage.ofOutcome outcome ≠ .fetched response slot := by
    intro response slot
    cases outcome <;> exact ⟨(fun hs => by cases hs), fun hs => by cases hs⟩
  refine h.replace hk (fun response slot hs => ?_) h.store (.refl m fun _ _ => False)
    (fun response slot => (hstage response slot).1)
    (fun response σ hs => absurd hs (hstage response _).2) fun _ _ hfalse => hfalse.elim
  rw [hx] at hs
  cases hs

theorem Accounted.arrive (h : t.Accounted m) {k : Nat} {x : Sending} {c : Connection}
    {response : Bytes} (hk : t.sendings[k]? = some x)
    (hc : t.connections[x.connection]? = some c) (hx : x.stage = .answered response) :
    ∃ m', Accounted { t.advance k x (c.arrive t.vault x.url x.request response).1 with
      vault := (c.arrive t.vault x.url x.request response).2 } m' := by
  have hnot : ∀ response slot, x.stage ≠ .fetched response slot := by
    intro response slot hs
    rw [hx] at hs
    cases hs
  obtain ⟨_, y, _, hb, _⟩ := h.bound _ c hc
  rw [Connection.arrive_of_some hb]
  obtain ⟨m', hstore, hput⟩ := Vault.put_memory h.store y.id x.url x.request response
  refine ⟨m', ?_⟩
  rcases hput with ⟨e, herror, rfl⟩ | ⟨hok, hadds, name, p, hp, hslot, p', hp', hnumber⟩
  · have hnone : c.keptSlot? t.vault x.url x.request response = none := by
      rw [Connection.keptSlot?_of_error hb herror]
    rw [hnone]
    refine h.replace hk hnot hstore (.refl m' fun _ _ => False) (fun _ _ hs => by cases hs) ?_
      fun _ _ hfalse => hfalse.elim
    intro response σ hs
    cases hs
  · have hsome : c.keptSlot? t.vault x.url x.request response =
        some ⟨name, p.lastNumber + 1⟩ := by
      rw [Connection.keptSlot?_of_ok hb hok, hslot]
    obtain ⟨hname, hpart⟩ := Memory.partition_eq_ok.1 hp
    rw [hsome]
    refine h.replace hk hnot hstore hadds (fun _ _ hs => by cases hs) ?_ ?_
    · -- the slot is the next one of the partition, and the last one after the put
      intro response σ hs
      cases hs
      exact ⟨⟨c, _, hc, hb, hname⟩, p, p', hpart, Nat.lt_succ_self _, hp',
        Nat.le_of_eq hnumber.symm⟩
    · rintro name' e ⟨q, hq, rfl⟩
      rw [hp] at hq
      cases hq
      exact ⟨rfl, rfl⟩

/-- Every action keeps the store accounted for. -/
theorem accounted_step (h : t.Accounted m) (a : Action) : ∃ m', (t.step a).Accounted m' := by
  cases a with
  | connect properties => exact h.connect properties
  | send i url action request => exact h.send i none url action request fun r hr => by cases hr
  | ask i r =>
    simp only [step, ask]
    split
    · exact ⟨m, h⟩
    · rename_i c hc
      split
      · exact ⟨m, h⟩
      · split
        · exact ⟨m, h⟩
        · rename_i request henvelope
          refine h.send i (some r) c.settings.server r.action request fun q hq => ?_
          cases hq
          exact ⟨c, hc, rfl, henvelope⟩
  | answer k a =>
    simp only [step]
    split
    · exact ⟨m, h⟩
    · rename_i x c hactive
      split
      · rename_i post hstage
        exact ⟨m, (h.answer (active?_eq_some.1 hactive).1 hstage (c.outcome a)).receive _⟩
      · exact ⟨m, h⟩
  | arrive k =>
    simp only [step]
    split
    · exact ⟨m, h⟩
    · rename_i x c hactive
      obtain ⟨hk, hc⟩ := active?_eq_some.1 hactive
      split
      · rename_i response hstage
        exact h.arrive hk hc hstage
      · exact ⟨m, h⟩
  | close i => exact ⟨m, h.close i⟩
  | flush => exact ⟨m.flush, h.lose (Vault.flush_memory h.store) (m.flush_adds _)⟩
  | sleep ms =>
    have hslept : Accounted { t with vault :=
        { t.vault with machine := t.vault.machine.sleep ms } } m :=
      h.lose h.store (.refl m _)
    exact ⟨m, hslept⟩

/-- Every run keeps the store accounted for. -/
theorem accounted_run (h : t.Accounted m) (actions : List Action) :
    ∃ m', (t.run actions).Accounted m' := by
  induction actions generalizing t m with
  | nil => exact ⟨m, h⟩
  | cons a actions ih =>
    obtain ⟨m', h'⟩ := accounted_step h a
    exact ih h'

theorem accounted_fresh {vault : Vault} {store : Nat} {defaults : Cache.Retention}
    (hstore : vault.store? store = some (.memory (.empty defaults))) :
    (fresh vault store []).Accounted (.empty defaults) where
  store := hstore
  sharing := rfl
  numbered := Cache.Registry.numbered_empty _
  bound i c hc := by cases hc
  apart i j a b ha := by cases ha
  asked x hx := by cases hx
  entries σ e hfills := by
    obtain ⟨_, p, hp, _⟩ := hfills
    rw [Memory.empty, NameMap.find?_empty] at hp
    cases hp
  served x hx := by cases hx
  fetched y hy := by cases hy
  once y hy := by cases hy

/-- Two sendings that use one partition are of one connection, or of connections with one name. -/
theorem Accounted.same_partition (h : t.Accounted m) {x y : Sending} {σ : Slot}
    (hx : t.Uses m x σ) (hy : t.Uses m y σ) :
    ∃ a b P Q, t.connections[x.connection]? = some a ∧ t.connections[y.connection]? = some b ∧
      a.OpenedWith P ∧ b.OpenedWith Q ∧ (x.connection = y.connection ∨
        ∃ name, partitionName? (route P).cache = some name ∧
          partitionName? (route Q).cache = some name) := by
  obtain ⟨a, ba, ha, hba, hpa⟩ := hx
  obtain ⟨b, bb, hb, hbb, hpb⟩ := hy
  obtain ⟨P, u, hP, hu, hlu, hpu⟩ := h.bound _ a ha
  obtain ⟨Q, w, hQ, hw, hlw, hpw⟩ := h.bound _ b hb
  refine ⟨a, b, P, Q, ha, hb, hP, hQ, ?_⟩
  rw [hu] at hba
  rw [hw] at hbb
  cases hba
  cases hbb
  rw [Cache.Registry.partitionOf_of_lookup hlu] at hpa
  rw [Cache.Registry.partitionOf_of_lookup hlw] at hpb
  have hpartition : u.partition = w.partition := Except.ok.inj (hpa.trans hpb.symm)
  rw [hpu, hpw] at hpartition
  rcases Sharing.isolated_partition_inj hpartition with hid | hname
  · exact .inl (h.apart _ _ a b ha hb (by rw [hu, hw, hid]))
  · exact .inr hname

end Traffic

theorem Connection.OpenedWith.requestProperties {c : Connection} {P : PropertyMap}
    (h : c.OpenedWith P) : c.settings.dataSource = Settings.value? P "DataSource" ∧
      c.settings.catalog = Settings.value? P "Catalog" := by
  obtain ⟨_, _, hs⟩ := Settings.ofProperties_eq_ok h.settings
  rw [hs]
  exact ⟨Settings.value?_route P (by decide), Settings.value?_route P (by decide)⟩

theorem partitionName?_route (P : PropertyMap) :
    partitionName? (route P).cache = Settings.value? P "Cache.Name" := by
  rw [partitionName?, route_cache_find? P (by decide)]
  rfl

/-- **A response is shared only where the same was asked.** Connections are opened on one store in
memory, which is fresh, and do anything at any time. Every response that a sending is served was
fetched by another one into the slot that it is served from. If both came about by requests that
callers asked, then both are of one connection, or of connections opened with the same `Cache.Name`;
and server, data source, catalog and the request itself are the same. -/
theorem served_from_same_request (vault : Vault) (store : Nat) (defaults : Cache.Retention)
    (hstore : vault.store? store = some (.memory (.empty defaults))) (actions : List Action) :
    let t := (Traffic.fresh vault store []).run actions
    (∀ x ∈ t.sendings, ∀ response slot, x.stage = .served response slot →
      ∃ σ, slot = some σ ∧ ∃ y ∈ t.sendings, y.stage = .fetched response (some σ)) ∧
    ∀ x ∈ t.sendings, ∀ y ∈ t.sendings, ∀ response response' σ r q,
      x.stage = .served response (some σ) → y.stage = .fetched response' (some σ) →
      x.asked = some r → y.asked = some q →
      response = response' ∧ r = q ∧ ∃ a b P Q,
        t.connections[x.connection]? = some a ∧ t.connections[y.connection]? = some b ∧
        a.OpenedWith P ∧ b.OpenedWith Q ∧
        (x.connection = y.connection ∨ ∃ name, Settings.value? P "Cache.Name" = some name ∧
          Settings.value? Q "Cache.Name" = some name) ∧
        a.settings.server.text = b.settings.server.text ∧
        Settings.value? P "DataSource" = Settings.value? Q "DataSource" ∧
        Settings.value? P "Catalog" = Settings.value? Q "Catalog" := by
  intro t
  obtain ⟨m, h⟩ : ∃ m, t.Accounted m :=
    Traffic.accounted_run (Traffic.accounted_fresh hstore) actions
  -- the slot that a sending is served from was filled by one sending only
  constructor
  · intro x hx response slot hstage
    obtain ⟨σ, hslot, _, y, hy, hfetched, _⟩ := h.served x hx response slot hstage
    exact ⟨σ, hslot, y, hy, hfetched⟩
  · intro x hx y hy response response' σ r q hserved hfetched hr hq
    obtain ⟨σ', hσ, huses, z, hz, hzfetched, hzkey⟩ := h.served x hx response _ hserved
    cases hσ
    obtain ⟨hkey, hresponse⟩ := h.once z hz y hy response response' σ hzfetched hfetched
    obtain ⟨a, b, P, Q, ha, hb, hP, hQ, hname⟩ :=
      h.same_partition huses (h.fetched y hy response' σ hfetched).1
    obtain ⟨a', ha', hxurl, hxbytes⟩ := h.asked x hx r hr
    obtain ⟨b', hb', hyurl, hybytes⟩ := h.asked y hy q hq
    rw [ha] at ha'
    cases ha'
    rw [hb] at hb'
    cases hb'
    -- one key means one location and the same bytes, which tell the requests apart
    have hxy : x.key = y.key := hzkey.symm.trans hkey
    obtain ⟨hurl, hbytes⟩ := Cache.EntryKey.mk.inj hxy
    rw [hxurl, hyurl] at hurl
    rw [← hbytes] at hybytes
    obtain ⟨hrequest, hsource, hcatalog⟩ := Connection.envelope_inj hxbytes hybytes
    rw [hP.requestProperties.1, hQ.requestProperties.1] at hsource
    rw [hP.requestProperties.2, hQ.requestProperties.2] at hcatalog
    rw [partitionName?_route, partitionName?_route] at hname
    exact ⟨hresponse, hrequest, a, b, P, Q, ha, hb, hP, hQ, hname, hurl, hsource, hcatalog⟩

/-- Of two connections of one name, the second is served what the first has fetched. -/
theorem served_from_same_name :
    let vault : Vault := ⟨⟨.empty, 0, fun n => toString n, 0⟩, [.memory (.empty .standard)]⟩
    let properties : PropertyMap :=
      ((∅ : PropertyMap).insert "Server" "http://h/x").insert "Cache.Name" " sales "
    let document : Bytes := Utf8.encodeString "<root></root>"
    let actions : List Action :=
      [.connect properties, .connect properties, .ask 0 (.execute "q"),
        .answer 0 (.reply ⟨200, document⟩), .arrive 0, .ask 1 (.execute "q")]
    let t := (Traffic.fresh vault 0 []).run actions
    ∃ a b, t.connections[1]? = some a ∧ t.connections[0]? = some b ∧
      t.sendings.map (·.stage) = [.fetched document (some ⟨"named:sales", 1⟩),
        .served document (some ⟨"named:sales", 1⟩)] ∧
      a.settings.server.text = b.settings.server.text := by
  intro vault properties document actions t
  have hsendings : t.sendings.map (fun x => (x.connection, x.asked, x.stage)) =
      [(0, some (.execute "q"), .fetched document (some ⟨"named:sales", 1⟩)),
        (1, some (.execute "q"), .served document (some ⟨"named:sales", 1⟩))] := by
    decide +kernel
  obtain ⟨y, ys, ht, hy, hys⟩ := List.map_eq_cons_iff.1 hsendings
  obtain ⟨x, xs, rfl, hx, hxs⟩ := List.map_eq_cons_iff.1 hys
  cases List.map_eq_nil_iff.1 hxs
  obtain ⟨hyc, hya, hyf⟩ : y.connection = 0 ∧ y.asked = some (.execute "q") ∧
      y.stage = .fetched document (some ⟨"named:sales", 1⟩) := by simpa using hy
  obtain ⟨hxc, hxa, hxs⟩ : x.connection = 1 ∧ x.asked = some (.execute "q") ∧
      x.stage = .served document (some ⟨"named:sales", 1⟩) := by simpa using hx
  have hxm : x ∈ t.sendings := by simp [ht]
  have hym : y ∈ t.sendings := by simp [ht]
  obtain ⟨_, _, a, b, _, _, ha, hb, _, _, _, hserver, _⟩ :=
    (served_from_same_request vault 0 .standard rfl actions).2 x hxm y hym document document
      ⟨"named:sales", 1⟩ _ _ hxs hyf hxa hya
  rw [hxc] at ha
  rw [hyc] at hb
  refine ⟨a, b, ha, hb, ?_, hserver⟩
  rw [ht, List.map_cons, List.map_cons, List.map_nil, hxs, hyf]

end OlapClient
