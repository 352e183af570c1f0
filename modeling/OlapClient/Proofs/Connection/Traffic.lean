import OlapClient.Proofs.Cache.Slots
import OlapClient.Proofs.Connection.Opening

namespace OlapClient

open Cache (EntryKey Slot Vault)
open Exchange (Answer Call Endpoint ExchangeError Post Reply)
open Location (Url)

/-!
# Traffic

Connections that share a store send requests at any time, so the stages of their exchanges take
turns. A traffic is what they have done so far.

* `Connection.depart`, `Connection.arrive` — the stages of an exchange before and after the network.
* `Connection.exchange_run_of_waiting`, … — a whole exchange is its stages, one after the other.
* `Traffic`, `Action` — connections with their sendings, and what can happen next.
* `Traffic.fresh` — connections that have sent nothing yet.
* `Traffic.step`, `Traffic.run` — one action, and a list of them.
-/

/-! ### Stages of an exchange -/

/-- How far an exchange has come. A response comes with the slot that it was read from or put
into. -/
inductive Stage where
  | waiting (post : Post)
  /-- The post has yielded a response that is not kept yet. -/
  | answered (response : Bytes)
  | served (response : Bytes) (slot : Option Slot)
  | fetched (response : Bytes) (slot : Option Slot)
  | failed (e : ExchangeError)
deriving DecidableEq, Repr

/-- The result of an exchange that has ended. -/
def Stage.result? : Stage → Option (Except ExchangeError Bytes)
  | .waiting _ => none
  | .answered _ => none
  | .served response _ => some (.ok response)
  | .fetched response _ => some (.ok response)
  | .failed e => some (.error e)

/-- The stage of an exchange whose post has yielded an outcome. -/
def Stage.ofOutcome : Except ExchangeError Bytes → Stage
  | .ok response => .answered response
  | .error e => .failed e

namespace Connection

/-- The slot that a request on a connection is served from. -/
def slot? (c : Connection) (v : Vault) (url : Url) (request : Bytes) : Option Slot :=
  c.binding.bind fun b => v.slot? b.store b.session url request

/-- The slot that a response is kept in, if it can be kept. -/
def keptSlot? (c : Connection) (v : Vault) (url : Url) (request response : Bytes) : Option Slot :=
  c.binding.bind fun b =>
    match v.put b.store b.session url request response with
    | (.ok _, v') => v'.slot? b.store b.session url request
    | (.error _, _) => none

/-- The stage of an exchange that its cache cannot answer. A request that cannot be built is not
posted. -/
def dispatch (c : Connection) (url : Url) (action : String) (request : Bytes) : Stage :=
  match c.endpoint.post? url action request with
  | .error e => .failed (.wire (.network e))
  | .ok post => .waiting post

/-- The stage of an exchange up to the network: the look-up, and the request that is posted. -/
def depart (c : Connection) (v : Vault) (url : Url) (action : String) (request : Bytes) :
    Stage × Vault :=
  match Exchange.openExchange c.backing c.closed v url request with
  | (.failed e, v') => (.failed e, v')
  | (.served response, v') => (.served response (c.slot? v url request), v')
  | (.posting, v') => (c.dispatch url action request, v')

/-- What a post yields on a connection, which may have been closed meanwhile. -/
def outcome (c : Connection) (answer : Answer) : Except ExchangeError Bytes :=
  if c.closed then .error .cancelled else answer.outcome

/-- The stage of an exchange after the network: keeping the response. -/
def arrive (c : Connection) (v : Vault) (url : Url) (request response : Bytes) : Stage × Vault :=
  (.fetched response (c.keptSlot? v url request response),
    Exchange.keep c.backing v url request response)

variable {c : Connection} {v : Vault} {url : Url} {action : String} {request : Bytes}

/-- A closed connection does not reach its store. -/
theorem depart_of_closed (h : c.closed = true) :
    c.depart v url action request = (.failed .cancelled, v) := by
  simp only [depart, Exchange.openExchange, h, if_true]

/-- Without a store every request is posted. -/
theorem depart_of_none (h : c.closed = false) (hb : c.binding = none) :
    c.depart v url action request = (c.dispatch url action request, v) := by
  simp only [depart, Exchange.openExchange, backing, h, hb, Option.map_none, Bool.false_eq_true,
    if_false]

/-- The stage after a look-up. -/
def afterLookup (c : Connection) (b : Binding) (v : Vault) (url : Url) (action : String)
    (request : Bytes) : Except CacheError (Option Bytes) → Stage
  | .error e => .failed (.cache e)
  | .ok (some response) => .served response (v.slot? b.store b.session url request)
  | .ok none => c.dispatch url action request

/-- What a request is served comes from the look-up. -/
theorem afterLookup_eq_served {b : Binding} {found : Except CacheError (Option Bytes)}
    {response : Bytes} {slot : Option Slot}
    (h : c.afterLookup b v url action request found = .served response slot) :
    found = .ok (some response) ∧ slot = v.slot? b.store b.session url request := by
  rcases found with e | none | r
  · cases h
  · unfold afterLookup dispatch at h
    dsimp only at h
    split at h <;> cases h
  · cases h
    exact ⟨rfl, rfl⟩

/-- Nothing has been fetched before the network answers. -/
theorem afterLookup_ne_fetched {b : Binding} {found : Except CacheError (Option Bytes)}
    {response : Bytes} {slot : Option Slot} :
    c.afterLookup b v url action request found ≠ .fetched response slot := by
  rcases found with e | none | r
  · intro h
    cases h
  · unfold afterLookup dispatch
    dsimp only
    split <;> intro h <;> cases h
  · intro h
    cases h

/-- With a store the look-up decides. -/
theorem depart_of_some {b : Binding} (h : c.closed = false) (hb : c.binding = some b) :
    c.depart v url action request =
      (c.afterLookup b v url action request (v.get b.store b.session url request).1,
        (v.get b.store b.session url request).2) := by
  simp only [depart, Exchange.openExchange, backing, h, hb, Option.map_some, Bool.false_eq_true,
    if_false, Binding.backing, slot?, Option.bind_some]
  cases hget : v.get b.store b.session url request with
  | mk found v' =>
    rcases found with e | none | response <;> rfl

theorem arrive_of_none {response : Bytes} (hb : c.binding = none) :
    c.arrive v url request response = (.fetched response none, v) := by
  simp only [arrive, Exchange.keep, backing, hb, Option.map_none, keptSlot?, Option.bind_none]

/-- With a store the response is put. A failure to put it does not matter. -/
theorem arrive_of_some {b : Binding} {response : Bytes} (hb : c.binding = some b) :
    c.arrive v url request response =
      (.fetched response (c.keptSlot? v url request response),
        (v.put b.store b.session url request response).2) := by
  simp only [arrive, Exchange.keep, backing, hb, Option.map_some, Binding.backing]

theorem keptSlot?_of_ok {b : Binding} {response : Bytes} (hb : c.binding = some b)
    (h : (v.put b.store b.session url request response).1 = .ok ()) :
    c.keptSlot? v url request response =
      (v.put b.store b.session url request response).2.slot? b.store b.session url request := by
  simp only [keptSlot?, hb, Option.bind_some]
  split
  · rename_i heq
    rw [heq]
  · rename_i heq
    rw [heq] at h
    cases h

theorem keptSlot?_of_error {b : Binding} {response : Bytes} {e : CacheError}
    (hb : c.binding = some b) (h : (v.put b.store b.session url request response).1 = .error e) :
    c.keptSlot? v url request response = none := by
  simp only [keptSlot?, hb, Option.bind_some]
  split
  · rename_i heq
    rw [heq] at h
    cases h
  · rfl

/-! A whole exchange is its stages, one after the other. -/

section Whole

variable {σ : Type} {network : σ → Post → Answer × σ} {s : σ} {v' : Vault}

theorem exchange_run_of_failed {e : ExchangeError}
    (h : c.depart v url action request = (.failed e, v')) :
    (Exchange.exchange c.endpoint c.backing c.closed v url action request).run network s =
      ((.error e, v'), s) := by
  unfold depart at h
  unfold Exchange.exchange
  split at h
  · rename_i hopen
    cases h
    rw [hopen]
    rfl
  · cases h
  · rename_i hopen
    rw [hopen]
    unfold dispatch at h
    split at h
    · rename_i hpost
      cases h
      simp only [Endpoint.call, hpost, Call.map, Call.bind, Call.run, Exchange.closeExchange]
    · cases h

theorem exchange_run_of_served {response : Bytes} {slot : Option Slot}
    (h : c.depart v url action request = (.served response slot, v')) :
    (Exchange.exchange c.endpoint c.backing c.closed v url action request).run network s =
      ((.ok response, v'), s) := by
  unfold depart at h
  unfold Exchange.exchange
  split at h
  · cases h
  · rename_i hopen
    cases h
    rw [hopen]
    rfl
  · unfold dispatch at h
    split at h <;> cases h

theorem exchange_run_of_waiting {post : Post}
    (h : c.depart v url action request = (.waiting post, v')) :
    (Exchange.exchange c.endpoint c.backing c.closed v url action request).run network s =
      (Exchange.closeExchange c.backing v' url request (network s post).1.outcome,
        (network s post).2) := by
  unfold depart at h
  unfold Exchange.exchange
  split at h
  · cases h
  · cases h
  · rename_i hopen
    rw [hopen]
    unfold dispatch at h
    split at h
    · cases h
    · rename_i hpost
      cases h
      simp only [Endpoint.call, hpost, Call.map, Call.bind, Call.run]

end Whole

end Connection

/-! ### Connections and their sendings -/

/-- An exchange of a connection, which is named by its position. `asked` is the request that the
caller of the connection asked, if the exchange came about so. -/
structure Sending where
  connection : Nat
  asked : Option Soap.Request
  url : Url
  request : Bytes
  stage : Stage

/-- What a sending is looked up by, and kept under. -/
def Sending.key (x : Sending) : EntryKey :=
  .of x.url x.request

/-- A reply that the network has delivered, to a post for a location. -/
structure Received where
  url : Url
  post : Post
  reply : Reply

/-- Connections, the store that they share, and what they have sent and received. -/
structure Traffic where
  vault : Vault
  store : Nat
  connections : List Connection
  sendings : List Sending
  received : List Received

/-- What can happen next. -/
inductive Action where
  /-- Open another connection on the shared store. -/
  | connect (properties : PropertyMap)
  /-- Send any bytes to any location. -/
  | send (connection : Nat) (url : Url) (action : String) (request : Bytes)
  /-- Ask a request of a connection. -/
  | ask (connection : Nat) (request : Soap.Request)
  /-- The network answers the post of a sending. -/
  | answer (sending : Nat) (a : Answer)
  /-- A sending goes on with what its post has yielded. -/
  | arrive (sending : Nat)
  | close (connection : Nat)
  | flush
  | sleep (ms : Nat)

/-- The reply in an answer to a post, if there is one. -/
def Received.ofAnswer (url : Url) (post : Post) : Answer → List Received
  | .reply r => [⟨url, post, r⟩]
  | _ => []

namespace Traffic

/-- Connections that share a store and have sent nothing yet. -/
def fresh (vault : Vault) (store : Nat) (connections : List Connection) : Traffic :=
  ⟨vault, store, connections, [], []⟩

/-- Open a connection on the shared store. -/
def connect (t : Traffic) (properties : PropertyMap) : Traffic :=
  match Connection.start t.vault properties (some t.store) with
  | (.error _, vault) => { t with vault }
  | (.ok c, vault) => { t with vault, connections := t.connections ++ [c] }

/-- Begin a sending on a connection. -/
def send (t : Traffic) (i : Nat) (asked : Option Soap.Request) (url : Url) (action : String)
    (request : Bytes) : Traffic :=
  match t.connections[i]? with
  | none => t
  | some c =>
    let (stage, vault) := c.depart t.vault url action request
    { t with vault, sendings := t.sendings ++ [⟨i, asked, url, request, stage⟩] }

/-- Ask a request of a connection, which sends its bytes to its server. -/
def ask (t : Traffic) (i : Nat) (r : Soap.Request) : Traffic :=
  match t.connections[i]? with
  | none => t
  | some c =>
    if c.closed then t
    else
      match c.envelope r with
      | .error _ => t
      | .ok request => t.send i (some r) c.settings.server r.action request

/-- A sending with its connection. -/
def active? (t : Traffic) (k : Nat) : Option (Sending × Connection) :=
  t.sendings[k]?.bind fun x => t.connections[x.connection]?.map fun c => (x, c)

/-- Bring a sending to another stage. -/
def advance (t : Traffic) (k : Nat) (x : Sending) (stage : Stage) : Traffic :=
  { t with sendings := t.sendings.set k { x with stage } }

/-- Do what happens next. What cannot happen changes nothing. -/
def step (t : Traffic) : Action → Traffic
  | .connect properties => t.connect properties
  | .send i url action request => t.send i none url action request
  | .ask i r => t.ask i r
  | .answer k a =>
    match t.active? k with
    | none => t
    | some (x, c) =>
      match x.stage with
      | .waiting post =>
        { t.advance k x (.ofOutcome (c.outcome a)) with
          received := t.received ++ Received.ofAnswer x.url post a }
      | _ => t
  | .arrive k =>
    match t.active? k with
    | none => t
    | some (x, c) =>
      match x.stage with
      | .answered response =>
        let (stage, vault) := c.arrive t.vault x.url x.request response
        { t.advance k x stage with vault }
      | _ => t
  | .close i => { t with connections := t.connections.modify i Connection.close }
  | .flush => { t with vault := t.vault.flush t.store }
  | .sleep ms => { t with vault := { t.vault with machine := t.vault.machine.sleep ms } }

/-- Do actions, one after the other. -/
def run (t : Traffic) : List Action → Traffic
  | [] => t
  | a :: actions => (t.step a).run actions

/-! ### What actions do to sendings -/

variable {t : Traffic} {k : Nat} {x y : Sending} {c : Connection} {stage : Stage}

theorem active?_eq_some :
    t.active? k = some (x, c) ↔
      t.sendings[k]? = some x ∧ t.connections[x.connection]? = some c := by
  simp only [active?, Option.bind_eq_some_iff, Option.map_eq_some_iff, Prod.mk.injEq]
  constructor
  · rintro ⟨_, hx, _, hc, rfl, rfl⟩
    exact ⟨hx, hc⟩
  · rintro ⟨hx, hc⟩
    exact ⟨x, hx, c, hc, rfl, rfl⟩

/-- After a sending was advanced, every sending is that one or one from before. -/
theorem mem_advance (h : y ∈ (t.advance k x stage).sendings) :
    y = { x with stage } ∨ y ∈ t.sendings :=
  (List.mem_or_eq_of_mem_set h).symm

/-- Advancing a sending keeps all sendings but for their stages. -/
theorem mem_advance_of_mem (hk : t.sendings[k]? = some x) (hy : y ∈ t.sendings) :
    ∃ stage', { y with stage := stage' } ∈ (t.advance k x stage).sendings := by
  obtain ⟨j, hj⟩ := List.mem_iff_getElem?.1 hy
  by_cases hjk : k = j
  · subst hjk
    rw [hk] at hj
    cases hj
    refine ⟨stage, List.mem_iff_getElem?.2 ⟨k, ?_⟩⟩
    have hlt : k < t.sendings.length := (List.getElem?_eq_some_iff.1 hk).1
    exact List.getElem?_set_self hlt
  · refine ⟨y.stage, List.mem_iff_getElem?.2 ⟨j, ?_⟩⟩
    exact (List.getElem?_set_ne hjk).trans hj

theorem mem_send_of_mem {i : Nat} {asked : Option Soap.Request} {url : Url} {action : String}
    {request : Bytes} (hy : y ∈ t.sendings) :
    y ∈ (t.send i asked url action request).sendings := by
  unfold send
  split
  · exact hy
  · exact List.mem_append_left _ hy

/-- Sendings stay, but for their stages. -/
theorem mem_step_of_mem (a : Action) (hy : y ∈ t.sendings) :
    ∃ stage, { y with stage } ∈ (t.step a).sendings := by
  cases a with
  | connect properties =>
    refine ⟨y.stage, ?_⟩
    simp only [step, connect]
    split <;> exact hy
  | send i url action request => exact ⟨y.stage, mem_send_of_mem hy⟩
  | ask i r =>
    refine ⟨y.stage, ?_⟩
    simp only [step, ask]
    split
    · exact hy
    · split
      · exact hy
      · split
        · exact hy
        · exact mem_send_of_mem hy
  | answer k a =>
    simp only [step]
    split
    · exact ⟨y.stage, hy⟩
    · rename_i hactive
      split
      · exact mem_advance_of_mem (active?_eq_some.1 hactive).1 hy
      · exact ⟨y.stage, hy⟩
  | arrive k =>
    simp only [step]
    split
    · exact ⟨y.stage, hy⟩
    · rename_i hactive
      split
      · exact mem_advance_of_mem (active?_eq_some.1 hactive).1 hy
      · exact ⟨y.stage, hy⟩
  | close i => exact ⟨y.stage, hy⟩
  | flush => exact ⟨y.stage, hy⟩
  | sleep ms => exact ⟨y.stage, hy⟩

theorem mem_run_of_mem (actions : List Action) (hy : y ∈ t.sendings) :
    ∃ stage, { y with stage } ∈ (t.run actions).sendings := by
  induction actions generalizing t y with
  | nil => exact ⟨y.stage, hy⟩
  | cons a actions ih =>
    obtain ⟨_, hstep⟩ := mem_step_of_mem a hy
    obtain ⟨stage, hrun⟩ := ih hstep
    exact ⟨stage, hrun⟩

/-- The shared store stays the same. -/
theorem step_store (t : Traffic) (a : Action) : (t.step a).store = t.store := by
  have hsend : ∀ i asked url action request,
      (t.send i asked url action request).store = t.store := by
    intro i asked url action request
    unfold send
    split <;> rfl
  cases a with
  | connect properties =>
    simp only [step, connect]
    split <;> rfl
  | send i url action request => exact hsend _ _ _ _ _
  | ask i r =>
    simp only [step, ask]
    split
    · rfl
    · split
      · rfl
      · split
        · rfl
        · exact hsend _ _ _ _ _
  | answer k a =>
    simp only [step]
    split
    · rfl
    · split <;> rfl
  | arrive k =>
    simp only [step]
    split
    · rfl
    · split <;> rfl
  | close i => rfl
  | flush => rfl
  | sleep ms => rfl

theorem run_store (t : Traffic) (actions : List Action) :
    (t.run actions).store = t.store := by
  induction actions generalizing t with
  | nil => rfl
  | cons a actions ih => exact (ih (t.step a)).trans (step_store t a)

end Traffic

end OlapClient
