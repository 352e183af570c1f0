import OlapClient.Proofs.Connection.Envelope
import OlapClient.Proofs.Connection.Traffic

namespace OlapClient

open Cache (EntryKey Vault)
open Exchange (Answer Call ExchangeError NetworkError Post Reply)
open Location (Url)
open Rowset (Table)

/-!
# A cache is not noticed

A caller of a connection cannot tell from its results whether the connection has a cache, as long as
the server answers the same request in the same way. The server can: it gets fewer requests.

* `Responder` — a server whose answers are a function of location, action and body.
* `Caller`, `Turn` — a connection that is used by one caller, and what the caller does.
* `Caller.step`, `Caller.run` — one turn, and a list of them, with the results of requests.
* `Connection.fetched` — what a request yields without a cache.
* `Agrees` — the simulation: a store holds nothing but what the server would answer.
* `agrees_step`, `agrees_run` — every turn, and so every run, keeps it and has the same results.
* `cache_transparent` — the same for connections that were opened with and without a cache.
-/

/-! ### Callers -/

/-- What a server answers to the action and the body that are posted to a location. -/
abbrev Responder := Url → String → Bytes → Except NetworkError Reply

namespace Responder

/-- The answer to a post. -/
def answer (server : Responder) (post : Post) : Answer :=
  match server post.location post.soapAction post.body with
  | .ok r => .reply r
  | .error e => .failed e

/-- The network to a server, which keeps a log of the posts that reach it. -/
def network (server : Responder) (log : List Post) (post : Post) : Answer × List Post :=
  (server.answer post, log ++ [post])

end Responder

/-- A connection that is used by one caller, the stores of its client, and the posts so far. -/
structure Caller where
  connection : Connection
  vault : Vault
  posts : List Post

/-- What a caller does, or that time goes on. -/
inductive Turn where
  | ask (r : Soap.Request)
  | close
  | flush
  | sleep (ms : Nat)

namespace Caller

/-- The caller of a connection that has just been opened, if it could be. -/
def start? (v : Vault) (P : PropertyMap) : Option Caller :=
  match Connection.start v P none with
  | (.ok c, vault) => some ⟨c, vault, []⟩
  | (.error _, _) => none

/-- Ask a request, for its result. -/
def ask (k : Caller) (server : Responder) (r : Soap.Request) :
    Except ConnectionError Table × Caller :=
  let ((result, vault), posts) := (k.connection.request k.vault r).run server.network k.posts
  (result, { k with vault, posts })

/-- Take a turn. Only a request has a result. -/
def step (k : Caller) (server : Responder) : Turn → List (Except ConnectionError Table) × Caller
  | .ask r =>
    let (result, k') := k.ask server r
    ([result], k')
  | .close => ([], { k with connection := k.connection.close })
  | .flush => ([], { k with vault := k.connection.flush k.vault })
  | .sleep ms => ([], { k with vault := { k.vault with machine := k.vault.machine.sleep ms } })

/-- Take turns, one after the other, for the results of all requests. -/
def run (k : Caller) (server : Responder) :
    List Turn → List (Except ConnectionError Table) × Caller
  | [] => ([], k)
  | turn :: turns =>
    let (results, k') := k.step server turn
    let (more, k'') := k'.run server turns
    (results ++ more, k'')

variable {k : Caller} {server : Responder} {turn : Turn} {turns : List Turn}

theorem start?_eq_some {v : Vault} {P : PropertyMap} :
    start? v P = some k ↔
      Connection.start v P none = (.ok k.connection, k.vault) ∧ k.posts = [] := by
  unfold start?
  rcases hs : Connection.start v P none with ⟨e | c, vault⟩
  · constructor
    · intro h
      cases h
    · rintro ⟨h, _⟩
      cases h
  · constructor
    · intro h
      cases h
      exact ⟨rfl, rfl⟩
    · rintro ⟨h, hposts⟩
      cases k
      cases h
      cases hposts
      rfl

theorem run_cons : k.run server (turn :: turns) =
    ((k.step server turn).1 ++ ((k.step server turn).2.run server turns).1,
      ((k.step server turn).2.run server turns).2) := rfl

end Caller

/-! ### Requests with and without a cache -/

namespace Connection

variable {c : Connection} {server : Responder} {v : Vault} {r : Soap.Request} {bytes : Bytes}
  {log : List Post}

/-- What the server of a connection yields for the bytes of a request, and what is posted to it. -/
def fetched (c : Connection) (server : Responder) (r : Soap.Request) (bytes : Bytes) :
    Except ExchangeError Bytes × List Post :=
  match c.endpoint.post? c.settings.server r.action bytes with
  | .error e => (.error (.wire (.network e)), [])
  | .ok post => ((server.answer post).outcome, [post])

theorem request_of_closed (h : c.closed = true) :
    (c.request v r).run server.network log = ((.error .closed, v), log) := by
  simp only [request, h, if_true, Call.run]

theorem request_of_error {e : ConnectionError} (h : c.closed = false)
    (he : c.envelope r = .error e) :
    (c.request v r).run server.network log = ((.error e, v), log) := by
  simp only [request, h, he, Bool.false_eq_true, if_false, Call.run]

/-- A request is its exchange with the outcome decoded. -/
theorem request_run (h : c.closed = false) (he : c.envelope r = .ok bytes) :
    (c.request v r).run server.network log =
      let run := (Exchange.exchange c.endpoint c.backing c.closed v c.settings.server r.action
        bytes).run server.network log
      ((decodeOutcome run.1.1, run.1.2), run.2) := by
  simp only [request, h, he, Bool.false_eq_true, if_false, Call.map, Call.run_bind, Call.run]

/-- The vault after what the server yields was kept. -/
def afterFetch (c : Connection) (v : Vault) (server : Responder) (r : Soap.Request)
    (bytes : Bytes) : Vault :=
  match (c.fetched server r bytes).1 with
  | .error _ => v
  | .ok response => Exchange.keep c.backing v c.settings.server bytes response

/-- The result of a request that is sent is what the server yields. -/
theorem request_of_dispatch {v' : Vault} (h : c.closed = false) (he : c.envelope r = .ok bytes)
    (hdepart : c.depart v c.settings.server r.action bytes =
      (c.dispatch c.settings.server r.action bytes, v')) :
    (c.request v r).run server.network log =
      ((decodeOutcome (c.fetched server r bytes).1, c.afterFetch v' server r bytes),
        log ++ (c.fetched server r bytes).2) := by
  rw [request_run h he]
  -- a request that cannot be built is not posted, and the server does not get to answer it
  unfold dispatch at hdepart
  unfold afterFetch fetched
  cases hpost : c.endpoint.post? c.settings.server r.action bytes with
  | error e =>
    rw [hpost] at hdepart
    rw [exchange_run_of_failed hdepart, List.append_nil]
  | ok post =>
    rw [hpost] at hdepart
    rw [exchange_run_of_waiting hdepart]
    dsimp only [Responder.network]
    cases (server.answer post).outcome with
    | error e => rfl
    | ok response => rfl

/-- Without a store every request is sent. -/
theorem request_of_none (h : c.closed = false) (he : c.envelope r = .ok bytes)
    (hb : c.binding = none) :
    (c.request v r).run server.network log =
      ((decodeOutcome (c.fetched server r bytes).1, v),
        log ++ (c.fetched server r bytes).2) := by
  have hafter : c.afterFetch v server r bytes = v := by
    unfold afterFetch
    split
    · rfl
    · simp only [Exchange.keep, backing, hb, Option.map_none]
  rw [request_of_dispatch h he (depart_of_none h hb), hafter]

section Bound

variable {b : Binding} (h : c.closed = false) (he : c.envelope r = .ok bytes)
  (hb : c.binding = some b)

include h he hb

/-- A failure to look a request up is its result. -/
theorem request_of_failure {e : CacheError}
    (hget : (v.get b.store b.session c.settings.server bytes).1 = .error e) :
    (c.request v r).run server.network log =
      ((.error (.cache e), (v.get b.store b.session c.settings.server bytes).2), log) := by
  have hdepart : c.depart v c.settings.server r.action bytes = _ := depart_of_some h hb
  rw [hget] at hdepart
  rw [request_run h he, exchange_run_of_failed hdepart]
  rfl

/-- A response that is found is decoded, and nothing is posted. -/
theorem request_of_hit {response : Bytes}
    (hget : (v.get b.store b.session c.settings.server bytes).1 = .ok (some response)) :
    (c.request v r).run server.network log =
      ((decodeOutcome (.ok response), (v.get b.store b.session c.settings.server bytes).2),
        log) := by
  have hdepart : c.depart v c.settings.server r.action bytes = _ := depart_of_some h hb
  rw [hget] at hdepart
  rw [request_run h he, exchange_run_of_served hdepart]

/-- A request whose response is not found is sent. -/
theorem request_of_miss (hget : (v.get b.store b.session c.settings.server bytes).1 = .ok none) :
    (c.request v r).run server.network log =
      ((decodeOutcome (c.fetched server r bytes).1,
        c.afterFetch (v.get b.store b.session c.settings.server bytes).2 server r bytes),
        log ++ (c.fetched server r bytes).2) := by
  have hdepart : c.depart v c.settings.server r.action bytes = _ := depart_of_some h hb
  rw [hget] at hdepart
  exact request_of_dispatch h he hdepart

end Bound

/-! ### What a store may hold -/

/-- A response is what the server would yield for every request of a key. -/
def Faithful (c : Connection) (server : Responder) (key : EntryKey) (response : Bytes) : Prop :=
  ∀ r bytes, c.envelope r = .ok bytes → key = .of c.settings.server bytes →
    (c.fetched server r bytes).1 = .ok response

/-- What the server has yielded for a request is what it would yield for its key, since no other
request has the same bytes. -/
theorem faithful_fetched (he : c.envelope r = .ok bytes) {response : Bytes}
    (hfetched : (c.fetched server r bytes).1 = .ok response) :
    c.Faithful server (.of c.settings.server bytes) response := by
  -- the key has no action, but the bytes tell the request and thereby its action
  intro q bytes' hq hkey
  obtain ⟨_, rfl⟩ := EntryKey.mk.inj hkey
  obtain ⟨rfl, _⟩ := envelope_inj he hq
  exact hfetched

/-- Keeping what the server has yielded adds nothing else to the store. -/
theorem afterFetch_adds {b : Binding} (hb : c.binding = some b) (he : c.envelope r = .ok bytes)
    (hfit : v.Records b.store → (EntryKey.of c.settings.server bytes).Writable) :
    v.Adds b.store (c.Faithful server) (c.afterFetch v server r bytes) := by
  unfold afterFetch
  split
  · exact .refl v _ _
  · rename_i response hfetched
    have hadds := v.put_adds b.store b.session c.settings.server bytes response hfit
    simp only [Exchange.keep, backing, hb, Option.map_some, Binding.backing]
    refine ⟨hadds.kind, hadds.knows, fun partition key kept hh => ?_⟩
    rcases hadds.holds partition key kept hh with hold | ⟨rfl, rfl⟩
    · exact .inl hold
    · exact .inr (faithful_fetched he hfetched)

end Connection

/-! ### The simulation -/

/-- A store of recordings can write what a turn sends: its length fits into eight bytes. -/
def Turn.Writable (c : Connection) : Turn → Prop
  | .ask r => ∀ bytes, c.envelope r = .ok bytes →
      (EntryKey.of c.settings.server bytes).Writable
  | _ => True

/-- The caller's store keeps recordings in files. -/
def Caller.Records (k : Caller) : Prop :=
  ∃ b, k.connection.binding = some b ∧ k.vault.Records b.store

/-- The caller's store holds a response. -/
def Caller.Holds (k : Caller) (partition : String) (key : EntryKey) (response : Bytes) : Prop :=
  ∃ b, k.connection.binding = some b ∧ k.vault.Holds b.store partition key response

/-- The second caller has no cache and is alike in all else. The store of the first knows its
session and holds nothing but what the server would yield; it keeps recordings only if it always
did. The first has posted no more than the second. -/
structure Agrees (server : Responder) (records : Prop) (k u : Caller) : Prop where
  settings : u.connection.settings = { k.connection.settings with cache := none }
  endpoint : u.connection.endpoint = k.connection.endpoint
  closed : u.connection.closed = k.connection.closed
  unbound : u.connection.binding = none
  kind : k.Records → records
  known : ∀ b, k.connection.binding = some b → k.vault.Knows b.store b.session
  faithful : ∀ partition key response, k.Holds partition key response →
    k.connection.Faithful server key response
  posts : k.posts.Sublist u.posts

namespace Agrees

variable {server : Responder} {records : Prop} {k u : Caller} {r : Soap.Request} {bytes : Bytes}

theorem envelope_eq (h : Agrees server records k u) (r : Soap.Request) :
    u.connection.envelope r = k.connection.envelope r := by
  unfold Connection.envelope Settings.requestProperties
  rw [h.settings]

theorem fetched_eq (h : Agrees server records k u) (r : Soap.Request) (bytes : Bytes) :
    u.connection.fetched server r bytes = k.connection.fetched server r bytes := by
  unfold Connection.fetched
  rw [h.settings, h.endpoint]

/-- The first caller's vault may be replaced by one that adds what the server would yield. -/
theorem update (h : Agrees server records k u) {vault vault' : Vault} {posts posts' : List Post}
    (hadds : ∀ b, k.connection.binding = some b →
      k.vault.Adds b.store (k.connection.Faithful server) vault)
    (hposts : posts.Sublist posts') :
    Agrees server records { k with vault, posts } { u with vault := vault', posts := posts' } where
  settings := h.settings
  endpoint := h.endpoint
  closed := h.closed
  unbound := h.unbound
  kind := by
    rintro ⟨b, hb, hrecords⟩
    exact h.kind ⟨b, hb, (hadds b hb).kind.1 hrecords⟩
  known b hb := (hadds b hb).knows _ (h.known b hb)
  faithful partition key response := by
    rintro ⟨b, hb, hh⟩
    rcases (hadds b hb).holds partition key response hh with hold | hnew
    · exact h.faithful partition key response ⟨b, hb, hold⟩
    · exact hnew
  posts := hposts

/-- A request of the first caller yields what the server would yield. Only that is kept, and no more
is posted than is without a store. -/
theorem ask_fetched (h : Agrees server records k u) (hk : k.connection.closed = false)
    (he : k.connection.envelope r = .ok bytes)
    (hread : records → ∀ cause, (k.ask server r).1 ≠ .error (.cache (.storage cause)))
    (hfit : records → Turn.Writable k.connection (.ask r)) :
    ∃ vault posts, k.ask server r =
        (Connection.decodeOutcome (k.connection.fetched server r bytes).1,
          { k with vault, posts }) ∧
      (∀ b, k.connection.binding = some b →
        k.vault.Adds b.store (k.connection.Faithful server) vault) ∧
      posts.Sublist (k.posts ++ (k.connection.fetched server r bytes).2) := by
  cases hb : k.connection.binding with
  | none =>
    refine ⟨k.vault, k.posts ++ (k.connection.fetched server r bytes).2, ?_, ?_, .refl _⟩
    · rw [Caller.ask, Connection.request_of_none hk he hb]
    · intro b hb'
      cases hb'
  | some b =>
    have hget := k.vault.get_adds b.store b.session k.connection.settings.server bytes
      (k.connection.Faithful server)
    have hbound : ∀ {vault}, k.vault.Adds b.store (k.connection.Faithful server) vault →
        ∀ b', some b = some b' →
          k.vault.Adds b'.store (k.connection.Faithful server) vault := by
      rintro vault hadds b' hb'
      cases hb'
      exact hadds
    rcases hfound : (k.vault.get b.store b.session k.connection.settings.server bytes).1 with
      e | _ | response
    · -- a known session's look-up fails only where files do, which has been excluded
      exfalso
      obtain ⟨hrecords, cause, rfl⟩ := Vault.get_eq_error (h.known b hb)
        (Connection.envelope_ne_nil he) hfound
      refine hread (h.kind ⟨b, hb, hrecords⟩) cause ?_
      rw [Caller.ask, Connection.request_of_failure hk he hb hfound]
    · have hkept := hget.trans (Connection.afterFetch_adds (r := r) hb he fun hrecords =>
        hfit (h.kind ⟨b, hb, hget.kind.1 hrecords⟩) bytes he)
      refine ⟨_, k.posts ++ (k.connection.fetched server r bytes).2, ?_, hbound hkept, .refl _⟩
      rw [Caller.ask, Connection.request_of_miss hk he hb hfound]
    · -- what is found was held, so the server would yield it
      obtain ⟨partition, hh⟩ := Vault.held_of_found hfound
      have hfetched : (k.connection.fetched server r bytes).1 = .ok response :=
        h.faithful partition _ response ⟨b, hb, hh⟩ r bytes he rfl
      refine ⟨_, k.posts, ?_, hbound hget, List.sublist_append_left _ _⟩
      rw [Caller.ask, Connection.request_of_hit hk he hb hfound, hfetched]

/-- A request has the same result for both callers, and the first posts nothing that the second does
not. -/
theorem ask (h : Agrees server records k u) (r : Soap.Request)
    (hread : records → ∀ cause, (k.ask server r).1 ≠ .error (.cache (.storage cause)))
    (hfit : records → Turn.Writable k.connection (.ask r)) :
    (k.ask server r).1 = (u.ask server r).1 ∧
      Agrees server records (k.ask server r).2 (u.ask server r).2 := by
  cases hk : k.connection.closed with
  | true =>
    have hu : u.connection.closed = true := h.closed.trans hk
    rw [Caller.ask, Caller.ask, Connection.request_of_closed hk, Connection.request_of_closed hu]
    exact ⟨rfl, h.update (fun b _ => .refl _ _ _) h.posts⟩
  | false =>
    have hu : u.connection.closed = false := h.closed.trans hk
    cases hke : k.connection.envelope r with
    | error e =>
      have hue : u.connection.envelope r = .error e := (h.envelope_eq r).trans hke
      rw [Caller.ask, Caller.ask, Connection.request_of_error hk hke,
        Connection.request_of_error hu hue]
      exact ⟨rfl, h.update (fun b _ => .refl _ _ _) h.posts⟩
    | ok bytes =>
      have hue : u.connection.envelope r = .ok bytes := (h.envelope_eq r).trans hke
      obtain ⟨vault, posts, hask, hadds, hposts⟩ := h.ask_fetched hk hke hread hfit
      rw [hask, Caller.ask, Connection.request_of_none hu hue h.unbound, h.fetched_eq]
      exact ⟨rfl, h.update hadds (hposts.trans (h.posts.append (.refl _)))⟩

end Agrees

/-- A turn has the same results for both callers, who agree after it. -/
theorem agrees_step {server : Responder} {records : Prop} {k u : Caller}
    (h : Agrees server records k u) (turn : Turn)
    (hread : records → ∀ cause, .error (.cache (.storage cause)) ∉ (k.step server turn).1)
    (hfit : records → turn.Writable k.connection) :
    (k.step server turn).1 = (u.step server turn).1 ∧
      Agrees server records (k.step server turn).2 (u.step server turn).2 := by
  cases turn with
  | ask r =>
    have hresult : records → ∀ cause, (k.ask server r).1 ≠ .error (.cache (.storage cause)) :=
      fun hr cause heq => hread hr cause (List.mem_singleton.2 heq.symm)
    obtain ⟨hsame, hagrees⟩ := h.ask r hresult hfit
    exact ⟨congrArg (fun result => [result]) hsame, hagrees⟩
  | close =>
    -- closing leaves the settings and the store, and with them what a key yields
    refine ⟨rfl, ?_⟩
    exact ⟨h.settings, h.endpoint, rfl, h.unbound, h.kind, h.known, h.faithful, h.posts⟩
  | flush =>
    refine ⟨rfl, h.update (fun b hb => ?_) h.posts⟩
    rw [Connection.flush, hb]
    exact k.vault.flush_adds b.store _
  | sleep ms => exact ⟨rfl, h.update (fun b _ => k.vault.sleep_adds b.store ms _) h.posts⟩

/-- What a turn sends does not depend on turns before it. -/
theorem Caller.writable_step (k : Caller) (server : Responder) (turn next : Turn) :
    next.Writable (k.step server turn).2.connection = next.Writable k.connection := by
  cases turn <;> cases next <;> rfl

/-- Both callers have the same results in every run, and agree after it. -/
theorem agrees_run {server : Responder} {records : Prop} {k u : Caller}
    (h : Agrees server records k u) (turns : List Turn)
    (hread : records → ∀ cause, .error (.cache (.storage cause)) ∉ (k.run server turns).1)
    (hfit : records → ∀ turn ∈ turns, turn.Writable k.connection) :
    (k.run server turns).1 = (u.run server turns).1 ∧
      Agrees server records (k.run server turns).2 (u.run server turns).2 := by
  induction turns generalizing k u with
  | nil => exact ⟨rfl, h⟩
  | cons turn turns ih =>
    obtain ⟨hresults, hstep⟩ := agrees_step h turn
      (fun hr cause hin => hread hr cause (List.mem_append_left _ hin))
      (fun hr => hfit hr turn List.mem_cons_self)
    -- the rest of the run starts from callers that agree, and sends what it would have sent
    obtain ⟨hmore, hrun⟩ := ih hstep
      (fun hr cause hin => hread hr cause (List.mem_append_right _ hin))
      (fun hr next hnext => by
        rw [Caller.writable_step]
        exact hfit hr next (List.mem_cons_of_mem turn hnext))
    refine ⟨?_, hrun⟩
    rw [Caller.run_cons, Caller.run_cons, hresults, hmore]

/-! ### Connections with and without a cache -/

/-- If properties open a connection, they do so without those of the cache. The connections agree,
since a new store holds nothing but recordings that were there before, of which there are none. -/
theorem agrees_start {v : Vault} {P : PropertyMap} {k : Caller} (server : Responder)
    (h : Caller.start? v P = some k)
    (hempty : k.Records → ∀ partition key response, ¬ k.Holds partition key response) :
    ∃ u, Caller.start? v P.withoutCache = some u ∧ Agrees server k.Records k u := by
  obtain ⟨hstart, hposts⟩ := Caller.start?_eq_some.1 h
  obtain ⟨settings, hsettings, hc, hstore⟩ := Connection.start_own hstart
  have hplain := Connection.start_plain (v := v) (Settings.ofProperties_withoutCache hsettings) rfl
  refine ⟨⟨_, v, []⟩, Caller.start?_eq_some.2 ⟨hplain, rfl⟩, ?_⟩
  exact {
    settings := by rw [hc]
    endpoint := by
      rw [hc]
      rfl
    closed := by rw [hc]
    unbound := rfl
    kind := id
    known := fun b hb => (hstore b hb).1
    faithful := by
      rintro partition key response ⟨b, hb, hh⟩
      obtain ⟨hrecords, _⟩ := (hstore b hb).2 partition key response hh
      exact absurd ⟨b, hb, hh⟩ (hempty ⟨b, hb, hrecords⟩ partition key response)
    posts := hposts ▸ .refl [] }

/-- **A cache is not noticed.** A connection is opened, with a store of its own if its properties
say so, and the caller asks requests, closes the connection, empties the store and lets time go on,
in any order. A connection that is opened from the same properties without those of the cache has
the same results, be they tables or errors, if the server's answers depend on location, action and
body only; and the server gets at least the same posts in the same order. This needs nothing of a
store in memory. One that keeps recordings in files has to hold nothing at first, no file may fail
to be read, and what is sent has to be of a length that eight bytes can write, as all bytes in a
machine are. -/
theorem cache_transparent (server : Responder) (v : Vault) (P : PropertyMap) (k : Caller)
    (turns : List Turn) (hstart : Caller.start? v P = some k)
    (hempty : k.Records → ∀ partition key response, ¬ k.Holds partition key response)
    (hread : k.Records → ∀ cause, .error (.cache (.storage cause)) ∉ (k.run server turns).1)
    (hfit : k.Records → ∀ turn ∈ turns, turn.Writable k.connection) :
    ∃ u, Caller.start? v P.withoutCache = some u ∧
      (k.run server turns).1 = (u.run server turns).1 ∧
      (k.run server turns).2.posts.Sublist (u.run server turns).2.posts := by
  obtain ⟨u, hu, hagrees⟩ := agrees_start server hstart hempty
  obtain ⟨hresults, hrun⟩ := agrees_run hagrees turns hread hfit
  exact ⟨u, hu, hresults, hrun.posts⟩

/-- The second of two equal requests is answered by a recording and not posted. -/
theorem cache_transparent_recorded :
    let properties : PropertyMap :=
      (((∅ : PropertyMap).insert "Server" "http://h/x").insert "Cache" "replay").insert
        "Cache.Directory" "d"
    let vault : Vault := ⟨⟨.empty, 0, fun n => toString n, 0⟩, []⟩
    let server : Responder := fun _ _ _ => .ok ⟨200, Utf8.encodeString "<root></root>"⟩
    let turns : List Turn := [.ask (.execute "q"), .ask (.execute "q")]
    ∃ k u, Caller.start? vault properties = some k ∧
      Caller.start? vault properties.withoutCache = some u ∧
      (k.run server turns).1 = (u.run server turns).1 ∧
      (k.run server turns).2.posts.length = 1 := by
  intro properties vault server turns
  have hrun : (Caller.start? vault properties).map (fun k =>
      ((k.run server turns).1.map fun result => result.toOption.isSome,
        (k.run server turns).2.posts.length,
        (Utf8.encodeString k.connection.settings.server.text).length,
        (k.connection.envelope (.execute "q")).toOption.map List.length)) =
      some ([true, true], 1, 10, some 384) := by
    decide +kernel
  obtain ⟨k, hstart, hseen⟩ := Option.map_eq_some_iff.1 hrun
  obtain ⟨hresults, hposts, hurl, hrequest⟩ : _ ∧ _ ∧ _ ∧ _ := by
    simpa only [Prod.mk.injEq] using hseen
  -- a machine without files holds no recording
  have hempty : ∀ partition key response, ¬ k.Holds partition key response := by
    rintro partition key response ⟨b, hb, hh⟩
    obtain ⟨_, _, _, hstore⟩ := Connection.start_own (Caller.start?_eq_some.1 hstart).1
    obtain ⟨_, path, content, hnode, _⟩ := (hstore b hb).2 partition key response hh
    rw [show vault.machine.files = .empty from rfl, Files.node?_empty] at hnode
    split at hnode <;> cases hnode
  have hread : ∀ cause, .error (.cache (.storage cause)) ∉ (k.run server turns).1 := by
    intro cause hin
    have hok : ∀ result ∈ (k.run server turns).1, result.toOption.isSome = true := by
      intro result hresult
      have hseen : result.toOption.isSome ∈ [true, true] := by
        rw [← hresults]
        exact List.mem_map.2 ⟨result, hresult, rfl⟩
      simpa using hseen
    cases hok _ hin
  have hfit : ∀ turn ∈ turns, turn.Writable k.connection := by
    intro turn hturn
    obtain rfl : turn = .ask (.execute "q") := by simpa [turns] using hturn
    intro bytes hbytes
    rw [hbytes] at hrequest
    refine ⟨?_, ?_⟩
    · show (Utf8.encodeString k.connection.settings.server.text).length < _
      omega
    · have hlength : bytes.length = 384 := Option.some.inj hrequest
      show bytes.length < _
      omega
  obtain ⟨u, hu, hsame, _⟩ := cache_transparent server vault properties k turns hstart
    (fun _ => hempty) (fun _ => hread) (fun _ => hfit)
  exact ⟨k, u, hstart, hu, hsame, hposts⟩

end OlapClient
