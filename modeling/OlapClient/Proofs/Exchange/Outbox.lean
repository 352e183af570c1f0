import Mathlib.Logic.Function.Basic
import OlapClient.Exchange.Cached

namespace OlapClient.Exchange

open Location (Url)

/-!
# Sendings that can be cancelled

Sendings share a cache and one sign that says whether they are cancelled. Each looks its request up,
then waits for its post, which it looks after from time to time, and at last keeps the response.
Between these steps others take theirs, and the sign may be given.

* `Parcel`, `Phase` — what is sent, and how far its sending has come.
* `StoreCall`, `Backing.noting` — a cache that writes down who has called it, and how.
* `Outbox` — sendings with their cache, the calls that it has seen, and the posts that were started.
* `Outbox.step`, `Outbox.run` — one event, and any number of them in any order.
* `Outbox.step_alone` — the steps of one sending, nothing coming between, are a whole exchange.
* `Outbox.Turn`, `Outbox.step_turn` — what an event may change.
* `Outbox.Sound` — who has called the cache, in every outbox that comes about.
* `Outbox.Settles` — what becomes of sendings once they are cancelled.
* `Outbox.CancelledSince` — all that is true of them then.
-/

/-! ### Sendings -/

/-- What is sent. -/
structure Parcel where
  url : Url
  action : String
  request : Bytes

/-- How far a sending has come. -/
inductive Phase where
  | begun
  /-- The cache has no response, and no post was started yet. -/
  | missed
  /-- The post is under way. -/
  | waiting
  /-- The post has yielded a response that is not kept yet. -/
  | answered (response : Bytes)
  | returned (result : Except ExchangeError Bytes)

/-- What a sending has returned. -/
def Phase.result? : Phase → Option (Except ExchangeError Bytes)
  | .returned result => some result
  | _ => none

/-- What a sending will return whatever happens, if that is decided. -/
def Phase.decided? : Phase → Option (Except ExchangeError Bytes)
  | .returned result => some result
  | .answered response => some (.ok response)
  | _ => none

/-- What a sending has returned was decided. -/
theorem Phase.decided?_of_result? {phase : Phase} {result : Except ExchangeError Bytes}
    (h : phase.result? = some result) : phase.decided? = some result := by
  cases phase <;> first | exact h | cases h

/-- The phase after a request was looked up. -/
def Phase.ofOpening : Opening → Phase
  | .failed failure => .returned (.error failure)
  | .served response => .returned (.ok response)
  | .posting => .missed

/-- The phase after a post has yielded an outcome. -/
def Phase.ofOutcome : Except ExchangeError Bytes → Phase
  | .ok response => .answered response
  | .error e => .returned (.error e)

/-- A call of a cache. -/
inductive StoreCall where
  | get (url : Url) (request : Bytes)
  | put (url : Url) (request response : Bytes)

/-- Whether a call puts a response. -/
def StoreCall.isPut : StoreCall → Bool
  | .get _ _ => false
  | .put _ _ _ => true

variable {σ : Type} {n : Nat}

/-- A cache that writes down the calls of a sending, the latest first. -/
def Backing.noting (b : Backing σ) (k : Fin n) : Backing (σ × List (Fin n × StoreCall)) where
  get s url request :=
    let (result, store) := b.get s.1 url request
    (result, store, (k, .get url request) :: s.2)
  put s url request response :=
    let (result, store) := b.put s.1 url request response
    (result, store, (k, .put url request response) :: s.2)

/-- Sendings with their cache, the calls that it has seen, and the posts that were started. -/
structure Outbox (σ : Type) (n : Nat) where
  store : σ
  cancelled : Bool
  phases : Fin n → Phase
  calls : List (Fin n × StoreCall)
  posts : List (Fin n × Post)

/-- What can happen next. -/
inductive Event (σ : Type) (n : Nat) where
  /-- A sending checks whether it is cancelled, and looks its request up. -/
  | lookUp (k : Fin n)
  /-- A sending looks after its post, which it starts the first time. Whatever the network has for
  it by then is at hand. -/
  | poll (k : Fin n) (ready : Option (Except NetworkError Reply))
  /-- A sending keeps its response. -/
  | keep (k : Fin n)
  | cancel
  /-- Somebody else uses the cache. -/
  | elsewhere (store : σ)

/-- The sending that an event is a step of. -/
def Event.actor? : Event σ n → Option (Fin n)
  | .lookUp k => some k
  | .poll k _ => some k
  | .keep k => some k
  | .cancel => none
  | .elsewhere _ => none

/-- What the network has for a post, as an answer. -/
def Answer.ofReady : Except NetworkError Reply → Answer
  | .ok r => .reply r
  | .error e => .failed e

namespace Outbox

/-- Nothing was sent yet. -/
def fresh (store : σ) : Outbox σ n :=
  ⟨store, false, fun _ => .begun, [], []⟩

/-- One sending has come to a phase. -/
def set (s : Outbox σ n) (k : Fin n) (phase : Phase) : Outbox σ n :=
  { s with phases := Function.update s.phases k phase }

/-- One sending has come to a phase, and the cache was called. -/
def setWith (s : Outbox σ n) (k : Fin n) (phase : Phase) (store : σ × List (Fin n × StoreCall)) :
    Outbox σ n :=
  { s.set k phase with store := store.1, calls := store.2 }

/-- A sending goes on with what is ready for its post, or goes on waiting. -/
def await (s : Outbox σ n) (k : Fin n) : Option (Except NetworkError Reply) → Outbox σ n
  | none => s.set k .waiting
  | some ready => s.set k (.ofOutcome (Answer.ofReady ready).outcome)

/-- Do what happens next. Whatever is not the turn of a sending changes nothing. The sign is looked
at before the post is, so a sending that is cancelled starts none and takes no response. -/
def step (e : Endpoint) (backing : Option (Backing σ)) (parcels : Fin n → Parcel)
    (s : Outbox σ n) : Event σ n → Outbox σ n
  | .lookUp k =>
    match s.phases k with
    | .begun =>
      let (opening, store) := openExchange (backing.map (·.noting k)) s.cancelled
        (s.store, s.calls) (parcels k).url (parcels k).request
      s.setWith k (.ofOpening opening) store
    | _ => s
  | .poll k ready =>
    match s.phases k with
    | .missed =>
      if s.cancelled then s.set k (.returned (.error .cancelled))
      else
        match e.post? (parcels k).url (parcels k).action (parcels k).request with
        | .error failure => s.set k (.returned (.error (.wire (.network failure))))
        | .ok post => { s with posts := (k, post) :: s.posts }.await k ready
    | .waiting =>
      if s.cancelled then s.set k (.returned (.error .cancelled)) else s.await k ready
    | _ => s
  | .keep k =>
    match s.phases k with
    | .answered response =>
      let (result, store) := closeExchange (backing.map (·.noting k)) (s.store, s.calls)
        (parcels k).url (parcels k).request (.ok response)
      s.setWith k (.returned result) store
    | _ => s
  | .cancel => { s with cancelled := true }
  | .elsewhere store => { s with store }

/-- Do what happens, one event after the other. -/
def run (e : Endpoint) (backing : Option (Backing σ)) (parcels : Fin n → Parcel)
    (s : Outbox σ n) : List (Event σ n) → Outbox σ n
  | [] => s
  | a :: rest => (s.step e backing parcels a).run e backing parcels rest

end Outbox

/-! ### Calls that are written down -/

section
variable (backing : Option (Backing σ)) (s : σ) (calls : List (Fin n × StoreCall)) (k : Fin n)
  (url : Url) (request : Bytes)

/-- A look-up is the same when it is written down, and puts nothing. -/
theorem openExchange_noting (cancelled : Bool) :
    let noted := openExchange (backing.map (·.noting k)) cancelled (s, calls) url request
    (noted.1, noted.2.1) = openExchange backing cancelled s url request ∧
      ∀ c ∈ noted.2.2, c ∈ calls ∨ c.1 = k ∧ c.2.isPut = false := by
  unfold openExchange
  cases cancelled with
  | true => exact ⟨rfl, fun c hc => .inl hc⟩
  | false =>
    cases backing with
    | none => exact ⟨rfl, fun c hc => .inl hc⟩
    | some b =>
      obtain ⟨get, put⟩ := b
      have hcalls : ∀ c ∈ (k, StoreCall.get url request) :: calls,
          c ∈ calls ∨ c.1 = k ∧ c.2.isPut = false := by
        intro c hc
        rcases List.mem_cons.1 hc with rfl | hold
        · exact .inr ⟨rfl, rfl⟩
        · exact .inl hold
      simp only [Bool.false_eq_true, if_false, Option.map_some, Backing.noting]
      generalize get s url request = got
      obtain ⟨failure | none | response, store⟩ := got
      · exact ⟨rfl, hcalls⟩
      · exact ⟨rfl, hcalls⟩
      · exact ⟨rfl, hcalls⟩

/-- Keeping a response is the same when it is written down. -/
theorem closeExchange_noting (response : Bytes) :
    let noted := closeExchange (backing.map (·.noting k)) (s, calls) url request (.ok response)
    (noted.1, noted.2.1) = closeExchange backing s url request (.ok response) ∧
      ∀ c ∈ noted.2.2, c ∈ calls ∨ c.1 = k := by
  cases backing with
  | none => exact ⟨rfl, fun c hc => .inl hc⟩
  | some b =>
    refine ⟨rfl, fun c hc => ?_⟩
    rcases List.mem_cons.1 hc with rfl | hold
    · exact .inr rfl
    · exact .inl hold

end

namespace Outbox

variable {e : Endpoint} {backing : Option (Backing σ)} {parcels : Fin n → Parcel}
  {s t : Outbox σ n} {k : Fin n}

@[simp] theorem set_phases_self (s : Outbox σ n) (k : Fin n) (phase : Phase) :
    (s.set k phase).phases k = phase :=
  Function.update_self ..

theorem set_phases_of_ne (s : Outbox σ n) {j k : Fin n} (h : j ≠ k) (phase : Phase) :
    (s.set k phase).phases j = s.phases j :=
  Function.update_of_ne h ..

/-! ### One sending alone -/

/-- A sending that has returned takes no further step. -/
theorem step_of_returned {result : Except ExchangeError Bytes}
    (hphase : s.phases k = .returned result) {a : Event σ n} (ha : a.actor? = some k) :
    s.step e backing parcels a = s := by
  cases a <;> cases ha <;> simp only [step, hphase]

/-- Looking a request up is the first stage of an exchange. -/
theorem step_lookUp (e : Endpoint) (backing : Option (Backing σ)) (parcels : Fin n → Parcel)
    (hphase : s.phases k = .begun) :
    let opened := openExchange backing s.cancelled s.store (parcels k).url (parcels k).request
    let t := s.step e backing parcels (.lookUp k)
    t.phases k = .ofOpening opened.1 ∧ t.store = opened.2 ∧ t.posts = s.posts ∧
      t.cancelled = s.cancelled := by
  simp only [step, hphase]
  rw [← (openExchange_noting backing s.store s.calls k (parcels k).url (parcels k).request
    s.cancelled).1]
  exact ⟨set_phases_self s k _, rfl, rfl, rfl⟩

/-- Once a post has yielded an outcome, what is left is the last stage of an exchange. -/
theorem step_keep (e : Endpoint) (backing : Option (Backing σ)) (parcels : Fin n → Parcel)
    {outcome : Except ExchangeError Bytes} (hphase : s.phases k = .ofOutcome outcome) :
    let closed := closeExchange backing s.store (parcels k).url (parcels k).request outcome
    let t := s.step e backing parcels (.keep k)
    t.phases k = .returned closed.1 ∧ t.store = closed.2 ∧ t.posts = s.posts := by
  cases outcome with
  | error failure =>
    have hidle : s.step e backing parcels (.keep k) = s := step_of_returned hphase rfl
    rw [hidle]
    exact ⟨hphase, rfl, rfl⟩
  | ok response =>
    simp only [step, hphase, Phase.ofOutcome]
    rw [← (closeExchange_noting backing s.store s.calls k (parcels k).url (parcels k).request
      response).1]
    exact ⟨set_phases_self s k _, rfl, rfl⟩

/-- The steps of one sending, nothing coming between, are a whole exchange. -/
theorem step_alone (e : Endpoint) (backing : Option (Backing σ)) (parcels : Fin n → Parcel)
    (hphase : s.phases k = .begun) (ready : Except NetworkError Reply) :
    let t := s.run e backing parcels [.lookUp k, .poll k (some ready), .keep k]
    let network := fun posts post => (Answer.ofReady ready, (k, post) :: posts)
    ∃ result, t.phases k = .returned result ∧
      (exchange e backing s.cancelled s.store (parcels k).url (parcels k).action
        (parcels k).request).run network s.posts = ((result, t.store), t.posts) := by
  obtain ⟨hopened, hstore, hposts, hcancelled⟩ := step_lookUp e backing parcels hphase
  simp only [run]
  generalize s.step e backing parcels (.lookUp k) = t at *
  unfold exchange
  cases hopen : openExchange backing s.cancelled s.store (parcels k).url (parcels k).request with
  | mk opening store =>
  rw [hopen] at hopened hstore
  cases opening with
  | failed failure =>
    rw [step_of_returned hopened rfl, step_of_returned hopened rfl, hstore, hposts]
    exact ⟨_, hopened, rfl⟩
  | served response =>
    rw [step_of_returned hopened rfl, step_of_returned hopened rfl, hstore, hposts]
    exact ⟨_, hopened, rfl⟩
  | posting =>
    -- who is cancelled is refused before the cache is asked
    have hopen_ : t.cancelled = false := by
      rw [hcancelled]
      cases hc : s.cancelled with
      | false => rfl
      | true =>
        rw [hc] at hopen
        cases hopen
    cases hpost : e.post? (parcels k).url (parcels k).action (parcels k).request with
    | error failure =>
      have hpoll : t.step e backing parcels (.poll k (some ready)) =
          t.set k (.returned (.error (.wire (.network failure)))) := by
        simp only [step, hopened, Phase.ofOpening, hopen_, hpost, Bool.false_eq_true, if_false]
      have hreturned := set_phases_self t k (.returned (.error (.wire (.network failure))))
      rw [hpoll, step_of_returned hreturned rfl, Endpoint.call, hpost]
      refine ⟨_, hreturned, ?_⟩
      rw [set, hstore, hposts]
      rfl
    | ok post =>
      have hpoll : t.step e backing parcels (.poll k (some ready)) =
          { t with posts := (k, post) :: t.posts }.set k
            (.ofOutcome (Answer.ofReady ready).outcome) := by
        simp only [step, hopened, Phase.ofOpening, hopen_, hpost, Bool.false_eq_true, if_false,
          await]
      obtain ⟨hreturned, hkept, hstarted⟩ := step_keep e backing parcels
        (set_phases_self { t with posts := (k, post) :: t.posts } k
          (.ofOutcome (Answer.ofReady ready).outcome))
      rw [hpoll, hkept, hstarted, Endpoint.call, hpost]
      refine ⟨_, hreturned, ?_⟩
      rw [set, hstore, hposts]
      rfl

/-! ### What an event changes -/

/-- What an event may change. Only a sending that is not cancelled looks up and starts a post, and
only one whose post has yielded a response keeps it. -/
inductive Turn (s : Outbox σ n) : Outbox σ n → Prop
  | idle : Turn s s
  | cancel : Turn s { s with cancelled := true }
  | elsewhere (store : σ) : Turn s { s with store }
  | refuse (k : Fin n) (phase : (s.phases k).decided? = none) (cancelled : s.cancelled = true) :
      Turn s (s.set k (.returned (.error .cancelled)))
  | lookUp (k : Fin n) (next : Phase) (store : σ × List (Fin n × StoreCall))
      (phase : s.phases k = .begun) (open_ : s.cancelled = false)
      (later : next ≠ .begun)
      (calls : ∀ c ∈ store.2, c ∈ s.calls ∨ c.1 = k ∧ c.2.isPut = false) :
      Turn s (s.setWith k next store)
  | poll (k : Fin n) (next : Phase) (posts : List (Fin n × Post))
      (phase : s.phases k = .missed ∨ s.phases k = .waiting) (open_ : s.cancelled = false)
      (later : next ≠ .begun) (started : ∀ p ∈ posts, p ∈ s.posts ∨ p.1 = k) :
      Turn s ({ s with posts }.set k next)
  | keep (k : Fin n) (response : Bytes) (store : σ × List (Fin n × StoreCall))
      (phase : s.phases k = .answered response)
      (calls : ∀ c ∈ store.2, c ∈ s.calls ∨ c.1 = k) :
      Turn s (s.setWith k (.returned (.ok response)) store)

/-- Every event changes no more than that. -/
theorem step_turn (e : Endpoint) (backing : Option (Backing σ)) (parcels : Fin n → Parcel)
    (s : Outbox σ n) (a : Event σ n) : Turn s (s.step e backing parcels a) := by
  cases a with
  | cancel => exact .cancel
  | elsewhere store => exact .elsewhere store
  | lookUp k =>
    have hlater : ∀ opening, Phase.ofOpening opening ≠ .begun := by
      intro opening
      cases opening <;> simp [Phase.ofOpening]
    simp only [step]
    split
    · rename_i hphase
      cases hcancelled : s.cancelled with
      | true => exact .refuse k (by rw [hphase]; rfl) hcancelled
      | false =>
        exact .lookUp k _ _ hphase hcancelled (hlater _) (openExchange_noting backing s.store
          s.calls k (parcels k).url (parcels k).request false).2
    · exact .idle
  | poll k ready =>
    -- the sign is looked at first, so both phases that wait are split by it
    have hlater : ∀ outcome, Phase.ofOutcome outcome ≠ .begun := by
      intro outcome
      cases outcome <;> simp [Phase.ofOutcome]
    simp only [step]
    split
    · rename_i hphase
      split
      · rename_i hcancelled
        exact .refuse k (by rw [hphase]; rfl) hcancelled
      · rename_i hopen
        have hopen : s.cancelled = false := by simpa using hopen
        split
        · exact .poll k _ s.posts (.inl hphase) hopen (by simp) fun p hp => .inl hp
        · rename_i post _
          have hstarted : ∀ p ∈ (k, post) :: s.posts, p ∈ s.posts ∨ p.1 = k := by
            intro p hp
            rcases List.mem_cons.1 hp with rfl | hold
            · exact .inr rfl
            · exact .inl hold
          cases ready with
          | none => exact .poll k .waiting _ (.inl hphase) hopen (by simp) hstarted
          | some r => exact .poll k _ _ (.inl hphase) hopen (hlater _) hstarted
    · rename_i hphase
      split
      · rename_i hcancelled
        exact .refuse k (by rw [hphase]; rfl) hcancelled
      · rename_i hopen
        have hopen : s.cancelled = false := by simpa using hopen
        cases ready with
        | none => exact .poll k .waiting s.posts (.inr hphase) hopen (by simp) fun p hp => .inl hp
        | some r => exact .poll k _ s.posts (.inr hphase) hopen (hlater _) fun p hp => .inl hp
    · exact .idle
  | keep k =>
    simp only [step]
    split
    · rename_i response hphase
      exact .keep k response _ hphase (closeExchange_noting backing s.store s.calls k
        (parcels k).url (parcels k).request response).2
    · exact .idle

/-! ### Who calls the cache -/

/-- A sending that has begun nothing has called nobody, and one that has put a response returns
it. -/
structure Sound (s : Outbox σ n) : Prop where
  calls : ∀ c ∈ s.calls, s.phases c.1 ≠ .begun
  posts : ∀ p ∈ s.posts, s.phases p.1 ≠ .begun
  puts : ∀ c ∈ s.calls, c.2.isPut = true → ∃ response, s.phases c.1 = .returned (.ok response)

theorem sound_fresh (store : σ) : (fresh store : Outbox σ n).Sound where
  calls _ hc := absurd hc List.not_mem_nil
  posts _ hp := absurd hp List.not_mem_nil
  puts _ hc := absurd hc List.not_mem_nil

/-- One sending may go on if it is not as it began, and if it returns a response should it have put
one. -/
theorem Sound.advance (h : s.Sound) {k : Fin n} {next : Phase} {store : σ}
    {calls : List (Fin n × StoreCall)} {posts : List (Fin n × Post)} (hlater : next ≠ .begun)
    (hposts : ∀ p ∈ posts, p ∈ s.posts ∨ p.1 = k) (hcalls : ∀ c ∈ calls, c ∈ s.calls ∨ c.1 = k)
    (hput : ∀ c ∈ calls, c.1 = k → c.2.isPut = true → ∃ response, next = .returned (.ok response)) :
    Sound { s.set k next with store, calls, posts } where
  calls c hc := by
    by_cases hk : c.1 = k
    · rw [hk]
      exact (set_phases_self s k next).symm ▸ hlater
    · rw [show Outbox.phases _ c.1 = s.phases c.1 from set_phases_of_ne s hk next]
      exact h.calls c ((hcalls c hc).resolve_right hk)
  posts p hp := by
    by_cases hk : p.1 = k
    · rw [hk]
      exact (set_phases_self s k next).symm ▸ hlater
    · rw [show Outbox.phases _ p.1 = s.phases p.1 from set_phases_of_ne s hk next]
      exact h.posts p ((hposts p hp).resolve_right hk)
  puts c hc hisPut := by
    by_cases hk : c.1 = k
    · obtain ⟨response, hnext⟩ := hput c hc hk hisPut
      refine ⟨response, ?_⟩
      rw [hk, ← hnext]
      exact set_phases_self s k next
    · rw [show Outbox.phases _ c.1 = s.phases c.1 from set_phases_of_ne s hk next]
      exact h.puts c ((hcalls c hc).resolve_right hk) hisPut

/-- A sending that has not returned a response has put none. -/
theorem Sound.no_put (h : s.Sound) (hk : ∀ response, s.phases k ≠ .returned (.ok response)) :
    ∀ c ∈ s.calls, c.1 = k → c.2.isPut = false := by
  rintro c hc rfl
  cases hput : c.2.isPut with
  | false => rfl
  | true =>
    obtain ⟨response, hreturned⟩ := h.puts c hc hput
    exact absurd hreturned (hk response)

/-- Whatever happens keeps an outbox sound. -/
theorem Sound.turn (h : s.Sound) (hturn : Turn s t) : t.Sound := by
  -- a sending that is not decided has put nothing before it goes on
  have hundecided : ∀ {k}, (s.phases k).decided? = none → ∀ {c}, c ∈ s.calls → c.1 = k →
      c.2.isPut ≠ true := by
    intro k hk c hc hck
    rw [h.no_put (fun response heq => by rw [heq] at hk; cases hk) c hc hck]
    exact Bool.false_ne_true
  cases hturn with
  | idle => exact h
  | cancel => exact ⟨h.calls, h.posts, h.puts⟩
  | elsewhere store => exact ⟨h.calls, h.posts, h.puts⟩
  | refuse k phase cancelled =>
    exact h.advance (by simp) (fun p hp => .inl hp) (fun c hc => .inl hc)
      fun c hc hk hput => absurd hput (hundecided phase hc hk)
  | lookUp k next store phase open_ later calls =>
    -- a look-up is a call, but it puts nothing
    refine h.advance later (fun p hp => .inl hp) (fun c hc => (calls c hc).imp_right And.left) ?_
    intro c hc hk hput
    rcases calls c hc with hold | ⟨_, hget⟩
    · exact absurd hput (hundecided (by rw [phase]; rfl) hold hk)
    · rw [hget] at hput
      cases hput
  | poll k next posts phase open_ later started =>
    have hphase : (s.phases k).decided? = none := by
      rcases phase with heq | heq <;> rw [heq] <;> rfl
    exact h.advance later started (fun c hc => .inl hc)
      fun c hc hk hput => absurd hput (hundecided hphase hc hk)
  | keep k response store phase calls =>
    exact h.advance (by simp) (fun p hp => .inl hp) calls fun _ _ _ _ => ⟨response, rfl⟩

theorem Sound.run (h : s.Sound) (events : List (Event σ n)) :
    (s.run e backing parcels events).Sound := by
  induction events generalizing s with
  | nil => exact h
  | cons a rest ih => exact ih (h.turn (step_turn e backing parcels s a))

/-! ### What becomes of sendings that are cancelled -/

/-- An outbox that another comes to once its sendings are cancelled: what was decided is returned,
and whatever else is returned says that it was cancelled. No post is started, and only who had a
response before calls the cache. -/
structure Settles (s t : Outbox σ n) : Prop where
  cancelled : t.cancelled = true
  posts : t.posts = s.posts
  phases : ∀ k, t.phases k = s.phases k ∨
    t.phases k = .returned ((s.phases k).decided?.getD (.error .cancelled))
  calls : ∀ c ∈ t.calls, c ∈ s.calls ∨ ∃ response, s.phases c.1 = .answered response

/-- One sending that was not decided may be refused, and one that was answered may return. -/
theorem Settles.advance (h : s.Settles t) (k : Fin n) (store : σ)
    (calls : List (Fin n × StoreCall))
    (hcalls : ∀ c ∈ calls, c ∈ t.calls ∨ ∃ response, s.phases c.1 = .answered response) :
    s.Settles { t.set k (.returned ((s.phases k).decided?.getD (.error .cancelled))) with
      store, calls } where
  cancelled := h.cancelled
  posts := h.posts
  phases j := by
    by_cases hj : j = k
    · subst hj
      exact .inr (set_phases_self t j _)
    · rw [show Outbox.phases _ j = t.phases j from set_phases_of_ne t hj _]
      exact h.phases j
  calls c hc := by
    rcases hcalls c hc with hold | hanswered
    · exact h.calls c hold
    · exact .inr hanswered

theorem Settles.turn {u : Outbox σ n} (h : s.Settles t) (hturn : Turn t u) : s.Settles u := by
  -- a sending that has not returned is where it was
  have hsame : ∀ k, (t.phases k).result? = none → t.phases k = s.phases k := by
    intro k hk
    rcases h.phases k with heq | hreturned
    · exact heq
    · rw [hreturned] at hk
      cases hk
  cases hturn with
  | idle => exact h
  | cancel => exact ⟨rfl, h.posts, h.phases, h.calls⟩
  | elsewhere store => exact ⟨h.cancelled, h.posts, h.phases, h.calls⟩
  | refuse k phase cancelled =>
    have hphase : t.phases k = s.phases k := by
      apply hsame k
      cases hreturned : t.phases k with
      | returned result =>
        rw [hreturned] at phase
        cases phase
      | _ => rfl
    rw [hphase] at phase
    have hadvance := h.advance k t.store t.calls fun c hc => .inl hc
    rwa [phase] at hadvance
  -- nobody looks up or goes on with a post any more
  | lookUp k next store phase open_ later calls =>
    rw [h.cancelled] at open_
    cases open_
  | poll k next posts phase open_ later started =>
    rw [h.cancelled] at open_
    cases open_
  | keep k response store phase calls =>
    have hanswered : s.phases k = .answered response := by
      rw [← hsame k (by rw [phase]; rfl), phase]
    have hcalls : ∀ c ∈ store.2, c ∈ t.calls ∨ ∃ r, s.phases c.1 = .answered r := by
      intro c hc
      rcases calls c hc with hold | rfl
      · exact .inl hold
      · exact .inr ⟨response, hanswered⟩
    have hadvance := h.advance k store.1 store.2 hcalls
    rwa [hanswered] at hadvance

theorem Settles.run (h : s.Settles t) (events : List (Event σ n)) :
    s.Settles (t.run e backing parcels events) := by
  induction events generalizing t with
  | nil => exact h
  | cons a rest ih => exact ih (h.turn (step_turn e backing parcels t a))

/-- A sending that begins once it is cancelled is refused. -/
theorem step_lookUp_of_cancelled (h : s.cancelled = true) (hphase : s.phases k = .begun) :
    s.step e backing parcels (.lookUp k) = s.set k (.returned (.error .cancelled)) := by
  simp only [step, hphase, h, openExchange, if_true, Phase.ofOpening]
  rfl

/-- A sending that waits for its post once it is cancelled is refused, whatever is ready for it. -/
theorem step_poll_of_cancelled (h : s.cancelled = true)
    (hphase : s.phases k = .missed ∨ s.phases k = .waiting)
    (ready : Option (Except NetworkError Reply)) :
    s.step e backing parcels (.poll k ready) = s.set k (.returned (.error .cancelled)) := by
  rcases hphase with hphase | hphase <;> simp only [step, hphase, h, if_true]

/-- No sending that returns an error has put a response. -/
def FailuresPutNothing (s : Outbox σ n) : Prop :=
  ∀ k failure, (s.phases k).result? = some (.error failure) →
    ∀ c ∈ s.calls, c.1 = k → c.2.isPut = false

theorem Sound.failuresPutNothing (h : s.Sound) : s.FailuresPutNothing := by
  intro k failure hfailed
  refine h.no_put fun response hreturned => ?_
  rw [hreturned] at hfailed
  cases hfailed

/-- What is true of an outbox `t` whose sendings were cancelled when they were as in `s`. -/
structure CancelledSince (e : Endpoint) (backing : Option (Backing σ)) (parcels : Fin n → Parcel)
    (s t : Outbox σ n) : Prop where
  /-- They stay cancelled. -/
  cancelled : t.cancelled = true
  /-- No post was started since. -/
  posts : t.posts = s.posts
  /-- Who has called the cache since had its response before. -/
  calls : ∀ c ∈ t.calls, c ∈ s.calls ∨ ∃ response, s.phases c.1 = .answered response
  /-- A sending that had not begun has called neither the cache nor the network. -/
  untouched : ∀ k, s.phases k = .begun → (∀ c ∈ t.calls, c.1 ≠ k) ∧ ∀ p ∈ t.posts, p.1 ≠ k
  /-- Who begins now is refused, and nothing else changes. -/
  lookUp : ∀ k, t.phases k = .begun →
    t.step e backing parcels (.lookUp k) = t.set k (.returned (.error .cancelled))
  /-- Who looks after its post now is refused, though a response may be ready. -/
  poll : ∀ k ready, t.phases k = .missed ∨ t.phases k = .waiting →
    t.step e backing parcels (.poll k ready) = t.set k (.returned (.error .cancelled))
  /-- What had been decided is returned, and whoever else returns was cancelled. -/
  results : ∀ k, (t.phases k).result? = none ∨
    (t.phases k).result? = some ((s.phases k).decided?.getD (.error .cancelled))

/-- Cancelling is settling. -/
theorem settles_cancel (e : Endpoint) (backing : Option (Backing σ)) (parcels : Fin n → Parcel)
    (s : Outbox σ n) : s.Settles (s.step e backing parcels .cancel) :=
  ⟨rfl, rfl, fun _ => .inl rfl, fun _ hc => .inl hc⟩

/-- Cancelling is final. -/
theorem Settles.cancelledSince (hsettles : s.Settles t) (h : s.Sound) :
    s.CancelledSince e backing parcels t := by
  refine ⟨hsettles.cancelled, hsettles.posts, hsettles.calls, fun k hk => ⟨?_, ?_⟩,
    fun _ hphase => step_lookUp_of_cancelled hsettles.cancelled hphase,
    fun _ ready hphase => step_poll_of_cancelled hsettles.cancelled hphase ready, fun k => ?_⟩
  · -- whoever has called the cache had begun
    rintro c hc rfl
    rcases hsettles.calls c hc with hold | ⟨response, hanswered⟩
    · exact h.calls c hold hk
    · rw [hk] at hanswered
      cases hanswered
  · rintro p hp rfl
    rw [hsettles.posts] at hp
    exact h.posts p hp hk
  · rcases hsettles.phases k with hsame | hreturned
    · rw [hsame]
      cases hresult : (s.phases k).result? with
      | none => exact .inl rfl
      | some result =>
        rw [Phase.decided?_of_result? hresult]
        exact .inr rfl
    · rw [hreturned]
      exact .inr rfl

end Outbox

end OlapClient.Exchange
