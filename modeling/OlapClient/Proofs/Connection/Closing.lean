import OlapClient.Connection.Basic
import OlapClient.Proofs.Exchange.Outbox

namespace OlapClient

open Cache (Vault)
open Exchange (Answer Backing Endpoint ExchangeError NetworkError Outbox Parcel Phase Reply)
open Rowset (Table)

/-!
# Closing a connection

The requests on a connection are sendings of one outbox, and closing the connection cancels them.
Any number of them may be asked, in any order, before and after.

* `Asking`, `Desk` — requests on a connection, some of which were asked.
* `Desk.step`, `Desk.run` — one event, and any number of them in any order.
* `Desk.ask_alone` — the steps of one request, nothing coming between, are a request of the
  connection.
* `Desk.step_turn` — the sendings of a desk change as those of an outbox do.
* `Desk.Settles` — what becomes of requests once their connection is closed.
* `Desk.ClosedSince` — all that is true of them then.
* `close_final` — cancelling sendings is final, and so is closing a connection.
-/

/-! ### Requests on a connection -/

/-- Whether a request was asked. -/
inductive Asking where
  | unasked
  /-- Nothing is sent. -/
  | refused (e : ConnectionError)
  | sent
deriving DecidableEq

/-- What comes of asking a request. -/
def Connection.asking (c : Connection) (closed : Bool) (r : Soap.Request) : Asking :=
  if closed then .refused .closed
  else
    match c.envelope r with
    | .error e => .refused e
    | .ok _ => .sent

/-- What is sent for a request. -/
def Connection.parcel (c : Connection) (r : Soap.Request) : Parcel :=
  ⟨c.settings.server, r.action, (c.envelope r).toOption.getD []⟩

namespace Connection

variable {c : Connection} {closed : Bool} {r : Soap.Request} {v : Vault}

theorem asking_ne_unasked (c : Connection) (closed : Bool) (r : Soap.Request) :
    c.asking closed r ≠ .unasked := by
  unfold asking
  split
  · simp
  · split <;> simp

/-- A request that is refused fails at once. -/
theorem request_of_refused {e : ConnectionError} (h : c.asking closed r = .refused e) :
    { c with closed }.request v r = .done (.error e, v) := by
  unfold asking at h
  cases closed with
  | true =>
    cases h
    rfl
  | false =>
    rw [if_neg Bool.false_ne_true] at h
    split at h
    · rename_i henvelope
      cases h
      show (match c.envelope r with | .error e => _ | .ok bytes => _) = _
      rw [henvelope]
    · cases h

/-- A request that is sent is an exchange, whose outcome is decoded. -/
theorem request_of_sent (h : c.asking closed r = .sent) :
    { c with closed }.request v r =
      (Exchange.exchange c.endpoint c.backing closed v (c.parcel r).url (c.parcel r).action
        (c.parcel r).request).map fun (outcome, v') => (decodeOutcome outcome, v') := by
  unfold asking at h
  cases closed with
  | true => cases h
  | false =>
    rw [if_neg Bool.false_ne_true] at h
    split at h
    · cases h
    · rename_i henvelope
      rw [parcel, henvelope]
      show (match c.envelope r with | .error e => _ | .ok bytes => _) = _
      rw [henvelope]
      rfl

end Connection

variable {n : Nat}

/-- Requests on a connection, some of which were asked, and their sendings. -/
structure Desk (n : Nat) where
  outbox : Outbox Vault n
  askings : Fin n → Asking

namespace Desk

/-- What can happen next. -/
inductive Event (n : Nat) where
  /-- A request is asked. -/
  | ask (k : Fin n)
  /-- A sending goes on, or the connection is closed, or somebody else uses the store. -/
  | proceed (a : Exchange.Event Vault n)

/-- Nothing was asked yet. -/
def fresh (v : Vault) : Desk n :=
  ⟨.fresh v, fun _ => .unasked⟩

/-- Whether the connection is open. -/
def isValid (d : Desk n) : Bool :=
  !d.outbox.cancelled

/-- Whether something may happen to the sendings: only what was sent goes on. -/
def allows (d : Desk n) (a : Exchange.Event Vault n) : Bool :=
  a.actor?.all fun k => d.askings k = .sent

/-- Let something happen to the sendings. -/
def proceed (c : Connection) (requests : Fin n → Soap.Request) (d : Desk n)
    (a : Exchange.Event Vault n) : Desk n :=
  { d with outbox := d.outbox.step c.endpoint c.backing (fun k => c.parcel (requests k)) a }

/-- Do what happens next. A request is asked once. -/
def step (c : Connection) (requests : Fin n → Soap.Request) (d : Desk n) : Event n → Desk n
  | .ask k =>
    if d.askings k = .unasked then
      { d with
        askings := Function.update d.askings k (c.asking d.outbox.cancelled (requests k)) }
    else d
  | .proceed a => if d.allows a then d.proceed c requests a else d

/-- Do what happens, one event after the other. -/
def run (c : Connection) (requests : Fin n → Soap.Request) (d : Desk n) : List (Event n) → Desk n
  | [] => d
  | a :: rest => (d.step c requests a).run c requests rest

/-- Close the connection. -/
def close (c : Connection) (requests : Fin n → Soap.Request) (d : Desk n) : Desk n :=
  d.step c requests (.proceed .cancel)

/-- What a request has returned. -/
def result? (d : Desk n) (k : Fin n) : Option (Except ConnectionError Table) :=
  match d.askings k with
  | .unasked => none
  | .refused e => some (.error e)
  | .sent => (d.outbox.phases k).result?.map Connection.decodeOutcome

/-- What a request will return whatever happens, if that is decided. -/
def decided? (d : Desk n) (k : Fin n) : Option (Except ConnectionError Table) :=
  match d.askings k with
  | .unasked => none
  | .refused e => some (.error e)
  | .sent => (d.outbox.phases k).decided?.map Connection.decodeOutcome

variable {c : Connection} {requests : Fin n → Soap.Request} {d d' : Desk n} {k : Fin n}

/-! ### One request alone -/

/-- Asking a request changes nothing but whether it was asked. -/
theorem step_ask (c : Connection) (requests : Fin n → Soap.Request)
    (hasking : d.askings k = .unasked) :
    (d.step c requests (.ask k)).askings k = c.asking d.outbox.cancelled (requests k) ∧
      (d.step c requests (.ask k)).outbox = d.outbox := by
  simp only [step, hasking, if_true]
  exact ⟨Function.update_self .., trivial⟩

theorem step_ask_of_ne {j : Fin n} (h : k ≠ j) :
    (d.step c requests (.ask j)).askings k = d.askings k := by
  simp only [step]
  split
  · exact Function.update_of_ne h ..
  · rfl

/-- What was sent goes on. -/
theorem step_proceed_of_sent (hasking : d.askings k = .sent) {a : Exchange.Event Vault n}
    (ha : a.actor? = some k) : d.step c requests (.proceed a) = d.proceed c requests a := by
  refine if_pos ?_
  simp only [allows, ha, Option.all_some, hasking, decide_true]

/-- What was refused does not go on. -/
theorem step_proceed_of_refused {e : ConnectionError} (hasking : d.askings k = .refused e)
    {a : Exchange.Event Vault n} (ha : a.actor? = some k) :
    d.step c requests (.proceed a) = d := by
  refine if_neg ?_
  simp only [allows, ha, Option.all_some, hasking, reduceCtorEq, decide_false, Bool.false_eq_true,
    not_false_eq_true]

/-- The steps of one request, nothing coming between, are a request of the connection. -/
theorem ask_alone (hasking : d.askings k = .unasked) (hphase : d.outbox.phases k = .begun)
    (ready : Except NetworkError Reply) :
    let d' := d.run c requests [.ask k, .proceed (.lookUp k), .proceed (.poll k (some ready)),
      .proceed (.keep k)]
    let network := fun posts post => (Answer.ofReady ready, (k, post) :: posts)
    ∃ result, d'.result? k = some result ∧
      ({ c with closed := !d.isValid }.request d.outbox.store (requests k)).run network
        d.outbox.posts = ((result, d'.outbox.store), d'.outbox.posts) := by
  obtain ⟨hasked, houtbox⟩ := step_ask c requests hasking
  simp only [run, isValid, Bool.not_not]
  generalize d.step c requests (.ask k) = d₁ at *
  cases hasking₁ : c.asking d.outbox.cancelled (requests k) with
  | unasked => exact absurd hasking₁ (c.asking_ne_unasked _ _)
  | refused failure =>
    rw [hasking₁] at hasked
    rw [step_proceed_of_refused hasked rfl, step_proceed_of_refused hasked rfl,
      step_proceed_of_refused hasked rfl, Connection.request_of_refused hasking₁, houtbox]
    refine ⟨.error failure, ?_, rfl⟩
    simp only [result?, hasked]
  | sent =>
    -- what was sent is an exchange, whose steps are those of a sending alone
    rw [hasking₁] at hasked
    rw [← houtbox] at hphase
    obtain ⟨result, hreturned, hrun⟩ := Outbox.step_alone c.endpoint c.backing
      (fun k => c.parcel (requests k)) hphase ready
    rw [step_proceed_of_sent hasked rfl, step_proceed_of_sent (d := d₁.proceed ..) hasked rfl,
      step_proceed_of_sent (d := (d₁.proceed ..).proceed ..) hasked rfl,
      Connection.request_of_sent hasking₁, Exchange.Call.map, Exchange.Call.run_bind, ← houtbox,
      hrun]
    refine ⟨Connection.decodeOutcome result, ?_, rfl⟩
    simp only [result?, proceed, hasked]
    exact congrArg (Option.map _) (congrArg Phase.result? hreturned)

/-! ### What becomes of requests on a closed connection -/

/-- What an event changes about the sendings is what an event of their outbox may change. -/
theorem step_turn (c : Connection) (requests : Fin n → Soap.Request) (d : Desk n) (a : Event n) :
    Outbox.Turn d.outbox (d.step c requests a).outbox := by
  cases a with
  | ask k =>
    simp only [step]
    split <;> exact .idle
  | proceed a =>
    simp only [step]
    split
    · exact Outbox.step_turn ..
    · exact .idle

/-- The sendings of every desk that comes about are sound. -/
theorem sound_run (h : d.outbox.Sound) (events : List (Event n)) :
    (d.run c requests events).outbox.Sound := by
  induction events generalizing d with
  | nil => exact h
  | cons a rest ih => exact ih (h.turn (step_turn c requests d a))

/-- A desk that another comes to once the connection is closed: the sendings are cancelled, and
whatever is asked is refused. -/
structure Settles (d d' : Desk n) : Prop where
  outbox : d.outbox.Settles d'.outbox
  askings : ∀ k, d'.askings k = d.askings k ∨
    d.askings k = .unasked ∧ d'.askings k = .refused .closed

theorem settles_close (d : Desk n) : d.Settles (d.close c requests) :=
  ⟨Outbox.settles_cancel c.endpoint c.backing (fun k => c.parcel (requests k)) d.outbox,
    fun _ => .inl rfl⟩

theorem Settles.step (h : d.Settles d') (a : Event n) : d.Settles (d'.step c requests a) := by
  refine ⟨h.outbox.turn (step_turn c requests d' a), fun k => ?_⟩
  cases a with
  | proceed a =>
    simp only [Desk.step]
    split <;> exact h.askings k
  | ask j =>
    by_cases hunasked : d'.askings j = .unasked
    · by_cases hk : k = j
      · subst hk
        -- it was not asked before either, and now it is too late
        rcases h.askings k with hsame | ⟨_, hrefused⟩
        · refine .inr ⟨hsame ▸ hunasked, ?_⟩
          rw [(step_ask c requests hunasked).1, h.outbox.cancelled]
          rfl
        · rw [hunasked] at hrefused
          cases hrefused
      · rw [step_ask_of_ne hk]
        exact h.askings k
    · rw [Desk.step, if_neg hunasked]
      exact h.askings k

theorem Settles.run (h : d.Settles d') (events : List (Event n)) :
    d.Settles (d'.run c requests events) := by
  induction events generalizing d' with
  | nil => exact h
  | cons a rest ih => exact ih (h.step a)

/-- What is true of a desk `d'` whose connection was closed when it was as in `d`. -/
structure ClosedSince (c : Connection) (requests : Fin n → Soap.Request) (d d' : Desk n) :
    Prop where
  /-- The connection stays closed. -/
  isValid : d'.isValid = false
  /-- Its sendings were cancelled. -/
  outbox : d.outbox.CancelledSince c.endpoint c.backing (fun k => c.parcel (requests k)) d'.outbox
  /-- Who asks now is told so, and nothing is sent. -/
  ask : ∀ k, d'.askings k = .unasked →
    (d'.step c requests (.ask k)).result? k = some (.error .closed) ∧
      (d'.step c requests (.ask k)).outbox = d'.outbox
  /-- What was sent and looks its request up now is told so. -/
  lookUp : ∀ k, d'.askings k = .sent → d'.outbox.phases k = .begun →
    (d'.step c requests (.proceed (.lookUp k))).result? k = some (.error .closed)
  /-- What looks after its post now is told so, though a response may be ready. -/
  poll : ∀ k ready, d'.askings k = .sent →
    d'.outbox.phases k = .missed ∨ d'.outbox.phases k = .waiting →
    (d'.step c requests (.proceed (.poll k ready))).result? k = some (.error .closed)
  /-- What had been decided is returned, and whoever else returns is told so. -/
  results : ∀ k, d'.result? k = none ∨
    d'.result? k = some ((d.decided? k).getD (.error .closed))

theorem Settles.results (h : d.Settles d')
    (houtbox : d.outbox.CancelledSince c.endpoint c.backing (fun k => c.parcel (requests k))
      d'.outbox) (k : Fin n) :
    d'.result? k = none ∨ d'.result? k = some ((d.decided? k).getD (.error .closed)) := by
  unfold result? decided?
  rcases h.askings k with hsame | ⟨hunasked, hrefused⟩
  · rw [hsame]
    cases d.askings k with
    | unasked => exact .inl rfl
    | refused failure => exact .inr rfl
    | sent =>
      rcases houtbox.results k with hnone | hsome
      · rw [hnone]
        exact .inl rfl
      · rw [hsome]
        refine .inr ?_
        cases (d.outbox.phases k).decided? <;> rfl
  · rw [hunasked, hrefused]
    exact .inr rfl

/-- A request whose sending was cancelled fails, since the connection is closed. -/
theorem result?_of_cancelled (hsent : d.askings k = .sent)
    (hphase : d.outbox.phases k = .returned (.error .cancelled)) :
    d.result? k = some (.error .closed) := by
  rw [result?, hsent, hphase]
  rfl

/-- Closing is final. -/
theorem Settles.closedSince (h : d.Settles d') (hsound : d.outbox.Sound) :
    d.ClosedSince c requests d' := by
  have houtbox : d.outbox.CancelledSince c.endpoint c.backing (fun k => c.parcel (requests k))
      d'.outbox := h.outbox.cancelledSince hsound
  refine ⟨?_, houtbox, fun k hunasked => ?_, fun k hsent hphase => ?_,
    fun k ready hsent hphase => ?_, h.results houtbox⟩
  · rw [Desk.isValid, houtbox.cancelled]
    rfl
  · obtain ⟨hasked, hsame⟩ := step_ask c requests hunasked
    rw [houtbox.cancelled] at hasked
    refine ⟨?_, hsame⟩
    rw [result?, hasked]
    rfl
  · rw [step_proceed_of_sent hsent rfl, Desk.proceed, houtbox.lookUp k hphase]
    exact result?_of_cancelled hsent (Outbox.set_phases_self ..)
  · rw [step_proceed_of_sent hsent rfl, Desk.proceed, houtbox.poll k ready hphase]
    exact result?_of_cancelled hsent (Outbox.set_phases_self ..)

end Desk

/-- **Cancelling is final, and caches nothing.** Let any number of sendings share a cache, and let
their look-ups, the times that they look after their posts, and the times that they keep their
responses take turns in any order. No sending that returns an error has put a response. Once they
are cancelled, no post is started: who begins is refused and has called neither the cache nor the
network, and who waits for a post is refused, though the response may be there. So it is with the
requests on a connection once it is closed: it stays closed, each request that is asked then fails
since the connection is closed, and so does each from before that nothing had decided. -/
theorem close_final :
    (∀ (σ : Type) (n : Nat) (e : Endpoint) (backing : Option (Backing σ)) (parcels : Fin n → Parcel)
        (store : σ) (before after : List (Exchange.Event σ n)),
      let s := (Outbox.fresh store).run e backing parcels before
      s.FailuresPutNothing ∧
        s.CancelledSince e backing parcels
          ((s.step e backing parcels .cancel).run e backing parcels after)) ∧
    ∀ (n : Nat) (c : Connection) (requests : Fin n → Soap.Request) (v : Vault)
        (before after : List (Desk.Event n)),
      let d := (Desk.fresh v).run c requests before
      d.outbox.FailuresPutNothing ∧
        d.ClosedSince c requests ((d.close c requests).run c requests after) := by
  constructor
  · intro σ n e backing parcels store before after s
    have hsound : s.Sound := (Outbox.sound_fresh store).run before
    have hsettles := Outbox.settles_cancel e backing parcels s
    exact ⟨hsound.failuresPutNothing, (hsettles.run after).cancelledSince hsound⟩
  · intro n c requests v before after d
    have hsound : d.outbox.Sound := Desk.sound_run (Outbox.sound_fresh v) before
    have hsettles : d.Settles (d.close c requests) := Desk.settles_close d
    exact ⟨hsound.failuresPutNothing, (hsettles.run after).closedSince hsound⟩

end OlapClient
