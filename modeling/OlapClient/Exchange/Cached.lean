import OlapClient.Exchange.Call

namespace OlapClient.Exchange

open Location (Url)

/-!
# Exchanges with a cache in front

An exchange has three stages: a look-up in the cache, the post, and keeping the response. Other
exchanges may take place between the stages.

* `Backing` — how an exchange reads and writes its cache.
* `openExchange` — the first stage: the exchange fails, is served, or has to be posted.
* `closeExchange` — the last stage. Only a clean response is kept, and a failure to keep it does not
  matter.
-/

/-- How an exchange reads and writes its cache, which is part of a state `σ`. -/
structure Backing (σ : Type) where
  get : σ → Url → Bytes → Except CacheError (Option Bytes) × σ
  put : σ → Url → Bytes → Bytes → Except CacheError Unit × σ

variable {σ : Type}

/-- The outcome of the first stage. -/
inductive Opening where
  | failed (e : ExchangeError)
  | served (response : Bytes)
  | posting
deriving DecidableEq, Repr

/-- Look a request up. A cancelled exchange does not reach its cache, and a cache that fails is no
miss. -/
def openExchange (backing : Option (Backing σ)) (cancelled : Bool) (s : σ) (url : Url)
    (request : Bytes) : Opening × σ :=
  if cancelled then (.failed .cancelled, s)
  else
    match backing with
    | none => (.posting, s)
    | some b =>
      match b.get s url request with
      | (.error e, s') => (.failed (.cache e), s')
      | (.ok (some response), s') => (.served response, s')
      | (.ok none, s') => (.posting, s')

/-- Keep a response. -/
def keep (backing : Option (Backing σ)) (s : σ) (url : Url) (request response : Bytes) : σ :=
  match backing with
  | none => s
  | some b => (b.put s url request response).2

/-- End an exchange with what its post has yielded. -/
def closeExchange (backing : Option (Backing σ)) (s : σ) (url : Url) (request : Bytes)
    (outcome : Except ExchangeError Bytes) : Except ExchangeError Bytes × σ :=
  match outcome with
  | .error e => (.error e, s)
  | .ok response => (.ok response, keep backing s url request response)

/-- What a post yields, by the answer to it. -/
def Answer.outcome : Answer → Except ExchangeError Bytes
  | .reply r => r.check.mapError .wire
  | .failed e => .error (.wire (.network e))
  | .abandoned => .error .cancelled

/-- Post a body and wait for the outcome. A request that cannot be built is not posted. The answer is
the final one: redirects on the way to it are no exchanges of their own. -/
def Endpoint.call (e : Endpoint) (url : Url) (action : String) (body : Bytes) :
    Call (Except ExchangeError Bytes) :=
  match e.post? url action body with
  | .error failure => .done (.error (.wire (.network failure)))
  | .ok post => .post post fun answer => .done answer.outcome

/-- A whole exchange: all three stages, one after the other. -/
def exchange (e : Endpoint) (backing : Option (Backing σ)) (cancelled : Bool) (s : σ) (url : Url)
    (action : String) (request : Bytes) : Call (Except ExchangeError Bytes × σ) :=
  match openExchange backing cancelled s url request with
  | (.failed failure, s') => .done (.error failure, s')
  | (.served response, s') => .done (.ok response, s')
  | (.posting, s') => (e.call url action request).map (closeExchange backing s' url request)

end OlapClient.Exchange
