import OlapClient.Exchange.Endpoint

namespace OlapClient.Exchange

/-!
# Calls

What a client does between two answers of the network is a function, so a client that talks to a
server is a tree: it ends, or posts a request and goes on with whatever comes back.

* `Answer` — what finally comes back from the network, redirects behind it.
* `Call` — a client that talks to a server.
* `Call.bind` — one call after the other.
* `Call.run` — a call against a network that is a function of its own state.
-/

/-- What finally comes back after a request was posted. If a server redirects the request, the
redirects are followed on the way, and this is the answer at their end. -/
inductive Answer where
  | reply (r : Reply)
  | failed (e : NetworkError)
  /-- The caller gave the request up. -/
  | abandoned
deriving DecidableEq, Repr

/-- A computation that may post requests. -/
inductive Call (α : Type) where
  | done (result : α)
  | post (request : Post) (resume : Answer → Call α)

namespace Call

variable {α β σ : Type}

/-- Go on with the result of a call. -/
def bind (c : Call α) (f : α → Call β) : Call β :=
  match c with
  | .done result => f result
  | .post request resume => .post request fun answer => (resume answer).bind f

/-- Change the result of a call. -/
def map (f : α → β) (c : Call α) : Call β :=
  c.bind fun result => .done (f result)

/-- Run a call against a network. -/
def run (network : σ → Post → Answer × σ) (s : σ) : Call α → α × σ
  | .done result => (result, s)
  | .post request resume =>
    let (answer, s') := network s request
    (resume answer).run network s'

@[simp] theorem bind_done (result : α) (f : α → Call β) : (done result).bind f = f result := rfl

/-- Ending at once changes nothing. -/
@[simp] theorem bind_pure (c : Call α) : c.bind .done = c := by
  induction c with
  | done result => rfl
  | post request resume ih => simp only [bind, ih]

/-- A run of two calls is a run of the first and then of the second. -/
theorem run_bind (network : σ → Post → Answer × σ) (c : Call α) (f : α → Call β) (s : σ) :
    (c.bind f).run network s =
      (f (c.run network s).1).run network (c.run network s).2 := by
  induction c generalizing s with
  | done result => rfl
  | post request resume ih => simp only [bind, run, ih]

end Call

end OlapClient.Exchange
