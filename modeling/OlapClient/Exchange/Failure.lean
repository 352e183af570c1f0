import OlapClient.Cache.Failure
import OlapClient.Location.Host
import OlapClient.Soap.Fault

namespace OlapClient.Exchange

open Location (UrlError)

/-!
# Failures of exchanges

* `NetworkError` — no response came; its cause is worded by whoever ran the request.
* `WireError` — a request was posted and did not yield a clean response.
* `ExchangeError` — an exchange failed, on the wire or before it.
* `retryable` — whether the same request may succeed later.
-/

/-- Why no response came. -/
inductive NetworkError where
  | timeout (cause : String)
  /-- The server could not be reached. -/
  | connect (cause : String)
  /-- The request could not be sent, or its response could not be read. -/
  | http (cause : String)
deriving DecidableEq, Repr

/-- The report of a missing response. -/
def NetworkError.message : NetworkError → String
  | .timeout cause => "request timed out: " ++ cause
  | .connect cause => "connection failed: " ++ cause
  | .http cause => "HTTP error: " ++ cause

/-- Whether a response may come the next time. -/
def NetworkError.retryable : NetworkError → Bool
  | .timeout _ => true
  | .connect _ => true
  | .http _ => false

/-- Why a posted request did not yield a clean response. -/
inductive WireError where
  | network (e : NetworkError)
  /-- A status that is no success, and the beginning of its body. -/
  | status (code : Nat) (body : String)
  | fault (f : Soap.Fault)
  /-- A success whose body is no complete response. -/
  | malformed (reason : String)
deriving DecidableEq, Repr

/-- The report of a failed request. -/
def WireError.message : WireError → String
  | .network e => e.message
  | .status code body => "server returned HTTP " ++ toString code ++ ": " ++ body
  | .fault f => "SOAP fault " ++ f.code ++ ": " ++ f.message
  | .malformed reason => "malformed response: " ++ reason

/-- Whether the same request may succeed later. A fault is the server's considered answer. -/
def WireError.retryable : WireError → Bool
  | .network e => e.retryable
  | .status code _ => code == 429 || 500 ≤ code
  | .fault _ => false
  | .malformed _ => true

/-- Why an exchange failed. -/
inductive ExchangeError where
  | cache (e : CacheError)
  | wire (e : WireError)
  | cancelled
  | config (reason : String)
  | location (e : UrlError)
deriving DecidableEq, Repr

namespace ExchangeError

/-- The report of a failed exchange. -/
def message : ExchangeError → String
  | .cache e => "cache error: " ++ e.message
  | .wire e => e.message
  | .cancelled => "request cancelled"
  | .config reason => "configuration error: " ++ reason
  | .location e => "invalid URL: " ++ e.message

/-- Whether the same exchange may succeed later. -/
def retryable : ExchangeError → Bool
  | .wire e => e.retryable
  | _ => false

/-- Whether a cache failed. -/
def isCache : ExchangeError → Bool
  | .cache _ => true
  | _ => false

/-- Whether a posted request failed. -/
def isWire : ExchangeError → Bool
  | .wire _ => true
  | _ => false

/-- Whether the exchange was given up. -/
def isCancelled : ExchangeError → Bool
  | .cancelled => true
  | _ => false

end ExchangeError

end OlapClient.Exchange
