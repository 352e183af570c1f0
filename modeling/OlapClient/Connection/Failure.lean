import OlapClient.Exchange.Failure
import OlapClient.Property.ConnectString
import OlapClient.Property.Settings
import OlapClient.Rowset.Response

namespace OlapClient

open Exchange (ExchangeError WireError)
open Rowset (DecodeError)

/-!
# Failures of connections

* `ConnectionError` — why a connection cannot be opened, or a request on it fails.
* `ConnectionError.ofExchange`, `ConnectionError.ofDecode` — the failures of its parts, of which
  faults, cache failures and cancellations are told apart.
-/

/-- Why a connection cannot be opened, or a request on it fails. -/
inductive ConnectionError where
  | connectString (e : ConnectString.Error)
  | property (e : PropertyError)
  | exchange (e : ExchangeError)
  | cache (e : CacheError)
  | decode (e : DecodeError)
  | fault (f : Soap.Fault)
  | closed
deriving DecidableEq, Repr

namespace ConnectionError

/-- The failure of an exchange as a failure of its connection. -/
def ofExchange : ExchangeError → ConnectionError
  | .wire (.fault f) => .fault f
  | .cache e => .cache e
  | .cancelled => .closed
  | e => .exchange e

/-- The failure to decode a response as a failure of its connection. -/
def ofDecode : DecodeError → ConnectionError
  | .fault f => .fault f
  | e => .decode e

/-- The report of a failed connection or request. -/
def message : ConnectionError → String
  | .connectString e => "configuration error: " ++ e.message
  | .property e => "configuration error: " ++ e.message
  | .exchange e => e.message
  | .cache e => "cache error: " ++ e.message
  | .decode e => "cannot decode response: " ++ e.message
  | .fault f => "server fault " ++ f.code ++ ": " ++ f.message
  | .closed => "connection is closed"

/-- The report of a failure of a cache, followed by that of the storage behind it. -/
def cacheReports (e : CacheError) : List String :=
  match e with
  | .storage cause => [e.message, cause.message]
  | _ => [e.message]

/-- The report of a failure, followed by those of its causes. -/
def reports (e : ConnectionError) : List String :=
  e.message :: match e with
    | .connectString cause => [cause.message]
    | .property cause => [cause.message]
    | .cache cause => cacheReports cause
    | .exchange (.location cause) => [cause.message]
    | .exchange (.cache cause) => cacheReports cause
    | _ => []

end ConnectionError

end OlapClient
