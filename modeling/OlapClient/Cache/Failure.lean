import OlapClient.Files.Tree

namespace OlapClient

/-!
# Failures of caches

* `SessionId` — the name of a session with a cache.
* `CacheError` — why an operation on a cache fails.
-/

/-- The name of a session with a cache. -/
structure SessionId where
  text : String
deriving DecidableEq, Repr

/-- Why an operation on a cache fails. -/
inductive CacheError where
  /-- A session that this store never issued. -/
  | uninitialized (id : SessionId)
  | invalidKey (reason : String)
  | invalidProperty (key value : String)
  | missingProperty (key : String)
  | unknownStore (kind : String)
  | storage (e : FileError)
deriving DecidableEq, Repr

/-- The report of a failed operation. -/
def CacheError.message : CacheError → String
  | .uninitialized id => "cache session '" ++ id.text ++ "' was never configured on this store"
  | .invalidKey reason => "invalid cache key: " ++ reason
  | .invalidProperty key value =>
    "invalid value '" ++ value ++ "' for cache property '" ++ key ++ "'"
  | .missingProperty key => "missing cache property '" ++ key ++ "'"
  | .unknownStore kind => "unknown cache store '" ++ kind ++ "'"
  | .storage e => "cache storage error: " ++ e.message

/-- A request without content has no key. -/
def CacheError.emptyRequest : CacheError :=
  .invalidKey "request payload must not be empty"

end OlapClient
