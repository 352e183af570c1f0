import OlapClient.Property.NameMap
import OlapClient.Location.Url

namespace OlapClient

open Location (Url UrlError)

/-!
# Connection settings

* `Settings` — what the properties of a connection say about it.
* `PropertyError` — a property that is missing or cannot be used.
* `Settings.ofProperties` — reading the settings. Unknown properties do not matter.
-/

/-- Why the value of a property cannot be used. -/
inductive Unusable where
  | location (e : UrlError)
  /-- A location that is not served over HTTP. -/
  | scheme
  /-- A timeout that is no positive whole number. -/
  | timeout
deriving DecidableEq, Repr

/-- The wording of the reason. -/
def Unusable.message : Unusable → String
  | .location e => e.message
  | .scheme => "scheme must be http or https"
  | .timeout => "expected a positive whole number of seconds"

/-- A connection property that is missing or cannot be used. -/
inductive PropertyError where
  | missing (key : String)
  | invalid (key value : String) (reason : Unusable)
deriving DecidableEq, Repr

/-- The report of a bad property. -/
def PropertyError.message : PropertyError → String
  | .missing key => "missing required property '" ++ key ++ "'"
  | .invalid key value reason =>
    "invalid value '" ++ value ++ "' for property '" ++ key ++ "': " ++ reason.message

/-- The settings of a connection. The timeout is in seconds. -/
structure Settings where
  server : Url
  catalog : Option String
  dataSource : Option String
  user : Option String
  password : Option String
  timeout : Option Nat
  cache : Option String
deriving DecidableEq, Repr

namespace Settings

/-- The trimmed value of a property, unless it is blank. -/
def value? (properties : PropertyMap) (key : String) : Option String :=
  (properties.find? key).bind nonBlank?

/-- The location of the server: required, and served over HTTP. -/
def readServer (properties : PropertyMap) : Except PropertyError Url :=
  match value? properties "Server" with
  | none => .error (.missing "Server")
  | some raw =>
    match Url.parse raw with
    | .error e => .error (.invalid "Server" raw (.location e))
    | .ok url =>
      if url.scheme = "http" ∨ url.scheme = "https" then .ok url
      else .error (.invalid "Server" raw .scheme)

/-- The timeout: optional, a positive whole number of seconds. -/
def readTimeout (properties : PropertyMap) : Except PropertyError (Option Nat) :=
  match value? properties "Timeout" with
  | none => .ok none
  | some raw =>
    match Decimal.word? raw with
    | none => .error (.invalid "Timeout" raw .timeout)
    | some n => if n = 0 then .error (.invalid "Timeout" raw .timeout) else .ok (some n)

/-- Read the settings of a connection. A bad server is reported before a bad timeout. The password
is kept as it is written. -/
def ofProperties (properties : PropertyMap) : Except PropertyError Settings :=
  match readServer properties with
  | .error e => .error e
  | .ok server =>
    match readTimeout properties with
    | .error e => .error e
    | .ok timeout => .ok {
        server
        catalog := value? properties "Catalog"
        dataSource := value? properties "DataSource"
        user := value? properties "User"
        password := properties.find? "Password"
        timeout
        cache := value? properties "Cache" }

end Settings

end OlapClient
