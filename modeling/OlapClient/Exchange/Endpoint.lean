import OlapClient.Exchange.Failure
import OlapClient.Location.Url
import OlapClient.Soap.Document
import OlapClient.Text.Base64

namespace OlapClient.Exchange

open Location (Url)

/-!
# Posting requests

* `Endpoint` — how long requests may take, who sends them, and with which credentials.
* `Endpoint.post?` — the HTTP request that carries an envelope.
* `Reply.check` — a response, if it is clean: no fault, a success status, a complete document.
-/

/-- A user with an optional password. -/
structure Credentials where
  user : String
  password : Option String
deriving DecidableEq, Repr

/-- How requests are posted. The timeout is in milliseconds. -/
structure Endpoint where
  timeout : Nat := 30000
  agent : String := "xmla-client/0.0.0"
  credentials : Option Credentials := none
deriving DecidableEq, Repr

/-- A request as it is sent. The location has no credentials that can be sent otherwise. -/
structure Post where
  location : Url
  timeout : Nat
  contentType : String
  soapAction : String
  authorization : List String
  agent : String
  body : Bytes
deriving DecidableEq, Repr

/-- A byte that may stand in the value of a header: no control character but the tab. -/
def isHeaderByte (b : UInt8) : Bool :=
  (32 ≤ b && b != 127) || b == 9

/-- Whether a text may be the value of a header. -/
def isHeaderValue (s : String) : Bool :=
  (Utf8.encodeString s).all isHeaderByte

/-- The authorization of a user. -/
def Credentials.authorization (c : Credentials) : String :=
  let text := c.user ++ ":" ++ c.password.getD ""
  "Basic " ++ String.ofList (Base64.encode (Utf8.encodeString text))

/-- The text that an encoded part of a location stands for, unless its bytes are no text. -/
def decodedText? (cs : List Char) : Option String :=
  Utf8.string? (Location.decodePercent cs)

/-- The credentials that a location carries. A user that is no text hides them, and a password that
is none is left out. -/
def urlCredentials? (url : Url) : Option Credentials :=
  match url.authority with
  | none => none
  | some a =>
    match decodedText? a.user with
    | none => none
    | some user =>
      let password := if a.password = [] then none else decodedText? a.password
      if user = "" ∧ password = none then none else some ⟨user, password⟩

/-- The location that a request is sent to: without the credentials that are sent in a header. -/
def bareLocation (url : Url) : Url :=
  if (urlCredentials? url).isNone then url
  else { url with authority := url.authority.map fun a => { a with user := [], password := [] } }

/-- The longest location that a request can name, in bytes. -/
def longestLocation : Nat := 65534

/-- A character that a domain may have and the target of a request may not. -/
def isUnsendable (c : Char) : Bool :=
  c == '"' || c == '`' || c == '\x7b' || c == '\x7d'

/-- Whether a location can be the target of a request. -/
def isSendable (url : Url) : Bool :=
  !(url.authority.any fun a => a.host.text.any isUnsendable)
    && Utf8.size url.text.toList ≤ longestLocation

namespace Endpoint

/-- Prepare an endpoint. The name of the sender must be fit for a header. -/
def build (e : Endpoint) : Except ExchangeError Endpoint :=
  if isHeaderValue e.agent then .ok e
  else .error (.config "failed to build HTTP client: builder error")

/-- The credentials that are sent to a location: its own, and those of the endpoint. -/
def authorizations (e : Endpoint) (url : Url) : List String :=
  ((urlCredentials? url).toList ++ e.credentials.toList).map Credentials.authorization

/-- Whether requests can be posted to a location. -/
def serves (url : Url) : Bool :=
  url.authority.isSome && (url.scheme == "http" || url.scheme == "https")

/-- The request that carries a body to a location. The action is quoted. -/
def post? (e : Endpoint) (url : Url) (action : String) (body : Bytes) : Except NetworkError Post :=
  if !isHeaderValue action then .error (.http "builder error")
  else if !serves url ∨ !isSendable (bareLocation url) then
    .error (.http ("builder error for url (" ++ (bareLocation url).text ++ ")"))
  else .ok {
    location := bareLocation url
    timeout := e.timeout
    contentType := "text/xml; charset=utf-8"
    soapAction := "\"" ++ action ++ "\""
    authorization := e.authorizations url
    agent := e.agent
    body }

end Endpoint

/-- A response as it is received. -/
structure Reply where
  status : Nat
  body : Bytes
deriving DecidableEq, Repr

/-- How much of the body of an error status is reported, in characters. -/
def statusExcerpt : Nat := 512

namespace Reply

/-- Whether the status is a success. -/
def isSuccess (r : Reply) : Bool :=
  200 ≤ r.status && r.status < 300

/-- The beginning of the body, as it is reported. -/
def excerpt (r : Reply) : String :=
  String.ofList ((Utf8.decodeLossy r.body).take statusExcerpt)

/-- The body of a clean response. Servers report faults under an error status, so a fault is looked
for first. -/
def check (r : Reply) : Except WireError Bytes :=
  match Soap.fault? r.body with
  | some f => .error (.fault f)
  | none =>
    if r.isSuccess then
      match Soap.checkDocument r.body with
      | .ok _ => .ok r.body
      | .error e => .error (.malformed e.message)
    else .error (.status r.status r.excerpt)

end Reply

end OlapClient.Exchange
