import OlapClient.Cache.Vault
import OlapClient.Connection.Failure
import OlapClient.Exchange.Cached
import OlapClient.Property.Routing
import OlapClient.Soap.Envelope

namespace OlapClient

open Cache (Vault)
open Exchange (Backing Call Credentials Endpoint ExchangeError)
open Rowset (Table)

/-!
# Connections

* `Connection` — an open connection: its settings, where it posts, and its cache session.
* `Connection.start` — opening one, on a store of its own or on one that others use too.
* `Connection.request` — a request on it, answered by a table.
* `Connection.close` — after which every request fails.

The stores of all connections lie in a `Vault`, which every operation takes and returns.
-/

/-- A session with the store of a number. -/
structure Binding where
  store : Nat
  session : SessionId
deriving DecidableEq, Repr

/-- How the exchanges of a session read and write its store. -/
def Binding.backing (b : Binding) : Backing Vault where
  get v url request := v.get b.store b.session url request
  put v url request response := v.put b.store b.session url request response

/-- An open connection. Its cache session is fixed when it opens. -/
structure Connection where
  settings : Settings
  properties : Routed
  endpoint : Endpoint
  binding : Option Binding
  closed : Bool

namespace Settings

/-- How requests of a connection are posted. -/
def endpoint (s : Settings) : Endpoint :=
  let standard : Endpoint := {}
  { standard with
    timeout := (s.timeout.map (· * 1000)).getD standard.timeout
    credentials := s.user.map fun user => ⟨user, s.password⟩ }

/-- The properties that go with every request of a connection. -/
def requestProperties (s : Settings) : Soap.Pairs :=
  (s.dataSource.toList.map fun source => ("DataSourceInfo", source))
    ++ (s.catalog.toList.map fun catalog => ("Catalog", catalog))
    ++ [("Format", "Tabular"), ("Content", "SchemaData")]

end Settings

namespace Connection

/-- The store that a connection will use: a shared one, else one of the kind that its settings name,
else none. -/
def chooseStore (v : Vault) (shared : Option Nat) (settings : Settings) (cache : PropertyMap) :
    Except ConnectionError (Option Nat) × Vault :=
  match shared, settings.cache with
  | some number, _ => (.ok (some number), v)
  | none, none => (.ok none, v)
  | none, some kind =>
    match v.create kind cache with
    | (.error e, v') => (.error (.cache e), v')
    | (.ok number, v') => (.ok (some number), v')

/-- Register with a store. -/
def bindStore (v : Vault) (number : Option Nat) (properties : Routed) : Option Binding × Vault :=
  match number with
  | none => (none, v)
  | some store =>
    let (session, v') := v.configure store properties.connection properties.cache
    (session.map fun id => ⟨store, id⟩, v')

/-- Open a connection. Bad settings are found before a store is created. -/
def start (v : Vault) (properties : PropertyMap) (shared : Option Nat) :
    Except ConnectionError Connection × Vault :=
  let routed := route properties
  match Settings.ofProperties routed.connection with
  | .error e => (.error (.property e), v)
  | .ok settings =>
    match settings.endpoint.build with
    | .error e => (.error (.ofExchange e), v)
    | .ok endpoint =>
      match chooseStore v shared settings routed.cache with
      | (.error e, v') => (.error e, v')
      | (.ok number, v') =>
        let (binding, v'') := bindStore v' number routed
        (.ok ⟨settings, routed, endpoint, binding, false⟩, v'')

/-- Open the connection of a connect string. -/
def connect (v : Vault) (text : String) : Except ConnectionError Connection × Vault :=
  match ConnectString.parse text with
  | .error e => (.error (.connectString e), v)
  | .ok properties => start v properties none

/-- Close a connection. -/
def close (c : Connection) : Connection :=
  { c with closed := true }

/-- How a connection reads and writes its cache. -/
def backing (c : Connection) : Option (Backing Vault) :=
  c.binding.map Binding.backing

/-- The bytes of a request on a connection. -/
def envelope (c : Connection) (r : Soap.Request) : Except ConnectionError Bytes :=
  (r.envelope c.settings.requestProperties).mapError fun e => .exchange (.config e.message)

/-- The table of what an exchange has yielded. -/
def decodeOutcome (outcome : Except ExchangeError Bytes) : Except ConnectionError Table :=
  match outcome with
  | .error e => .error (.ofExchange e)
  | .ok response => (Rowset.decode response).mapError .ofDecode

/-- A request on a connection. -/
def request (c : Connection) (v : Vault) (r : Soap.Request) :
    Call (Except ConnectionError Table × Vault) :=
  if c.closed then .done (.error .closed, v)
  else
    match c.envelope r with
    | .error e => .done (.error e, v)
    | .ok bytes =>
      (Exchange.exchange c.endpoint c.backing false v c.settings.server r.action bytes).map
        fun (outcome, v') => (decodeOutcome outcome, v')

/-- Remove all responses from a connection's store. -/
def flush (c : Connection) (v : Vault) : Vault :=
  match c.binding with
  | none => v
  | some b => v.flush b.store

end Connection

end OlapClient
