import OlapClient.Command.Program
import OlapClient.Exchange.Message
import Std.Async.DNS
import Std.Async.TCP
import Std.Async.Timer

namespace OlapClient.Outside

open Exchange (Answer Call Message NetworkError Post)
open Location (Host)
open Std.Async
open Std.Net (IPAddr IPv4Addr IPv6Addr SocketAddress)

/-!
# The program as it runs

All decisions are taken by `Invocation.run`; here its answers are fetched and its results handed
out.

* `perform` — a call against real servers, over connections that are not secured.
* `fetchFile`, `storeFiles` — the files that a run reads, and those that it leaves.
* `main` — a run on the words, environment and input of the process.
-/

/-! ### The network -/

/-- The port of a request's server. -/
def portOf (p : Post) : UInt16 :=
  let authority := p.location.authority
  UInt16.ofNat (((authority.bind (·.port)) <|> Location.defaultPort? p.location.scheme).getD 80)

/-- The addresses of a host. -/
def addresses (host : Host) : Async (List IPAddr) :=
  match host with
  | .domain name => return (← DNS.getAddrInfo (String.ofList name) "").toList
  | .ipv4 n => return [.v4 (IPv4Addr.ofParts (byteAt n 3) (byteAt n 2) (byteAt n 1) (byteAt n 0))]
  | .ipv6 groups =>
    match groups.map UInt16.ofNat with
    | [a, b, c, d, e, f, g, h] => return [.v6 (IPv6Addr.ofParts a b c d e f g h)]
    | _ => return []

/-- An address with a port. -/
def withPort (port : UInt16) : IPAddr → SocketAddress
  | .v4 addr => .v4 ⟨addr, port⟩
  | .v6 addr => .v6 ⟨addr, port⟩

/-- Connect to the first address that answers. -/
def connectFirst (port : UInt16) : List IPAddr → Async (Option TCP.Socket.Client)
  | [] => return none
  | address :: more => do
    try
      let client ← TCP.Socket.Client.mk
      client.connect (withPort port address)
      return some client
    catch _ => connectFirst port more

/-- All that a server sends until it closes the connection. -/
partial def receive (client : TCP.Socket.Client) (received : ByteArray) : Async ByteArray := do
  match ← client.recv? 65536 with
  | none => return received
  | some bytes => receive client (received ++ bytes)

/-- Connect to the server of a request. -/
def connectTo (p : Post) : Async (Option TCP.Socket.Client) := do
  match p.location.authority with
  | none => return none
  | some authority =>
    if p.location.scheme != "http" then return none
    try connectFirst (portOf p) (← addresses authority.host)
    catch _ => return none

/-- Send a request and read its response. -/
def converse (p : Post) : Async Answer := do
  match ← connectTo p with
  | none =>
    return .failed (.connect ("error sending request for url (" ++ p.location.text ++ ")"))
  | some client =>
    let unread := NetworkError.http ("error reading the response of " ++ p.location.text)
    try
      client.send ⟨p.message.toArray⟩
      let bytes ← receive client ByteArray.empty
      return (((Message.ofBytes? bytes.toList).bind Message.reply?).map Answer.reply).getD
        (.failed unread)
    catch _ => return .failed unread

/-- A request that takes too long. -/
def expire (p : Post) : Async Answer := do
  sleep (Std.Time.Millisecond.Offset.ofNat p.timeout)
  return .failed (.timeout ("no response from " ++ p.location.text))

instance : Inhabited Answer := ⟨.abandoned⟩

/-- A call against real servers. -/
def perform {α : Type} : Call α → Async α
  | .done result => return result
  | .post request resume => do perform (resume (← Async.race (converse request) (expire request)))

/-! ### Files -/

/-- The text of a path. -/
def written (path : Path) : String :=
  "/" ++ String.intercalate "/" path

/-- The number of the failure to read a directory as a file. -/
def directoryCode : UInt32 := 21

/-- What stands at a path. -/
def probe (path : Path) : IO (Option FileNode) := do
  try
    return some (.file (← IO.FS.readBinFile (written path)).toList)
  catch e =>
    match e with
    | .inappropriateType _ code _ =>
      return if code == directoryCode then some .directory else none
    | _ => return none

/-- Fetch what stands on the way along names. A directory that is missing may be created before the
rest of the way is followed, so that is fetched, too. -/
def fetchAlong (fs : Files) (directory : Path) : List String → IO Files
  | [] => return fs
  | name :: rest => do
    if name = "." then fetchAlong fs directory rest
    else if name = ".." then fetchAlong fs directory.dropLast rest
    else
      let path := directory ++ [name]
      match ← probe path with
      | none => fetchAlong fs path rest
      | some node => fetchAlong (fs.place path node) path rest

/-- Fetch what stands at a path and on the way to it. -/
def fetchFile (m : Machine) (p : WrittenPath) : IO Machine :=
  return m.withFiles (← fetchAlong m.files (m.files.start p) p.names)

/-- Store the nodes that a run has added or changed, the outer ones first. -/
def storeFiles (before after : Files) : IO Unit :=
  after.nodes.toList.forM fun (path, node) => do
    if before.nodes[path]? ≠ some node then
      match node with
      | .directory => IO.FS.createDir (written path)
      | .file content => IO.FS.writeBinFile (written path) ⟨content.toArray⟩

/-! ### Runs -/

/-- Random names, drawn from a seed. -/
def nameFrom (seed : Bytes) (n : Nat) : String :=
  Bytes.hex ((Sha256.digest (seed ++ Bytes.ofNat64 n)).take 16)

/-- The machine of the process, without files. -/
def machine : IO Machine := do
  let current := (WrittenPath.ofString (toString (← IO.currentDir))).names
  let seed := (← IO.getRandomBytes 16).toList
  return ⟨.seenFrom current, ← IO.monoMsNow, nameFrom seed, 0⟩

/-- What the process was given. The input is read if it is needed. -/
def invocation (words : List String) : IO Invocation := do
  let given : Invocation := {
    words
    connect := ← IO.getEnv "XMLA_CONNECT"
    profile := ← IO.getEnv "XMLA_PROFILE"
    environment := {
      configDirectory := ← IO.getEnv "XMLA_CONFIG_DIR"
      sharedDirectory := ← IO.getEnv "XDG_CONFIG_HOME"
      home := (← IO.getEnv "HOME").filter (· ≠ "") }
    input := [] }
  if given.readsInput then
    return { given with input := (← (← IO.getStdin).readBinToEnd).toList }
  else return given

/-- The machine with all that a run may read. -/
def furnish (i : Invocation) (m : Machine) : IO Machine := do
  let m ← i.files.foldlM fetchFile m
  (i.recording? m).toList.foldlM fetchFile m

end OlapClient.Outside

open OlapClient Outside in
/-- Run on the words, environment and input of the process. -/
def main (words : List String) : IO UInt32 := do
  let i ← invocation words
  let before ← furnish i (← machine)
  let (outcome, after) ← (perform (i.run before)).block
  storeFiles before.files after.files
  (← IO.getStdout).putStr outcome.output
  (← IO.getStderr).putStr outcome.errors
  return UInt32.ofNat outcome.code
