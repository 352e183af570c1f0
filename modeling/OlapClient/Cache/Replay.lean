import OlapClient.Cache.Partition
import OlapClient.Cache.Record
import OlapClient.Cache.Session
import OlapClient.Digest.Sha256
import OlapClient.Files.Tree

namespace OlapClient.Cache

open Location (Url)

/-!
# The store of recordings

Responses are recorded as files, one per request, in one directory per partition. Recordings outlive
the store: another store over the same directory replays them.

* `Replay` — the root directory and the sessions of a store.
* `entryPath` — the file of a request. Its name is a digest of location and request.
* `Replay.get`, `Replay.put`, `Replay.flush` — the operations, over a tree of files.
-/

/-- A store of recordings below a directory. The path of the directory is kept as it was written, so
each operation follows it anew. -/
structure Replay where
  root : WrittenPath
  registry : Registry

/-- The ending of the files of recordings. -/
def entryEnding : String := ".xmla"

/-- A character that may stand in the name of a directory. -/
def isPlain (c : Char) : Bool :=
  isAsciiLetter c || isDigit c || c == '-' || c == '_'

/-- The directory of a partition: its name made plain, and a digest of its exact name. -/
def partitionDirectory (partition : String) : String :=
  let plain := partition.toList.map fun c => if isPlain c then c else '_'
  let mark := Bytes.hexChars ((Sha256.digest (Utf8.encodeString partition)).take 8)
  String.ofList (plain ++ '-' :: mark)

/-- What the name of an entry is a digest of. -/
def entryMaterial (key : EntryKey) : Bytes :=
  Utf8.encodeString key.url ++ 0 :: key.request

/-- The digest that names an entry. -/
def entryName (key : EntryKey) : String :=
  Bytes.hex (Sha256.digest (entryMaterial key))

/-- The directory of a partition below the root. -/
def directoryPath (root : WrittenPath) (partition : String) : WrittenPath :=
  root.child (partitionDirectory partition)

/-- The file of an entry. -/
def entryPath (root : WrittenPath) (partition : String) (key : EntryKey) : WrittenPath :=
  (directoryPath root partition).child (entryName key ++ entryEnding)

/-- The file that an entry is written to before it is moved to its place. -/
def draftPath (root : WrittenPath) (partition : String) (key : EntryKey) (nonce : String) :
    WrittenPath :=
  (directoryPath root partition).child (entryName key ++ "." ++ nonce ++ ".tmp")

/-- Whether a file name is that of a recording: something, and the ending. -/
def isEntryName (name : String) : Bool :=
  let cs := name.toList
  let ending := entryEnding.toList
  ending.length < cs.length && ending.isSuffixOf cs

/-- The response of a file's content, if it is a recording of the key. -/
def recorded? (key : EntryKey) (content : Bytes) : Option Bytes :=
  match Record.decode? content with
  | none => none
  | some r =>
    if r.url = Utf8.encodeString key.url ∧ r.request = key.request then some r.response else none

/-- The content of the file of a key. -/
def recording (key : EntryKey) (response : Bytes) : Bytes :=
  Record.encode ⟨Utf8.encodeString key.url, key.request, response⟩

/-- Read what is recorded for a key. A file that is missing, or of another key, is no recording. -/
def readEntry (fs : Files) (root : WrittenPath) (partition : String) (key : EntryKey) :
    Except FileError (Option Bytes) :=
  match fs.read (entryPath root partition key) with
  | .ok content => .ok (recorded? key content)
  | .error .notFound => .ok none
  | .error e => .error e

/-- Record a response: make its directory, write a draft, and move it to its place. When a step
fails, what the earlier steps did stays, except that a draft that cannot be moved is removed. -/
def writeEntry (fs : Files) (root : WrittenPath) (partition : String) (key : EntryKey)
    (nonce : String) (response : Bytes) : Except FileError Unit × Files :=
  let target := entryPath root partition key
  let draft := draftPath root partition key nonce
  match fs.makeDirectories (directoryPath root partition) with
  | (.error e, made) => (.error e, made)
  | (.ok _, made) =>
    match made.write draft (recording key response) with
    | .error e => (.error e, made)
    | .ok written =>
      match written.rename draft target with
      | .ok moved => (.ok (), moved)
      | .error e =>
        match written.remove draft with
        | .ok removed => (.error e, removed)
        | .error _ => (.error e, written)

/-- The recordings below a root: entries of the directories in it. -/
def entryFiles (fs : Files) (root : WrittenPath) : Except FileError (List WrittenPath) :=
  (fs.list root).map fun names =>
    ((names.map root.child).filter fs.isDirectory).flatMap fun directory =>
      (((fs.list directory).toOption.getD []).filter isEntryName).map directory.child

/-- Remove a file, if it can be removed. -/
def discard (fs : Files) (path : WrittenPath) : Files :=
  match fs.remove path with
  | .ok fs' => fs'
  | .error _ => fs

namespace Replay

/-- Where sessions without a name have their recordings. -/
def sharing : Sharing :=
  .shared "default"

/-- Open a store, and create its directory if it is missing. -/
def create (fs : Files) (root : WrittenPath) : Except CacheError Replay × Files :=
  match fs.makeDirectories root with
  | (.error e, fs') => (.error (.storage e), fs')
  | (.ok _, fs') => (.ok ⟨root, .empty sharing⟩, fs')

/-- Open the store whose directory the properties name. -/
def ofProperties (fs : Files) (properties : PropertyMap) : Except CacheError Replay × Files :=
  match (properties.find? "Directory").bind nonBlank? with
  | none => (.error (.missingProperty "Directory"), fs)
  | some directory => create fs (.ofString directory)

/-- Register a session. -/
def configure (r : Replay) (nonce : String) (connection cache : PropertyMap) :
    SessionId × Replay :=
  let (session, registry) := r.registry.register nonce connection cache
  (session.id, { r with registry })

/-- The file of a session's request. -/
def entryFile? (r : Replay) (id : SessionId) (url : Url) (request : Bytes) :
    Option WrittenPath :=
  (r.registry.partitionOf id).toOption.map fun partition =>
    entryPath r.root partition (.of url request)

/-- Read the response of a request. -/
def get (r : Replay) (fs : Files) (id : SessionId) (url : Url) (request : Bytes) :
    Except CacheError (Option Bytes) :=
  if request = [] then .error .emptyRequest
  else
    match r.registry.partitionOf id with
    | .error e => .error e
    | .ok partition => (readEntry fs r.root partition (.of url request)).mapError .storage

/-- Record the response of a request. -/
def put (r : Replay) (fs : Files) (nonce : String) (id : SessionId) (url : Url)
    (request response : Bytes) : Except CacheError Unit × Files :=
  if request = [] then (.error .emptyRequest, fs)
  else
    match r.registry.partitionOf id with
    | .error e => (.error e, fs)
    | .ok partition =>
      let (result, fs') := writeEntry fs r.root partition (.of url request) nonce response
      (result.mapError .storage, fs')

/-- The number of recordings, whoever made them. -/
def recorded (r : Replay) (fs : Files) : Except CacheError Nat :=
  match entryFiles fs r.root with
  | .ok paths => .ok paths.length
  | .error e => .error (.storage e)

/-- Remove all recordings that can be removed. -/
def flush (r : Replay) (fs : Files) : Files :=
  match entryFiles fs r.root with
  | .ok paths => paths.foldl discard fs
  | .error _ => fs

end Replay

end OlapClient.Cache
