import OlapClient.Proofs.Cache.Recording
import OlapClient.Proofs.Files.Below
import OlapClient.Proofs.Text.Utf8

namespace OlapClient.Cache

open Location (Url)

/-!
# Stores over any digest

Directories and files of recordings are named by a digest. Which one it is makes no difference to
most of what a store does, so the names are taken here by any function to 32 bytes; the store of
recordings is that of `Sha256`.

* `Digest`, `Digest.sha256` — functions to 32 bytes, and the one that stores use.
* `Digest.directoryName`, `Digest.entryName` — the names that a digest gives.
* `Digest.proper_directory`, `Digest.proper_entry`, `Digest.proper_draft` — they are names of files.
* `readAt`, `writeAt` — reading a recording and making one, wherever they lie.
* `Digest.get`, `Digest.put` — the operations of a store; `Digest.sha256_get`, `Digest.sha256_put`.
* `recorded?_recording_self` — a recording yields its response to its key.
-/

/-- A function from byte sequences to 32 bytes. Nothing says that it tells sequences apart. -/
structure Digest where
  of : Bytes → Bytes
  length_of : ∀ bs, (of bs).length = 32

/-! ### Reading and writing one recording -/

/-- Read what a file records for a key. -/
def readAt (fs : Files) (path : WrittenPath) (key : EntryKey) : Except FileError (Option Bytes) :=
  match fs.read path with
  | .ok content => .ok (recorded? key content)
  | .error .notFound => .ok none
  | .error e => .error e

/-- Write a file by a draft: make its directory, write the draft, and move it to its place. -/
def writeAt (fs : Files) (directory draft target : WrittenPath) (content : Bytes) :
    Except FileError Unit × Files :=
  match fs.makeDirectories directory with
  | (.error e, made) => (.error e, made)
  | (.ok _, made) =>
    match made.write draft content with
    | .error e => (.error e, made)
    | .ok written =>
      match written.rename draft target with
      | .ok moved => (.ok (), moved)
      | .error e =>
        match written.remove draft with
        | .ok removed => (.error e, removed)
        | .error _ => (.error e, written)

/-! ### Names -/

namespace Digest

/-- The digest that stores use. -/
def sha256 : Digest where
  of := Sha256.digest
  length_of bs := by simp [Sha256.digest, Sha256.wordBytes]

variable (H : Digest)

/-- The directory of a partition. -/
def directoryName (partition : String) : String :=
  let plain := partition.toList.map fun c => if isPlain c then c else '_'
  let mark := Bytes.hexChars ((H.of (Utf8.encodeString partition)).take 8)
  String.ofList (plain ++ '-' :: mark)

/-- The digest that names an entry. -/
def entryName (key : EntryKey) : String :=
  Bytes.hex (H.of (entryMaterial key))

/-- The file of an entry in the directory of its partition. -/
def fileName (key : EntryKey) : String :=
  H.entryName key ++ entryEnding

/-- The file that an entry is written to before it is moved to its place. -/
def draftName (key : EntryKey) (nonce : String) : String :=
  H.entryName key ++ "." ++ nonce ++ ".tmp"

/-- The directory of a partition below a root. -/
def directoryPath (root : WrittenPath) (partition : String) : WrittenPath :=
  root.child (H.directoryName partition)

/-- The file of an entry below a root. -/
def entryPath (root : WrittenPath) (partition : String) (key : EntryKey) : WrittenPath :=
  (H.directoryPath root partition).child (H.fileName key)

/-- The draft of an entry below a root. -/
def draftPath (root : WrittenPath) (partition : String) (key : EntryKey) (nonce : String) :
    WrittenPath :=
  (H.directoryPath root partition).child (H.draftName key nonce)

/-! ### What names of files they are -/

theorem length_hexChars (bs : Bytes) : (Bytes.hexChars bs).length = 2 * bs.length := by
  unfold Bytes.hexChars
  induction bs with
  | nil => rfl
  | cons b bs ih =>
    rw [List.flatMap_cons, List.length_append, ih]
    show 2 + 2 * bs.length = 2 * (bs.length + 1)
    omega

theorem length_entryName (key : EntryKey) : (H.entryName key).toList.length = 64 := by
  unfold entryName Bytes.hex
  rw [String.toList_ofList, length_hexChars, H.length_of]

/-- A directory's name has a character that the improper names lack. -/
theorem proper_directory (partition : String) : ProperName (H.directoryName partition) := by
  have hmem : '-' ∈ (H.directoryName partition).toList := by
    unfold directoryName
    rw [String.toList_ofList]
    exact List.mem_append_right _ List.mem_cons_self
  refine ⟨?_, ?_, ?_⟩ <;> intro h <;> rw [h] at hmem <;> revert hmem <;> decide

/-- A long name is none of the improper ones. -/
theorem proper_of_length {name : String} (h : 2 < name.toList.length) : ProperName name := by
  refine ⟨?_, ?_, ?_⟩ <;> intro heq <;> rw [heq] at h <;> revert h <;> decide

theorem proper_entry (key : EntryKey) : ProperName (H.fileName key) := by
  apply proper_of_length
  rw [fileName, String.toList_append, List.length_append, length_entryName]
  omega

theorem proper_draft (key : EntryKey) (nonce : String) : ProperName (H.draftName key nonce) := by
  apply proper_of_length
  rw [draftName, String.toList_append, String.toList_append, String.toList_append,
    List.length_append, List.length_append, List.length_append, length_entryName]
  omega

/-- The files of entries are those that are listed as recordings. -/
theorem isEntryName_entry (key : EntryKey) : isEntryName (H.fileName key) = true := by
  have hlength : entryEnding.toList.length < (H.fileName key).toList.length := by
    rw [fileName, String.toList_append, List.length_append, length_entryName]
    omega
  have hsuffix : entryEnding.toList.isSuffixOf (H.fileName key).toList = true := by
    rw [List.isSuffixOf_iff_suffix, fileName, String.toList_append]
    exact List.suffix_append _ _
  unfold isEntryName
  simp only [hlength, hsuffix, decide_true, Bool.and_self]

/-- A draft is not listed as a recording. -/
theorem isEntryName_draft (key : EntryKey) (nonce : String) :
    isEntryName (H.draftName key nonce) = false := by
  have hsuffix : ¬ entryEnding.toList <:+ (H.draftName key nonce).toList := by
    -- both endings would end the name, and so one the other
    intro h
    have hdraft : ".tmp".toList <:+ (H.draftName key nonce).toList := by
      rw [draftName, String.toList_append]
      exact List.suffix_append _ _
    exact absurd (List.suffix_of_suffix_length_le hdraft h (by decide)) (by decide)
  have hfalse : entryEnding.toList.isSuffixOf (H.draftName key nonce).toList = false := by
    rw [Bool.eq_false_iff]
    intro h
    exact hsuffix (List.isSuffixOf_iff_suffix.1 h)
  unfold isEntryName
  simp only [hfalse, Bool.and_false]

theorem fileName_inj {key key' : EntryKey} (h : H.fileName key = H.fileName key') :
    H.entryName key = H.entryName key' := by
  unfold fileName at h
  exact String.append_left_inj _ |>.1 h

/-- Drafts are told apart by their nonces, as the digests before them have one length. -/
theorem draftName_inj {key key' : EntryKey} {nonce nonce' : String}
    (h : H.draftName key nonce = H.draftName key' nonce') : nonce = nonce' := by
  have hchars : ∀ (key : EntryKey) (nonce : String), (H.draftName key nonce).toList =
      (H.entryName key).toList ++ ('.' :: nonce.toList ++ ".tmp".toList) := by
    intro key nonce
    simp [draftName, String.toList_append]
  have hlist := congrArg String.toList h
  rw [hchars, hchars] at hlist
  obtain ⟨_, hrest⟩ := List.append_inj hlist (by rw [length_entryName, length_entryName])
  exact String.toList_inj.1 (List.cons.inj (List.append_inj' hrest rfl).1).2

/-- A digit takes one byte. -/
theorem size_hexChars (bs : Bytes) : Utf8.size (Bytes.hexChars bs) = 2 * bs.length := by
  have hdigit : ∀ n < 16, (hexDigit n).utf8Size = 1 := by
    decide
  unfold Bytes.hexChars
  induction bs with
  | nil => rfl
  | cons b bs ih =>
    have hhigh := hdigit (b.toNat / 16) (by have := b.toNat_lt; omega)
    have hlow := hdigit (b.toNat % 16) (by omega)
    have hpair : Utf8.size [hexDigit (b.toNat / 16), hexDigit (b.toNat % 16)] = 2 := by
      show (hexDigit (b.toNat / 16)).utf8Size + ((hexDigit (b.toNat % 16)).utf8Size + 0) = 2
      rw [hhigh, hlow]
    rw [List.flatMap_cons, Utf8.size_append, hpair, ih, List.length_cons]
    omega

/-- The system takes the name of an entry. -/
theorem entry_not_long (key : EntryKey) :
    ¬ Files.longestName < Utf8.size (H.fileName key).toList := by
  rw [fileName, String.toList_append, Utf8.size_append, entryName, Bytes.hex, String.toList_ofList,
    size_hexChars, H.length_of]
  decide

/-! ### Stores -/

/-- Read the response of a request. -/
def get (r : Replay) (fs : Files) (id : SessionId) (url : Url) (request : Bytes) :
    Except CacheError (Option Bytes) :=
  if request = [] then .error .emptyRequest
  else
    match r.registry.partitionOf id with
    | .error e => .error e
    | .ok partition =>
      (readAt fs (H.entryPath r.root partition (.of url request)) (.of url request)).mapError
        .storage

/-- Record the response of a request. -/
def put (r : Replay) (fs : Files) (nonce : String) (id : SessionId) (url : Url)
    (request response : Bytes) : Except CacheError Unit × Files :=
  if request = [] then (.error .emptyRequest, fs)
  else
    match r.registry.partitionOf id with
    | .error e => (.error e, fs)
    | .ok partition =>
      let key := EntryKey.of url request
      let (result, fs') := writeAt fs (H.directoryPath r.root partition)
        (H.draftPath r.root partition key nonce) (H.entryPath r.root partition key)
        (recording key response)
      (result.mapError .storage, fs')

/-- A put is refused, or it is one into the session's partition. -/
theorem put_cases (r : Replay) (fs : Files) (nonce : String) (id : SessionId) (url : Url)
    (request response : Bytes) :
    (∃ e, H.put r fs nonce id url request response = (.error e, fs)) ∨
    (∃ partition, r.registry.partitionOf id = .ok partition ∧
      let written := writeAt fs (H.directoryPath r.root partition)
        (H.draftPath r.root partition (.of url request) nonce)
        (H.entryPath r.root partition (.of url request)) (recording (.of url request) response)
      H.put r fs nonce id url request response = (written.1.mapError .storage, written.2)) := by
  unfold put
  split
  · exact .inl ⟨_, rfl⟩
  · cases r.registry.partitionOf id with
    | error e => exact .inl ⟨e, rfl⟩
    | ok partition => exact .inr ⟨partition, rfl, rfl⟩

/-- A look-up that succeeds has read the file in the session's partition. -/
theorem readAt_of_get {r : Replay} {fs : Files} {id : SessionId} {partition : String} {url : Url}
    {request : Bytes} {found : Option Bytes} (hpartition : r.registry.partitionOf id = .ok partition)
    (h : H.get r fs id url request = .ok found) :
    readAt fs (H.entryPath r.root partition (.of url request)) (.of url request) = .ok found := by
  unfold get at h
  rw [hpartition] at h
  split at h
  · cases h
  · exact Except.mapError_eq_ok h

/-- The store of recordings names its files by `Sha256`. -/
theorem sha256_get (r : Replay) (fs : Files) (id : SessionId) (url : Url) (request : Bytes) :
    sha256.get r fs id url request = r.get fs id url request :=
  rfl

theorem sha256_put (r : Replay) (fs : Files) (nonce : String) (id : SessionId) (url : Url)
    (request response : Bytes) :
    sha256.put r fs nonce id url request response = r.put fs nonce id url request response :=
  rfl

end Digest

/-! ### Recordings -/

/-- A recording yields its response to its key. -/
theorem recorded?_recording_self {key : EntryKey} (hkey : key.Writable) (response : Bytes) :
    recorded? key (recording key response) = some response := by
  unfold recorded? recording
  rw [Record.decode?_encode hkey.1 hkey.2]
  exact if_pos ⟨rfl, rfl⟩

variable {fs : Files} {path : WrittenPath} {key : EntryKey}

theorem readAt_eq_some {response : Bytes} (h : readAt fs path key = .ok (some response)) :
    ∃ content, fs.read path = .ok content ∧ recorded? key content = some response := by
  unfold readAt at h
  split at h
  · rename_i content hread
    exact ⟨content, hread, Except.ok.inj h⟩
  · cases h
  · cases h

/-- A key has no recording because there is no file, or because the file is none of it. -/
theorem readAt_eq_none (h : readAt fs path key = .ok none) :
    fs.read path = .error .notFound ∨
      ∃ content, fs.read path = .ok content ∧ recorded? key content = none := by
  unfold readAt at h
  split at h
  · rename_i content hread
    exact .inr ⟨content, hread, Except.ok.inj h⟩
  · rename_i hread
    exact .inl hread
  · cases h

end OlapClient.Cache
