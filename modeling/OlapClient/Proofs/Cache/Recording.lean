import OlapClient.Cache.Replay
import OlapClient.Proofs.Files.Place
import OlapClient.Proofs.Text.Mark

namespace OlapClient.Cache

/-!
# Recordings

* `Record.decode?_encode` — a record is read back from its bytes.
* `recorded?_recording` — the file of a key yields its response, and to that key only.
* `writeEntry_adds` — recording a response creates no file but ones with that recording.
-/

/-! ### Records -/

/-- Lengths that eight bytes can write; no sequence of bytes in a machine is longer. -/
def Writable (bs : Bytes) : Prop :=
  bs.length < 18446744073709551616

/-- A byte after the number that the bytes before it spell. -/
theorem div_mul_add_byteAt (n k : Nat) :
    n / Nat.pow 256 (k + 1) * 256 + (byteAt n k).toNat = n / Nat.pow 256 k := by
  show n / (Nat.pow 256 k * 256) * 256 + (UInt8.ofNat (n / Nat.pow 256 k)).toNat = _
  rw [UInt8.toNat_ofNat', ← Nat.div_div_eq_div_mul]
  exact Nat.div_add_mod' _ _

theorem toNat_ofNat64 {n : Nat} (h : n < 18446744073709551616) :
    Bytes.toNat (Bytes.ofNat64 n) = n := by
  -- nothing is spelled before the first byte, and each byte adds one digit to base 256
  have hnone : n / Nat.pow 256 8 = 0 := Nat.div_eq_of_lt h
  have hfirst : 0 * 256 + (byteAt n 7).toNat = n / Nat.pow 256 7 := by
    rw [← hnone]
    exact div_mul_add_byteAt n 7
  simp only [Bytes.ofNat64, Bytes.toNat, List.foldl_cons, List.foldl_nil]
  rw [hfirst, div_mul_add_byteAt n 6, div_mul_add_byteAt n 5, div_mul_add_byteAt n 4,
    div_mul_add_byteAt n 3, div_mul_add_byteAt n 2, div_mul_add_byteAt n 1, div_mul_add_byteAt n 0]
  exact Nat.div_one n

theorem takeWithLength_append {bs : Bytes} (h : Writable bs) (rest : Bytes) :
    takeWithLength (withLength bs ++ rest) = some (bs, rest) := by
  have hhead : (Bytes.ofNat64 bs.length).length = 8 := rfl
  have htake : (withLength bs ++ rest).take 8 = Bytes.ofNat64 bs.length := by
    rw [withLength, List.append_assoc, List.take_left' hhead]
  have hdrop : (withLength bs ++ rest).drop 8 = bs ++ rest := by
    rw [withLength, List.append_assoc, List.drop_left' hhead]
  have hlength : ¬ (withLength bs ++ rest).length < 8 := by
    rw [withLength, List.length_append, List.length_append, hhead]
    omega
  have hrest : ¬ (bs ++ rest).length < bs.length := by
    rw [List.length_append]
    omega
  simp only [takeWithLength, if_neg hlength, htake, hdrop, toNat_ofNat64 h, if_neg hrest,
    List.take_left, List.drop_left]

/-- A record is read back from its bytes. -/
theorem Record.decode?_encode {r : Record} (hurl : Writable r.url)
    (hrequest : Writable r.request) : Record.decode? r.encode = some r := by
  rw [encode, decode?, List.append_assoc, takeWithLength_append hurl]
  simp only [takeWithLength_append hrequest]

/-- Keys whose recordings can be read back. -/
def EntryKey.Writable (key : EntryKey) : Prop :=
  Cache.Writable (Utf8.encodeString key.url) ∧ Cache.Writable key.request

/-- A recording yields its response, and to its own key only. -/
theorem recorded?_recording {key key' : EntryKey} {response response' : Bytes}
    (hkey : key'.Writable) (h : recorded? key (recording key' response') = some response) :
    key = key' ∧ response = response' := by
  unfold recorded? recording at h
  rw [Record.decode?_encode hkey.1 hkey.2] at h
  simp only at h
  split at h
  · rename_i heq
    obtain ⟨url, request⟩ := key
    obtain ⟨url', request'⟩ := key'
    obtain ⟨hurl, hrequest⟩ := heq
    cases h
    cases Utf8.encodeString_injective hurl
    cases hrequest
    exact ⟨rfl, rfl⟩
  · cases h

/-! ### Files -/

theorem readEntry_eq_ok {fs : Files} {root : WrittenPath} {partition : String} {key : EntryKey}
    {response : Bytes} (h : readEntry fs root partition key = .ok (some response)) :
    ∃ content, fs.node? (fs.placeOf (entryPath root partition key)) = some (.file content) ∧
      recorded? key content = some response := by
  unfold readEntry at h
  split at h
  · rename_i content hread
    exact ⟨content, Files.read_eq_ok hread, Except.ok.inj h⟩
  · cases h
  · cases h

/-- Wherever recording a response ends, the files are those from before and copies of the
recording. -/
theorem writeEntry_adds (fs : Files) (root : WrittenPath) (partition : String) (key : EntryKey)
    (nonce : String) (response : Bytes) :
    fs.Adds (· = recording key response)
      (writeEntry fs root partition key nonce response).2 := by
  have hmade := Files.makeDirectories_adds fs (· = recording key response)
    (directoryPath root partition)
  unfold writeEntry
  dsimp only
  -- the cases are the steps that may fail, each after those that have succeeded
  split
  · rename_i made heq
    rw [heq] at hmade
    exact hmade
  · rename_i made heq
    rw [heq] at hmade
    split
    · exact hmade
    · rename_i written hwrite
      rw [Files.write_eq_ok hwrite]
      have hwritten := hmade.trans (Files.Adds.place_file made
        (made.placeOf (draftPath root partition key nonce)) rfl)
      split
      · -- what is moved to its place is the draft, which is the recording
        rename_i moved hmove
        obtain ⟨content, hcontent, rfl⟩ := Files.rename_eq_ok hmove
        refine (hwritten.trans (Files.Adds.place_file _ _ ?_)).trans (Files.Adds.erase _ _ _)
        rw [Files.node?_place] at hcontent
        split at hcontent
        · cases hcontent
        · rename_i hroot
          have hplace : (made.place (made.placeOf (draftPath root partition key nonce))
              (.file (recording key response))).placeOf (draftPath root partition key nonce) =
              made.placeOf (draftPath root partition key nonce) := rfl
          rw [hplace, if_pos rfl] at hcontent
          cases hcontent
          rfl
      · split
        · rename_i removed hremove
          rw [Files.remove_eq_ok hremove]
          exact hwritten.trans (Files.Adds.erase _ _ _)
        · exact hwritten

theorem discard_adds (fs : Files) (new : Bytes → Prop) (path : WrittenPath) :
    fs.Adds new (discard fs path) := by
  unfold discard
  split
  · rename_i removed hremove
    rw [Files.remove_eq_ok hremove]
    exact .erase fs new _
  · exact .refl fs new

theorem foldl_discard_adds (fs : Files) (new : Bytes → Prop) (paths : List WrittenPath) :
    fs.Adds new (paths.foldl discard fs) := by
  induction paths generalizing fs with
  | nil => exact .refl fs new
  | cons path paths ih => exact (discard_adds fs new path).trans (ih _)

/-- Removing recordings adds no file. -/
theorem flush_adds (r : Replay) (fs : Files) (new : Bytes → Prop) :
    fs.Adds new (r.flush fs) := by
  unfold Replay.flush
  split
  · exact foldl_discard_adds fs new _
  · exact .refl fs new

end OlapClient.Cache
