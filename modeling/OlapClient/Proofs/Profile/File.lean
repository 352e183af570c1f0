import OlapClient.Profile.File
import OlapClient.Proofs.Files.Below
import OlapClient.Proofs.Profile.Document
import OlapClient.Proofs.Result
import OlapClient.Proofs.Text.Utf8

namespace OlapClient

/-!
# Profiles that were saved are loaded

* `Machine.read_of_write` — a file that was written is read back.
* `ProfileSet.load_of_save`, `ProfileSet.loadUser_of_save` — a file of profiles that was saved.
* `ProfileSet.saved_set_returns` — a set of profiles survives its document and its file.
-/

namespace Machine

variable {m m' : Machine} {path : String} {content : Bytes}

theorem read_of_write (h : m.write path content = .ok m') : m'.read path = .ok content := by
  obtain ⟨files, hwrite, rfl⟩ := Except.map_eq_ok h
  exact Files.read_of_write hwrite

end Machine

namespace ProfileSet

variable {s : ProfileSet} {m m' : Machine} {path : String}

/-- A set is saved by writing its document to the file. -/
theorem write_of_save (h : s.save m path = (.ok (), m')) :
    ∃ before : Machine, before.write path (Utf8.encodeString s.write) = .ok m' := by
  unfold save at h
  dsimp only at h
  split at h
  · cases h
  · rename_i before _
    split at h
    · cases h
    · rename_i hwrite
      cases h
      exact ⟨before, hwrite⟩

/-- Only the file system makes saving fail. -/
theorem unwritable_of_save {e : ProfileError} (h : (s.save m path).1 = .error e) :
    ∃ place reason, e = .unwritable place reason := by
  unfold save at h
  dsimp only at h
  split at h
  · cases h
    exact ⟨_, _, rfl⟩
  · split at h
    · cases h
      exact ⟨_, _, rfl⟩
    · cases h

theorem load_of_save (h : s.save m path = (.ok (), m')) : load m' path = .ok s := by
  obtain ⟨before, hwrite⟩ := write_of_save h
  rw [load, Machine.read_of_write hwrite]
  simp only [Utf8.string?_encodeString, read_write]

theorem isFile_of_save (h : s.save m path = (.ok (), m')) : m'.isFile path = true := by
  obtain ⟨before, hwrite⟩ := write_of_save h
  exact Files.isFile_of_read (Machine.read_of_write hwrite)

theorem loadUser_of_save (h : s.save m path = (.ok (), m')) : loadUser m' (some path) = .ok s := by
  simp only [loadUser, isFile_of_save h, if_true, load_of_save h]

/-- **A set of profiles returns from its document, and from any file that it was saved to.** -/
theorem saved_set_returns (s : ProfileSet) :
    read s.write = .ok s ∧
      ∀ m path m', s.save m path = (.ok (), m') → load m' path = .ok s :=
  ⟨read_write s, fun _ _ _ h => load_of_save h⟩

/-- Names, keys and values in quotes of every form. -/
theorem saved_set_returns_quoted :
    let s : ProfileSet := ⟨some "no such [profile]", NameMap.ofPairs
      [("", NameMap.ofPairs []), ("a.b = \"c\" # d", NameMap.ofPairs
        [("it's", "\r\n\t'''\"\"\"\\"), ("\u0001\n", "\n\"\"\"\"\""), ("bare", "C:\\dir")])]⟩
    ∃ m', s.save ⟨.empty, 0, fun _ => "", 0⟩ "/home/config.toml" = (.ok (), m') ∧
      load m' "/home/config.toml" = .ok s := by
  intro s
  have hsave : (s.save ⟨.empty, 0, fun _ => "", 0⟩ "/home/config.toml").1 = .ok () := by
    decide +kernel
  refine ⟨(s.save ⟨.empty, 0, fun _ => "", 0⟩ "/home/config.toml").2, Prod.ext hsave rfl, ?_⟩
  exact (saved_set_returns s).2 _ _ _ (Prod.ext hsave rfl)

end ProfileSet

end OlapClient
