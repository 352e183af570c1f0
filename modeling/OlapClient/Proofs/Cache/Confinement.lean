import OlapClient.Cache.Vault
import OlapClient.Proofs.Cache.Listing
import OlapClient.Proofs.Files.Frame

namespace OlapClient.Cache

open Location (Url)

/-!
# Recordings stay below the root

Reading, making, counting and removing recordings find their files each in its own way. In a tree
of directories and regular files, they agree on which files these are, and leave all others alone.

* `PlainName`, `plainName_directory`, `plainName_entry` — names that lead one directory down.
* `directoryPlace`, `entryPlace` — where the directory of a partition and the file of an entry are.
* `Confined`, `Records`, `put_records` — all that a put does.
* `IsRecording`, `Taken`, `Flushed`, `flushed_flush` — all that a flush does.
* `entryFiles_of_unrecorded` — what is counted where there is no recording.
* `obstacle?`, `get_of_unrecorded` — what look-ups answer there.
* `recordings_confined` — all of it about one store.
-/

variable {r : Replay} {fs fs' : Files} {root : WrittenPath} {place : Path}

/-! ### Names -/

/-- A name of letters, digits, hyphens and underscores. -/
structure PlainName (name : String) : Prop where
  ne_empty : name ≠ ""
  plain : ∀ c ∈ name.toList, isPlain c = true

theorem isPlain_hexChars {bs : Bytes} {c : Char} (h : c ∈ Bytes.hexChars bs) :
    isPlain c = true := by
  have hdigit : ∀ n < 16, isPlain (hexDigit n) = true := by
    decide
  obtain ⟨b, _, hc⟩ := List.mem_flatMap.1 h
  rcases List.mem_cons.1 hc with rfl | hlow
  · exact hdigit _ (by have := b.toNat_lt; omega)
  · rw [List.mem_singleton.1 hlow]
    exact hdigit _ (by omega)

theorem plainName_directory (partition : String) : PlainName (partitionDirectory partition) := by
  refine ⟨(Digest.sha256.proper_directory partition).ne_empty, fun c hc => ?_⟩
  unfold partitionDirectory at hc
  rw [String.toList_ofList] at hc
  rcases List.mem_append.1 hc with hmapped | hmark
  · obtain ⟨original, _, rfl⟩ := List.mem_map.1 hmapped
    split
    · assumption
    · decide
  · rcases List.mem_cons.1 hmark with rfl | hdigest
    · decide
    · exact isPlain_hexChars hdigest

theorem plainName_entry (key : EntryKey) : PlainName (entryName key) := by
  have hlength : (entryName key).toList.length = 64 := Digest.sha256.length_entryName key
  constructor
  · intro hempty
    rw [hempty] at hlength
    cases hlength
  · intro c hc
    unfold entryName Bytes.hex at hc
    rw [String.toList_ofList] at hc
    exact isPlain_hexChars hc

/-- A plain name has no null character. -/
theorem PlainName.without_null {name : String} (h : PlainName name) :
    Char.ofNat 0 ∉ name.toList := fun hnull => by
  have := h.plain _ hnull
  revert this
  decide

/-- The name of a recording is something, and the ending. -/
theorem isEntryName_iff {name : String} :
    isEntryName name = true ↔ ∃ stem, stem ≠ "" ∧ name = stem ++ entryEnding := by
  unfold isEntryName
  simp only [Bool.and_eq_true, decide_eq_true_eq, List.isSuffixOf_iff_suffix]
  constructor
  · rintro ⟨hlength, before, hbefore⟩
    refine ⟨String.ofList before, ?_, ?_⟩
    · intro hempty
      have hnil : before = [] := by simpa using congrArg String.toList hempty
      rw [← hbefore, hnil] at hlength
      simp at hlength
    · rw [← String.toList_inj, String.toList_append, String.toList_ofList, hbefore]
  · rintro ⟨stem, hstem, rfl⟩
    rw [String.toList_append]
    refine ⟨?_, List.suffix_append _ _⟩
    have hpos : stem.toList ≠ [] := by simpa using hstem
    have := List.length_pos_iff.2 hpos
    rw [List.length_append]
    omega

/-! ### Making a recording -/

/-- Where the directory of a partition is below a place. -/
def directoryPlace (place : Path) (partition : String) : Path :=
  place ++ [partitionDirectory partition]

/-- Where the file of an entry is below a place. -/
def entryPlace (place : Path) (partition : String) (key : EntryKey) : Path :=
  place ++ [partitionDirectory partition, entryName key ++ entryEnding]

/-- A tree that differs from another at a file in a directory below a place, at the directory and at
a draft of the file. The directory may be created where nothing was, and no draft is put where there
was none. -/
structure Confined (place : Path) (name draft target : String) (fs fs' : Files) : Prop where
  others : fs.SameBut [place ++ [name], place ++ [name, draft], place ++ [name, target]] fs'
  directory : fs'.node? (place ++ [name]) = fs.node? (place ++ [name]) ∨
    fs.node? (place ++ [name]) = none ∧ fs'.node? (place ++ [name]) = some .directory
  draft : fs'.node? (place ++ [name, draft]) = fs.node? (place ++ [name, draft]) ∨
    fs'.node? (place ++ [name, draft]) = none

/-- What a put does to the files. The recording is in its place if the put succeeds; if not, there is
what was there before. Nothing else changes but the directory. -/
structure Records (place : Path) (partition : String) (key : EntryKey) (nonce : String)
    (response : Bytes) (fs fs' : Files) (result : Except CacheError Unit) : Prop where
  entry : fs'.node? (entryPlace place partition key) =
    match result with
    | .ok _ => some (.file (recording key response))
    | .error _ => fs.node? (entryPlace place partition key)
  confined : Confined place (partitionDirectory partition)
    (entryName key ++ "." ++ nonce ++ ".tmp") (entryName key ++ entryEnding) fs fs'

/-- A recording is made by changes to its own places. -/
theorem writeAt_confined {name draft target : String} (content : Bytes) (hwf : fs.WellFormed)
    (hlead : fs.Leads root place) (hname : ProperName name) (hdraft : ProperName draft)
    (htarget : ProperName target) :
    Confined place name draft target fs (writeAt fs (root.child name)
      ((root.child name).child draft) ((root.child name).child target) content).2 := by
  obtain ⟨hwf₁, hadds⟩ := Files.makeDirectories_spec hwf (root.child name)
  have hmade := Files.makeDirectories_sameBut hlead hname
  have hdirectory := Files.node?_makeDirectories_child hlead hname
  have hlead₁ := hlead.keeps hadds.keeps
  obtain ⟨e, hfailed⟩ | ⟨written, hwrite, hlater⟩ := writeAt_cases fs (root.child name)
    ((root.child name).child draft) ((root.child name).child target) content
  · rw [hfailed]
    exact ⟨hmade.mono (by simp), hdirectory, .inl (hmade.nodes _ (by simp))⟩
  · have hlead₂ := hlead₁.keeps (Files.write_wellFormed hwf₁ hwrite).2
    have hwritten := Files.write_sameBut hlead₁ hname hdraft hwrite
    -- the steps after the directory change what is two names below the place, and the last of them
    -- takes the draft away
    have hlast : ∀ files : Files,
        written.SameBut [place ++ [name, draft], place ++ [name, target]] files →
        files.node? (place ++ [name, draft]) = none →
        Confined place name draft target fs files := by
      intro files hfiles hgone
      have hafter := Files.SameBut.trans (hwritten.mono (by simp)) hfiles
      refine ⟨(hmade.mono (by simp)).trans (hafter.mono (by simp)), ?_, .inr hgone⟩
      rw [hafter.nodes (place ++ [name]) (by simp)]
      exact hdirectory
    obtain ⟨moved, hmove, hdone⟩ | ⟨e, removed, hremove, hdone⟩ := hlater
    · rw [hdone]
      refine hlast moved (Files.rename_sameBut hlead₂ hname hdraft htarget hmove) ?_
      obtain ⟨_, _, rfl⟩ := Files.rename_below hlead₂ hname hdraft htarget hmove
      rw [Files.node?_erase, if_neg (by simp), if_pos rfl]
    · rw [hdone]
      refine hlast removed ((Files.remove_sameBut hlead₂ hname hdraft hremove).mono (by simp)) ?_
      rw [Files.remove_below hlead₂ hname hdraft hremove, Files.node?_erase, if_neg (by simp),
        if_pos rfl]

/-- **All that a put does.** -/
theorem put_records (hwf : fs.WellFormed) (hlead : fs.Leads r.root place) (nonce : String)
    (id : SessionId) (url : Url) (request response : Bytes) :
    (∃ e, r.put fs nonce id url request response = (.error e, fs)) ∨
    ∃ partition, r.registry.partitionOf id = .ok partition ∧
      Records place partition (.of url request) nonce response fs
        (r.put fs nonce id url request response).2 (r.put fs nonce id url request response).1 := by
  obtain hrefused | ⟨partition, hpartition, hput⟩ :=
    Digest.sha256.put_cases r fs nonce id url request response
  · exact .inl hrefused
  · refine .inr ⟨partition, hpartition, ?_⟩
    have hname := Digest.sha256.proper_directory partition
    have hdraft := Digest.sha256.proper_draft (.of url request) nonce
    have htarget := Digest.sha256.proper_entry (.of url request)
    have hentry := Digest.sha256.isEntryName_entry (.of url request)
    have hconfined := writeAt_confined (recording (.of url request) response) hwf hlead hname
      hdraft htarget
    have hspec := (writeAt_spec (recording (.of url request) response) hwf hlead hname hdraft
      htarget (Digest.sha256.isEntryName_draft _ _)).2.2
    obtain ⟨written, hwritten⟩ : ∃ written, written =
        writeAt fs (Digest.sha256.directoryPath r.root partition)
          (Digest.sha256.draftPath r.root partition (.of url request) nonce)
          (Digest.sha256.entryPath r.root partition (.of url request))
          (recording (.of url request) response) := ⟨_, rfl⟩
    replace hput : r.put fs nonce id url request response =
        (written.1.mapError .storage, written.2) := hwritten ▸ hput
    rw [hput]
    refine ⟨?_, hwritten ▸ hconfined⟩
    obtain ⟨e, herror, hkeeps⟩ | ⟨hok, hnew⟩ := hwritten ▸ hspec
    · rw [herror]
      exact hkeeps _ _ hentry
    · rw [hok]
      exact (hnew _ _ hentry).trans (if_pos ⟨rfl, rfl⟩)

/-! ### Removing recordings -/

/-- A file is a recording by where it is: two names below a place, the second of them something and
the ending. -/
def IsRecording (place : Path) (fs : Files) (path : Path) : Prop :=
  ∃ outer stem content, stem ≠ "" ∧ path = place ++ [outer, stem ++ entryEnding] ∧
    fs.node? path = some (.file content)

/-- The system takes the path of a root, and of whatever is two names below it. -/
structure Taken (root : WrittenPath) (place : Path) (fs : Files) : Prop where
  listed : Files.check root = .ok ()
  below : ∀ outer inner, fs.node? (place ++ [outer, inner]) ≠ none →
    Listable root outer ∧ Files.check ((root.child outer).child inner) = .ok () ∧
      ¬ Files.longestName < Utf8.size inner.toList

/-- The second tree is the first without its recordings. -/
structure Flushed (place : Path) (fs fs' : Files) : Prop where
  current : fs'.current = fs.current
  removed : ∀ path, IsRecording place fs path → fs'.node? path = none
  kept : ∀ path, ¬ IsRecording place fs path → fs'.node? path = fs.node? path

/-- Nothing but a directory at an entry keeps it from being removed. -/
structure Removable (root : WrittenPath) (place : Path) (fs : Files) (e : String × String) :
    Prop where
  outer : ProperName e.1
  inner : ProperName e.2
  listable : Listable root e.1
  check : Files.check ((root.child e.1).child e.2) = .ok ()
  short : ¬ Files.longestName < Utf8.size e.2.toList
  directory : fs.isDirectoryAt (place ++ [e.1]) = true

section
variable {e : String × String} {es : List (String × String)}

theorem Removable.keeps (h : Removable root place fs e) (hkeeps : fs.KeepsDirectories fs') :
    Removable root place fs' e :=
  { h with directory := hkeeps.directories _ h.directory }

/-- A file at an entry is removed, and all other nodes are as they were. -/
theorem Removable.discard_spec (h : Removable root place fs e) (hwf : fs.WellFormed)
    (hlead : fs.Leads root place) :
    let left := discard fs ((root.child e.1).child e.2)
    left.WellFormed ∧ fs.KeepsDirectories left ∧ ∀ path, left.node? path =
      if path = place ++ [e.1, e.2] ∧ (fs.content? path).isSome then none else fs.node? path := by
  have hremove := Files.remove_below_eq hlead h.outer h.inner h.listable.2 h.short h.check
    h.directory
  cases hnode : fs.content? (place ++ [e.1, e.2]) with
  | some content =>
    rw [Files.content?_eq_some.1 hnode] at hremove
    obtain ⟨hwf', hkeeps⟩ := Files.remove_wellFormed hwf hremove
    unfold discard
    rw [hremove]
    refine ⟨hwf', hkeeps, fun path => ?_⟩
    by_cases hpath : path = place ++ [e.1, e.2]
    · rw [hpath, hnode, Files.node?_erase, if_neg (by simp), if_pos rfl, if_pos ⟨rfl, rfl⟩]
    · rw [(fs.erase_sameBut _).nodes path (by simpa using hpath), if_neg (hpath ·.1)]
  | none =>
    have hsame : discard fs ((root.child e.1).child e.2) = fs := by
      unfold discard
      rw [hremove]
      unfold Files.content? at hnode
      cases hfound : fs.node? (place ++ [e.1, e.2]) with
      | none => rfl
      | some node =>
        cases node with
        | directory => rfl
        | file content =>
          rw [hfound] at hnode
          cases hnode
    rw [hsame]
    refine ⟨hwf, .refl fs, fun path => ?_⟩
    rw [if_neg]
    rintro ⟨rfl, hsome⟩
    rw [hnode] at hsome
    cases hsome

/-- Entries are removed one by one: their files are gone, and all other nodes are as they were. -/
theorem foldl_discard_spec (hwf : fs.WellFormed) (hlead : fs.Leads root place)
    (h : ∀ e ∈ es, Removable root place fs e) :
    let left := (es.map fun e => (root.child e.1).child e.2).foldl discard fs
    left.WellFormed ∧ fs.KeepsDirectories left ∧ ∀ path, left.node? path =
      if (∃ e ∈ es, path = place ++ [e.1, e.2]) ∧ (fs.content? path).isSome then none
      else fs.node? path := by
  induction es generalizing fs with
  | nil =>
    refine ⟨hwf, .refl fs, fun path => ?_⟩
    simp
  | cons e es ih =>
    obtain ⟨hwf₁, hkeeps₁, hnode₁⟩ := (h e List.mem_cons_self).discard_spec hwf hlead
    obtain ⟨hwf₂, hkeeps₂, hnode₂⟩ := ih hwf₁ (hlead.keeps hkeeps₁) fun e' he' =>
      (h e' (List.mem_cons_of_mem _ he')).keeps hkeeps₁
    refine ⟨hwf₂, hkeeps₁.trans hkeeps₂, fun path => ?_⟩
    rw [List.map_cons, List.foldl_cons, hnode₂ path]
    by_cases hpath : path = place ++ [e.1, e.2] ∧ (fs.content? path).isSome
    · -- the file is gone after the first step, and nothing brings it back
      rw [(hnode₁ path).trans (if_pos hpath), ite_self,
        if_pos ⟨⟨e, List.mem_cons_self, hpath.1⟩, hpath.2⟩]
    · have hsame := (hnode₁ path).trans (if_neg hpath)
      have hcontent : (discard fs ((root.child e.1).child e.2)).content? path =
          fs.content? path := by
        unfold Files.content?
        rw [hsame]
      rw [hsame, hcontent]
      refine if_congr ?_ rfl rfl
      rw [List.exists_mem_cons_iff, or_and_right]
      exact (or_iff_right hpath).symm

end

/-- What is listed can be removed, where the system takes the paths. -/
theorem Taken.removable (h : Taken root place fs) (hwf : fs.WellFormed)
    (hlead : fs.Leads root place) {e : String × String} (he : e ∈ entriesBelow fs root place) :
    Removable root place fs e := by
  obtain ⟨hlistable, _, hnode⟩ := (mem_entriesBelow hwf hlead).1 he
  obtain ⟨houter, hinner, hdirectory⟩ := hwf.two_below hnode
  obtain ⟨_, hcheck, hshort⟩ := h.below _ _ hnode
  exact ⟨houter, hinner, hlistable, hcheck, hshort, Files.isDirectoryAt_iff.2 hdirectory⟩

/-- The recordings are the files that are listed. -/
theorem isRecording_iff (h : Taken root place fs) (hwf : fs.WellFormed)
    (hlead : fs.Leads root place) {path : Path} : IsRecording place fs path ↔
      (∃ e ∈ entriesBelow fs root place, path = place ++ [e.1, e.2]) ∧
        (fs.content? path).isSome := by
  constructor
  · rintro ⟨outer, stem, content, hstem, rfl, hfile⟩
    have hnode : fs.node? (place ++ [outer, stem ++ entryEnding]) ≠ none := by
      rw [hfile]
      simp
    refine ⟨⟨(outer, stem ++ entryEnding), ?_, rfl⟩, ?_⟩
    · exact (mem_entriesBelow hwf hlead).2
        ⟨(h.below _ _ hnode).1, isEntryName_iff.2 ⟨stem, hstem, rfl⟩, hnode⟩
    · rw [Files.content?_eq_some.2 hfile]
      rfl
  · rintro ⟨⟨⟨outer, inner⟩, he, rfl⟩, hsome⟩
    obtain ⟨content, hcontent⟩ := Option.isSome_iff_exists.1 hsome
    obtain ⟨stem, hstem, rfl⟩ := isEntryName_iff.1 ((mem_entriesBelow hwf hlead).1 he).2.1
    exact ⟨outer, stem, content, hstem, rfl, Files.content?_eq_some.1 hcontent⟩

/-- **All that a flush does.** -/
theorem flushed_flush (hwf : fs.WellFormed) (hlead : fs.Leads r.root place)
    (htaken : Taken r.root place fs) :
    (r.flush fs).WellFormed ∧ fs.KeepsDirectories (r.flush fs) ∧
      Flushed place fs (r.flush fs) := by
  have hflush : r.flush fs =
      ((entriesBelow fs r.root place).map fun e => (r.root.child e.1).child e.2).foldl discard
        fs := by
    unfold Replay.flush
    rw [entryFiles_eq hwf hlead, htaken.listed]
    rfl
  obtain ⟨hwf', hkeeps, hnode⟩ := foldl_discard_spec hwf hlead fun e he =>
    htaken.removable hwf hlead he
  rw [hflush]
  refine ⟨hwf', hkeeps, hkeeps.current, fun path hpath => ?_, fun path hpath => ?_⟩
  · exact (hnode path).trans (if_pos ((isRecording_iff htaken hwf hlead).1 hpath))
  · exact (hnode path).trans (if_neg fun hlisted =>
      hpath ((isRecording_iff htaken hwf hlead).2 hlisted))

/-! ### Without recordings -/

/-- No recording is left after a flush. -/
theorem Flushed.no_recording (h : Flushed place fs fs') (path : Path) :
    ¬ IsRecording place fs' path := by
  rintro ⟨outer, stem, content, hstem, hpath, hfile⟩
  by_cases hold : IsRecording place fs path
  · rw [h.removed path hold] at hfile
    cases hfile
  · rw [h.kept path hold] at hfile
    exact hold ⟨outer, stem, content, hstem, hpath, hfile⟩

/-- A flush puts nothing that the system could not take. -/
theorem Taken.flushed (h : Taken root place fs) (hflushed : Flushed place fs fs') :
    Taken root place fs' := by
  refine ⟨h.listed, fun outer inner hnode => h.below outer inner fun hnone => hnode ?_⟩
  by_cases hold : IsRecording place fs (place ++ [outer, inner])
  · exact hflushed.removed _ hold
  · rw [hflushed.kept _ hold, hnone]

/-- Nothing that is counted is a file where there is no recording. -/
theorem entryFiles_of_unrecorded (hwf : fs.WellFormed) (hlead : fs.Leads r.root place)
    (htaken : Taken r.root place fs) (hnone : ∀ path, ¬ IsRecording place fs path) :
    ∃ paths, entryFiles fs r.root = .ok paths ∧ r.recorded fs = .ok paths.length ∧
      ∀ path ∈ paths, fs.isDirectory path = true := by
  have hlisted : entryFiles fs r.root = .ok ((entriesBelow fs r.root place).map fun e =>
      (r.root.child e.1).child e.2) := by
    rw [entryFiles_eq hwf hlead, htaken.listed]
    rfl
  refine ⟨_, hlisted, ?_, fun path hpath => ?_⟩
  · unfold Replay.recorded
    rw [hlisted]
  · obtain ⟨e, he, rfl⟩ := List.mem_map.1 hpath
    have hremovable := htaken.removable hwf hlead he
    have hlead' := hlead.child hremovable.outer hremovable.listable.2 hremovable.directory
    refine (hlead'.isDirectory_child hremovable.inner).2
      ⟨hremovable.check, hremovable.short, ?_⟩
    -- what is listed is there, and it is no file
    obtain ⟨_, _, hnode⟩ := (mem_entriesBelow hwf hlead).1 he
    rw [List.append_assoc]
    show fs.isDirectoryAt (place ++ [e.1, e.2]) = true
    cases hfound : fs.node? (place ++ [e.1, e.2]) with
    | none => exact absurd hfound hnode
    | some node =>
      cases node with
      | directory => exact Files.isDirectoryAt_iff.2 hfound
      | file content =>
        refine absurd ((isRecording_iff htaken hwf hlead).2 ⟨⟨e, he, rfl⟩, ?_⟩) (hnone _)
        rw [Files.content?_eq_some.2 hfound]
        rfl

/-- What keeps a store from saying that there is no recording: a path that the system does not take,
a file where the directory would be, or a directory where the recording would be. -/
def obstacle? (fs : Files) (root : WrittenPath) (place : Path) (partition : String)
    (key : EntryKey) : Option FileError :=
  if Files.longestPath < (entryPath root partition key).size ∨
      Files.longestName < Utf8.size (partitionDirectory partition).toList then
    some .nameTooLong
  else
    match fs.node? (directoryPlace place partition), fs.node? (entryPlace place partition key) with
    | some (.file _), _ => some .notDirectory
    | _, some .directory => some .isDirectory
    | _, _ => none

/-- The system takes the path of a recording unless it is long. -/
theorem check_entryPath (hcheck : Files.check root = .ok ()) (partition : String)
    (key : EntryKey) : Files.check (entryPath root partition key) =
      if Files.longestPath < (entryPath root partition key).size then .error .nameTooLong
      else .ok () := by
  have hfile : Char.ofNat 0 ∉ (entryName key ++ entryEnding).toList := by
    rw [String.toList_append, List.mem_append, not_or]
    exact ⟨(plainName_entry key).without_null, by decide⟩
  refine Files.check_of_withoutNull ?_ ?_
  · exact ((Files.withoutNull_of_check hcheck).child
      (plainName_directory partition).without_null).child hfile
  · exact WrittenPath.isEmpty_child _ (Digest.sha256.proper_entry key).ne_empty

/-- Reading a recording that is not there yields nothing, or what is in the way. -/
theorem readEntry_of_unrecorded (hwf : fs.WellFormed) (hlead : fs.Leads root place)
    (hcheck : Files.check root = .ok ()) (hnone : ∀ path, ¬ IsRecording place fs path)
    (partition : String) (key : EntryKey) : readEntry fs root partition key =
      match obstacle? fs root place partition key with
      | some e => .error e
      | none => .ok none := by
  have hread : fs.read (entryPath root partition key) =
      (Files.check (entryPath root partition key)).bind fun _ =>
        Files.readBelow (partitionDirectory partition) (entryName key ++ entryEnding)
          (fs.node? (directoryPlace place partition)) (fs.node? (entryPlace place partition key)) :=
    Files.read_below hlead (Digest.sha256.proper_directory partition)
      (Digest.sha256.proper_entry key)
  have hshort : ¬ Files.longestName < Utf8.size (entryName key ++ entryEnding).toList :=
    Digest.sha256.entry_not_long key
  have hfile : ∀ content, fs.node? (entryPlace place partition key) ≠ some (.file content) :=
    fun content hfile =>
      hnone _ ⟨_, entryName key, content, (plainName_entry key).ne_empty, rfl, hfile⟩
  unfold readEntry obstacle?
  rw [hread, check_entryPath hcheck]
  -- the cases are those in which an obstacle is found, in the order in which the path is followed
  by_cases hlong : Files.longestPath < (entryPath root partition key).size
  · simp [hlong, Except.bind]
  by_cases hname : Files.longestName < Utf8.size (partitionDirectory partition).toList
  · simp [hlong, hname, Except.bind, Files.readBelow]
  simp only [hlong, hname, hshort, or_self, if_false, Except.bind, Files.readBelow]
  cases houter : fs.node? (directoryPlace place partition) with
  | none =>
    have hinner : fs.node? (entryPlace place partition key) = none :=
      hwf.two_below_eq_none houter _
    rw [hinner]
  | some node =>
    cases node with
    | file content => rfl
    | directory =>
      cases hinner : fs.node? (entryPlace place partition key) with
      | none => rfl
      | some node =>
        cases node with
        | directory => rfl
        | file content => exact absurd hinner (hfile content)

/-- A look-up whose recording is not there finds nothing, or what is in its way. -/
theorem get_of_unrecorded (hwf : fs.WellFormed) (hlead : fs.Leads r.root place)
    (hcheck : Files.check r.root = .ok ()) (hnone : ∀ path, ¬ IsRecording place fs path)
    {id : SessionId} {partition : String} (hpartition : r.registry.partitionOf id = .ok partition)
    (url : Url) {request : Bytes} (hrequest : request ≠ []) :
    r.get fs id url request =
      match obstacle? fs r.root place partition (.of url request) with
      | some e => .error (.storage e)
      | none => .ok none := by
  unfold Replay.get
  rw [if_neg hrequest, hpartition]
  simp only [readEntry_of_unrecorded hwf hlead hcheck hnone]
  cases obstacle? fs r.root place partition (.of url request) with
  | none => rfl
  | some e => rfl

/-! ### One store -/

/-- A look-up in recordings leaves all stores and the machine as they are. -/
theorem Vault.get_of_replay {v : Vault} {number : Nat} (h : v.store? number = some (.replay r))
    (id : SessionId) (url : Url) (request : Bytes) : (v.get number id url request).2 = v := by
  obtain ⟨hnumber, hstore⟩ := List.getElem?_eq_some_iff.1 h
  have hsame : v.stores.set number (.replay r) = v.stores := by
    rw [← hstore, List.set_getElem_self]
  unfold Vault.get
  rw [h]
  show { v with stores := v.stores.set number (.replay r) } = v
  rw [hsame]

/-- **Recordings stay below the root.** In a tree of directories and regular files, the file of a
request is two plain names below the root. A put changes nothing but that file and its directory, and
a look-up nothing at all. A flush removes the files two names below the root that have the ending,
and nothing else. After it no file is counted, and a look-up finds nothing or reports what is in its
way. -/
theorem recordings_confined (hwf : fs.WellFormed) (hlead : fs.Leads r.root place)
    (htaken : Taken r.root place fs) :
    (∀ id partition, r.registry.partitionOf id = .ok partition → ∀ url request,
      ∃ outer stem, PlainName outer ∧ PlainName stem ∧
        r.entryFile? id url request = some ((r.root.child outer).child (stem ++ ".xmla")) ∧
        fs.placeOf ((r.root.child outer).child (stem ++ ".xmla")) =
          place ++ [outer, stem ++ ".xmla"] ∧
        entryPlace place partition (.of url request) = place ++ [outer, stem ++ ".xmla"]) ∧
    (∀ nonce id url request response,
      (∃ e, r.put fs nonce id url request response = (.error e, fs)) ∨
      ∃ partition, r.registry.partitionOf id = .ok partition ∧
        Records place partition (.of url request) nonce response fs
          (r.put fs nonce id url request response).2
          (r.put fs nonce id url request response).1) ∧
    (∀ (v : Vault) number, v.store? number = some (.replay r) → ∀ id url request,
      (v.get number id url request).2 = v) ∧
    Flushed place fs (r.flush fs) ∧
    (∃ paths, entryFiles (r.flush fs) r.root = .ok paths ∧
      r.recorded (r.flush fs) = .ok paths.length ∧
      ∀ path ∈ paths, (r.flush fs).isDirectory path = true) ∧
    ∀ id partition, r.registry.partitionOf id = .ok partition → ∀ url request, request ≠ [] →
      r.get (r.flush fs) id url request =
        match obstacle? (r.flush fs) r.root place partition (.of url request) with
        | some e => .error (.storage e)
        | none => .ok none := by
  obtain ⟨hwf', hkeeps, hflushed⟩ := flushed_flush hwf hlead htaken
  have hlead' := hlead.keeps hkeeps
  have hnone := hflushed.no_recording
  refine ⟨fun id partition hpartition url request => ?_,
    put_records hwf hlead, fun v number hstore => Vault.get_of_replay hstore, hflushed,
    entryFiles_of_unrecorded hwf' hlead' (htaken.flushed hflushed) hnone,
    fun id partition hpartition url request hrequest =>
      get_of_unrecorded hwf' hlead' htaken.listed hnone hpartition url hrequest⟩
  refine ⟨partitionDirectory partition, entryName (.of url request), plainName_directory partition,
    plainName_entry _, ?_, ?_, rfl⟩
  · unfold Replay.entryFile?
    rw [hpartition]
    rfl
  · exact hlead.placeOf_child_child (Digest.sha256.proper_directory partition)
      (Digest.sha256.proper_entry (.of url request))

/-- Of a recording and another file in a directory, the first is removed and the second stays, and a
look-up finds nothing. -/
theorem recordings_confined_two :
    let r := (Replay.configure ⟨.ofString "/", .empty Replay.sharing⟩ "a" ∅ ∅).2
    let fs := ((Files.empty.place ["d"] .directory).place ["d", "a.xmla"] (.file [1])).place
      ["d", "b.txt"] (.file [2])
    let url : Url := ⟨"http", none, .segments [[]], none, none⟩
    (r.flush fs).node? ["d", "a.xmla"] = none ∧
      (r.flush fs).node? ["d", "b.txt"] = some (.file [2]) ∧
      r.get (r.flush fs) ⟨"s1-a"⟩ url [1] = .ok none := by
  intro r fs url
  have hwf : fs.WellFormed := by
    have hempty := Files.wellFormed_empty
    have houter : (Files.empty.place ([] ++ ["d"]) .directory).WellFormed :=
      hempty.place ⟨by decide, by decide, by decide⟩ (Files.isDirectoryAt_nil _) rfl _
    have hfirst : ((Files.empty.place ["d"] .directory).place (["d"] ++ ["a.xmla"])
        (.file [1])).WellFormed :=
      houter.place ⟨by decide, by decide, by decide⟩ (by decide +kernel) (by decide +kernel) _
    exact hfirst.place (show ProperName "b.txt" from ⟨by decide, by decide, by decide⟩)
      (show Files.isDirectoryAt _ ["d"] = true by decide +kernel) (by decide +kernel) _
  have hlead : fs.Leads r.root [] := ⟨by decide +kernel, rfl⟩
  have htaken : Taken r.root [] fs := by
    refine ⟨by decide +kernel, fun outer inner hnode => ?_⟩
    have hplaces : outer = "d" ∧ (inner = "a.xmla" ∨ inner = "b.txt") := by
      simp only [fs, List.nil_append, Files.node?_place, Files.node?_empty, List.cons.injEq] at hnode
      grind
    obtain ⟨rfl, rfl | rfl⟩ := hplaces
    · exact ⟨⟨by decide +kernel, by decide⟩, by decide +kernel, by decide⟩
    · exact ⟨⟨by decide +kernel, by decide⟩, by decide +kernel, by decide⟩
  obtain ⟨-, -, -, hflushed, -, hget⟩ := recordings_confined hwf hlead htaken
  have hother : ¬ IsRecording [] fs ["d", "b.txt"] := by
    rintro ⟨outer, stem, content, hstem, hpath, -⟩
    have hentry := isEntryName_iff.2 ⟨stem, hstem, rfl⟩
    rw [← (List.cons.inj (List.cons.inj hpath).2).1] at hentry
    exact absurd hentry (by decide)
  refine ⟨?_, ?_, ?_⟩
  · exact hflushed.removed _ ⟨"d", "a", [1], by decide, by decide, by decide +kernel⟩
  · rw [hflushed.kept _ hother]
    decide +kernel
  · rw [hget ⟨"s1-a"⟩ "shared:default" (by decide +kernel) url [1] (by decide)]
    decide +kernel

/-- A file where the directory of a partition would be is in the way of its look-ups. A flush leaves
it there. -/
theorem flush_leaves_file_in_the_way :
    let r := (Replay.configure ⟨.ofString "/", .empty Replay.sharing⟩ "a" ∅ ∅).2
    let fs := Files.empty.place [partitionDirectory "shared:default"] (.file [120])
    let url : Url := ⟨"http", none, .segments [[]], none, none⟩
    fs.WellFormed ∧ fs.Leads r.root [] ∧ Taken r.root [] fs ∧
      (r.flush fs).node? (entryPlace [] "shared:default" (.of url [1])) = none ∧
      r.get (r.flush fs) ⟨"s1-a"⟩ url [1] = .error (.storage .notDirectory) := by
  intro r fs url
  have hwf : fs.WellFormed := by
    have hname := Digest.sha256.proper_directory "shared:default"
    exact Files.wellFormed_empty.place hname (Files.isDirectoryAt_nil _) (by decide +kernel) _
  refine ⟨hwf, ⟨by decide +kernel, rfl⟩, ⟨by decide +kernel, fun outer inner hnode => ?_⟩, ?_, ?_⟩
  · simp [fs, Files.node?_place, Files.node?_empty] at hnode
  · decide +kernel
  · decide +kernel

end OlapClient.Cache
