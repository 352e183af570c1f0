import Mathlib.Data.List.Nodup
import OlapClient.Proofs.Cache.Digest
import OlapClient.Proofs.Files.Frame

namespace OlapClient.Cache

/-!
# Recordings below a root

What the operations of a store do to the files of recordings, for a root that leads to some place:
these files are two names below that place.

* `entriesBelow`, `entryFiles_eq` — the recordings that are listed, by their two names.
* `mem_entriesBelow` — they are what stands there under the name of a recording.
* `recorded_congr` — trees with the same recordings have the same number of them.
* `writeAt_cases` — the ways in which making a recording goes.
* `writeAt_spec` — a recording is made wholly, or no recording changes.
* `Flushes`, `flush_spec` — a flush whose operations succeed leaves no recording.
-/

variable {r : Replay} {fs fs' : Files} {root : WrittenPath} {place : Path}

/-! ### What is listed -/

/-- The recordings below a root: their directories, and their names there. -/
def entriesBelow (fs : Files) (root : WrittenPath) (place : Path) : List (String × String) :=
  ((fs.names place).filter fun name => fs.isDirectory (root.child name)).flatMap fun name =>
    ((fs.names (place ++ [name])).filter isEntryName).map (name, ·)

theorem proper_of_mem_names (hwf : fs.WellFormed) {path : Path} {name : String}
    (h : name ∈ fs.names path) : ProperName name :=
  (hwf.above path name (Files.mem_names.1 h)).1

theorem entryFiles_eq (hwf : fs.WellFormed) (hlead : fs.Leads root place) :
    entryFiles fs root = (Files.check root).map fun _ =>
      (entriesBelow fs root place).map fun e => (root.child e.1).child e.2 := by
  unfold entryFiles entriesBelow
  rw [hlead.list_eq]
  cases Files.check root with
  | error e => rfl
  | ok _ =>
    simp only [Except.map]
    rw [List.filter_map, List.flatMap_map, List.map_flatMap]
    -- what is listed in each directory is what the names in it say
    refine congrArg Except.ok (List.flatMap_congr fun name hname => ?_)
    obtain ⟨hmem, hdirectory⟩ := List.mem_filter.1 hname
    have hproper := proper_of_mem_names hwf hmem
    obtain ⟨hcheck, hshort, hnode⟩ := (hlead.isDirectory_child hproper).1 hdirectory
    rw [(hlead.child hproper hshort hnode).list_eq, hcheck, List.map_map]
    rfl

/-- Whether the system takes the path of a directory below a root. -/
def Listable (root : WrittenPath) (name : String) : Prop :=
  Files.check (root.child name) = .ok () ∧ ¬ Files.longestName < Utf8.size name.toList

/-- What is listed is what stands two names below the place under the name of a recording. -/
theorem mem_entriesBelow (hwf : fs.WellFormed) (hlead : fs.Leads root place)
    {outer inner : String} : (outer, inner) ∈ entriesBelow fs root place ↔
      Listable root outer ∧ isEntryName inner = true ∧
        fs.node? (place ++ [outer, inner]) ≠ none := by
  rw [entriesBelow, List.mem_flatMap]
  constructor
  · rintro ⟨name, hname, hentry⟩
    obtain ⟨hmem, hdirectory⟩ := List.mem_filter.1 hname
    obtain ⟨found, hfound, heq⟩ := List.mem_map.1 hentry
    cases heq
    obtain ⟨hcheck, hshort, _⟩ :=
      (hlead.isDirectory_child (proper_of_mem_names hwf hmem)).1 hdirectory
    obtain ⟨hinner, hisEntry⟩ := List.mem_filter.1 hfound
    have hnode := Files.mem_names.1 hinner
    rw [List.append_assoc] at hnode
    exact ⟨⟨hcheck, hshort⟩, hisEntry, hnode⟩
  · rintro ⟨⟨hcheck, hshort⟩, hisEntry, hnode⟩
    obtain ⟨hproper, _, houter⟩ := hwf.two_below hnode
    have hdirectory := (hlead.isDirectory_child hproper).2
      ⟨hcheck, hshort, Files.isDirectoryAt_iff.2 houter⟩
    have hmem : outer ∈ fs.names place := Files.mem_names.2 (by rw [houter]; simp)
    have hinner : inner ∈ fs.names (place ++ [outer]) :=
      Files.mem_names.2 (by rw [List.append_assoc]; exact hnode)
    exact ⟨outer, List.mem_filter.2 ⟨hmem, hdirectory⟩,
      List.mem_map.2 ⟨inner, List.mem_filter.2 ⟨hinner, hisEntry⟩, rfl⟩⟩

/-- Every recording is listed once. -/
theorem nodup_entriesBelow (fs : Files) (root : WrittenPath) (place : Path) :
    (entriesBelow fs root place).Nodup := by
  unfold entriesBelow
  rw [List.nodup_flatMap]
  constructor
  · intro name _
    refine List.Nodup.map (fun a b h => (Prod.mk.inj h).2) ?_
    exact (fs.nodup_names _).filter _
  · refine ((fs.nodup_names place).filter _).imp ?_
    intro a b hab x hx hx'
    obtain ⟨_, _, rfl⟩ := List.mem_map.1 hx
    obtain ⟨_, _, heq⟩ := List.mem_map.1 hx'
    exact hab (Prod.mk.inj heq).1.symm

/-! ### What stays the same -/

/-- The recordings below a place, and what else has the name of one, are those of another tree. -/
def KeepsEntries (place : Path) (fs fs' : Files) : Prop :=
  ∀ outer inner, isEntryName inner = true →
    fs'.node? (place ++ [outer, inner]) = fs.node? (place ++ [outer, inner])

theorem KeepsEntries.refl (place : Path) (fs : Files) : KeepsEntries place fs fs :=
  fun _ _ _ => rfl

theorem KeepsEntries.trans {fs'' : Files} (h : KeepsEntries place fs fs')
    (h' : KeepsEntries place fs' fs'') : KeepsEntries place fs fs'' :=
  fun outer inner hinner => (h' outer inner hinner).trans (h outer inner hinner)

theorem ne_of_ne_inner {outer inner name below : String} (h : below ≠ inner) :
    place ++ [name, below] ≠ place ++ [outer, inner] := by
  simp [h]

/-- A file that has not the name of a recording may be put or taken away. -/
theorem keepsEntries_place {name below : String} (h : isEntryName below = false)
    (node : FileNode) : KeepsEntries place fs (fs.place (place ++ [name, below]) node) := by
  intro outer inner hinner
  have hne : below ≠ inner := fun heq => by
    rw [heq, hinner] at h
    cases h
  rw [Files.node?_place, if_neg (by simp), if_neg (ne_of_ne_inner hne)]

theorem keepsEntries_erase {name below : String} (h : isEntryName below = false) :
    KeepsEntries place fs (fs.erase (place ++ [name, below])) := by
  intro outer inner hinner
  have hne : below ≠ inner := fun heq => by
    rw [heq, hinner] at h
    cases h
  rw [Files.node?_erase, if_neg (by simp), if_neg (ne_of_ne_inner hne)]

/-- So may a directory that is not as far below. -/
theorem keepsEntries_directory (name : String) (node : FileNode) :
    KeepsEntries place fs (fs.place (place ++ [name]) node) := by
  intro outer inner _
  rw [Files.node?_place, if_neg (by simp), if_neg (by simp)]

/-- Trees with the same recordings have the same number of them. -/
theorem recorded_congr (hwf : fs.WellFormed) (hwf' : fs'.WellFormed)
    (hlead : fs.Leads r.root place) (hlead' : fs'.Leads r.root place)
    (h : KeepsEntries place fs fs') : r.recorded fs' = r.recorded fs := by
  have hperm : (entriesBelow fs' r.root place).Perm (entriesBelow fs r.root place) := by
    refine (List.perm_ext_iff_of_nodup (nodup_entriesBelow _ _ _) (nodup_entriesBelow _ _ _)).2 ?_
    rintro ⟨outer, inner⟩
    rw [mem_entriesBelow hwf hlead, mem_entriesBelow hwf' hlead']
    constructor
    · rintro ⟨hreach, hentry, hnode⟩
      exact ⟨hreach, hentry, h outer inner hentry ▸ hnode⟩
    · rintro ⟨hreach, hentry, hnode⟩
      exact ⟨hreach, hentry, (h outer inner hentry).symm ▸ hnode⟩
  unfold Replay.recorded
  rw [entryFiles_eq hwf hlead, entryFiles_eq hwf' hlead']
  cases Files.check r.root with
  | error e => rfl
  | ok _ =>
    simp only [Except.map, List.length_map]
    rw [hperm.length_eq]

/-! ### Making a recording -/

section
variable {name draft target : String}

/-- A directory that is created, or fails to be, is not where recordings are. -/
theorem makeDirectories_keepsEntries (hlead : fs.Leads root place) (hname : ProperName name) :
    KeepsEntries place fs (fs.makeDirectories (root.child name)).2 := by
  obtain ⟨e, h⟩ | ⟨_, h⟩ | ⟨_, h⟩ := Files.makeDirectories_child hlead hname
  · rw [h]
    exact .refl place fs
  · rw [h]
    exact .refl place fs
  · rw [h]
    exact keepsEntries_directory name _

/-- A draft that is moved is gone, and its content is in the place it was moved to. -/
theorem node?_moved (hdraft : isEntryName draft = false) {outer inner : String}
    (hinner : isEntryName inner = true) :
    ((fs.place (place ++ [name, target]) (.file content)).erase (place ++ [name, draft])).node?
        (place ++ [outer, inner]) =
      if name = outer ∧ target = inner then some (.file content)
      else fs.node? (place ++ [outer, inner]) := by
  rw [keepsEntries_erase hdraft outer inner hinner, Files.node?_place, if_neg (by simp)]
  simp

/-- Making a recording fails before there is a draft, or moves the draft to its place, or else removes
it. -/
theorem writeAt_cases (fs : Files) (directory draft target : WrittenPath) (content : Bytes) :
    (∃ e, writeAt fs directory draft target content =
      (.error e, (fs.makeDirectories directory).2)) ∨
    ∃ written, (fs.makeDirectories directory).2.write draft content = .ok written ∧
      ((∃ moved, written.rename draft target = .ok moved ∧
        writeAt fs directory draft target content = (.ok (), moved)) ∨
      ∃ e removed, written.remove draft = .ok removed ∧
        writeAt fs directory draft target content = (.error e, removed)) := by
  unfold writeAt
  -- the cases are the steps that may fail, each after those that have succeeded
  cases fs.makeDirectories directory with
  | mk result made =>
    cases result with
    | error e => exact .inl ⟨e, rfl⟩
    | ok _ =>
      dsimp only
      cases hwrite : made.write draft content with
      | error e => exact .inl ⟨e, rfl⟩
      | ok written =>
        refine .inr ⟨written, rfl, ?_⟩
        dsimp only
        cases hmove : written.rename draft target with
        | ok moved => exact .inl ⟨moved, rfl, rfl⟩
        | error e =>
          obtain ⟨removed, hremove⟩ := Files.exists_remove_of_write hwrite
          exact .inr ⟨e, removed, hremove, by rw [hremove]⟩

/-- A recording is made wholly, or no recording changes. -/
theorem writeAt_spec (content : Bytes) (hwf : fs.WellFormed) (hlead : fs.Leads root place)
    (hname : ProperName name) (hdraft : ProperName draft) (htarget : ProperName target)
    (hother : isEntryName draft = false) :
    let written := writeAt fs (root.child name) ((root.child name).child draft)
      ((root.child name).child target) content
    written.2.WellFormed ∧ fs.KeepsDirectories written.2 ∧
      ((∃ e, written.1 = .error e ∧ KeepsEntries place fs written.2) ∨
        (written.1 = .ok () ∧ ∀ outer inner, isEntryName inner = true →
          written.2.node? (place ++ [outer, inner]) =
            if name = outer ∧ target = inner then some (.file content)
            else fs.node? (place ++ [outer, inner]))) := by
  obtain ⟨hwf₁, hadds⟩ := Files.makeDirectories_spec hwf (root.child name)
  have hentries₁ := makeDirectories_keepsEntries hlead hname
  have hlead₁ := hlead.keeps hadds.keeps
  obtain ⟨e, hfailed⟩ | ⟨written, hwrite, hlater⟩ := writeAt_cases fs (root.child name)
    ((root.child name).child draft) ((root.child name).child target) content
  · rw [hfailed]
    exact ⟨hwf₁, hadds.keeps, .inl ⟨e, rfl, hentries₁⟩⟩
  · obtain ⟨hwf₂, hkeeps₂⟩ := Files.write_wellFormed hwf₁ hwrite
    have hlead₂ := hlead₁.keeps hkeeps₂
    have hkeeps := hadds.keeps.trans hkeeps₂
    have hplaced := Files.write_below hlead₁ hname hdraft hwrite
    have hentries₂ : KeepsEntries place fs written := by
      rw [hplaced]
      exact hentries₁.trans (keepsEntries_place hother _)
    obtain ⟨moved, hmove, hdone⟩ | ⟨e, removed, hremove, hdone⟩ := hlater
    · obtain ⟨hwf₃, hkeeps₃⟩ := Files.rename_wellFormed hwf₂ hmove
      rw [hdone]
      refine ⟨hwf₃, hkeeps.trans hkeeps₃, .inr ⟨rfl, fun outer inner hinner => ?_⟩⟩
      obtain ⟨found, hfound, hmoved⟩ := Files.rename_below hlead₂ hname hdraft htarget hmove
      -- what is moved is the content that was just written
      have hcontent : found = content := by
        rw [hplaced, Files.node?_place, if_neg (by simp), if_pos rfl] at hfound
        cases hfound
        rfl
      rw [hmoved, hcontent, node?_moved hother hinner, hentries₂ outer inner hinner]
    · obtain ⟨hwf₃, hkeeps₃⟩ := Files.remove_wellFormed hwf₂ hremove
      rw [hdone]
      refine ⟨hwf₃, hkeeps.trans hkeeps₃, .inl ⟨e, rfl, ?_⟩⟩
      rw [Files.remove_below hlead₂ hname hdraft hremove]
      exact hentries₂.trans (keepsEntries_erase hother)

end

/-! ### Removing recordings -/

/-- Every operation on files that a flush asks for succeeds: its root is listed, what is in it can
be looked at, and each recording is removed. -/
structure Flushes (r : Replay) (fs : Files) : Prop where
  found : ∃ names, fs.list r.root = .ok names ∧
    ∀ name ∈ names, ∃ node, fs.find (r.root.child name) = .ok node
  removed : ∃ paths fs', entryFiles fs r.root = .ok paths ∧
    paths.foldlM Files.remove fs = .ok fs'

theorem foldl_discard {paths : List WrittenPath} (h : paths.foldlM Files.remove fs = .ok fs') :
    paths.foldl discard fs = fs' := by
  induction paths generalizing fs with
  | nil =>
    cases h
    rfl
  | cons path paths ih =>
    rw [List.foldlM_cons] at h
    cases hremove : fs.remove path with
    | error e =>
      rw [hremove] at h
      cases h
    | ok removed =>
      rw [hremove] at h
      have hdiscard : discard fs path = removed := by
        unfold discard
        rw [hremove]
      rw [List.foldl_cons, hdiscard]
      exact ih h

/-- Files that are removed are gone, and no other comes. -/
theorem foldlM_remove_spec {paths : List WrittenPath} (hwf : fs.WellFormed)
    (h : paths.foldlM Files.remove fs = .ok fs') :
    fs'.WellFormed ∧ fs.KeepsDirectories fs' ∧
      (∀ path content, fs'.content? path = some content → fs.content? path = some content) ∧
      ∀ path ∈ paths, fs'.content? (fs.placeOf path) = none := by
  induction paths generalizing fs with
  | nil =>
    cases h
    exact ⟨hwf, .refl _, fun _ _ hc => hc, fun _ hpath => absurd hpath List.not_mem_nil⟩
  | cons path paths ih =>
    rw [List.foldlM_cons] at h
    cases hremove : fs.remove path with
    | error e =>
      rw [hremove] at h
      cases h
    | ok removed =>
      rw [hremove] at h
      obtain ⟨hwf₁, hkeeps₁⟩ := Files.remove_wellFormed hwf hremove
      obtain ⟨hwf₂, hkeeps₂, hold, hgone⟩ := ih hwf₁ h
      have herased := Files.remove_eq_ok hremove
      have hnode : ∀ q content, removed.content? q = some content →
          fs.placeOf path ≠ q ∧ fs.content? q = some content := by
        intro q content hc
        rw [Files.content?_eq_some, herased, Files.node?_erase] at hc
        split at hc
        · cases hc
        · split at hc
          · cases hc
          · rename_i hne
            exact ⟨hne, Files.content?_eq_some.2 hc⟩
      refine ⟨hwf₂, hkeeps₁.trans hkeeps₂, ?_, ?_⟩
      · intro q content hc
        exact (hnode q content (hold q content hc)).2
      · intro q hq
        rcases List.mem_cons.1 hq with rfl | hlater
        · rw [Option.eq_none_iff_forall_ne_some]
          intro content hc
          exact (hnode _ content (hold _ content hc)).1 rfl
        · rw [← hkeeps₁.placeOf]
          exact hgone q hlater

/-- A flush whose operations succeed leaves no recording. -/
theorem flush_spec (hwf : fs.WellFormed) (hlead : fs.Leads r.root place) (h : Flushes r fs) :
    (r.flush fs).WellFormed ∧ fs.KeepsDirectories (r.flush fs) ∧
      ∀ outer inner, isEntryName inner = true →
        (r.flush fs).content? (place ++ [outer, inner]) = none := by
  obtain ⟨⟨names, hlist, hfound⟩, paths, fs', hpaths, hremoved⟩ := h
  have hflush : r.flush fs = fs' := by
    unfold Replay.flush
    rw [hpaths]
    exact foldl_discard hremoved
  obtain ⟨hwf', hkeeps, hold, hgone⟩ := foldlM_remove_spec hwf hremoved
  rw [hflush]
  refine ⟨hwf', hkeeps, fun outer inner hinner => ?_⟩
  rw [Option.eq_none_iff_forall_ne_some]
  intro content hcontent
  -- a recording that is left was there before, so it was listed and removed
  have hnode : fs.node? (place ++ [outer, inner]) ≠ none := by
    rw [Files.content?_eq_some.1 (hold _ content hcontent)]
    simp
  obtain ⟨hproper', hproper, houter⟩ := hwf.two_below hnode
  have hreach : Listable r.root outer := by
    have hnames : names = fs.names place := by
      rw [hlead.list_eq] at hlist
      obtain ⟨_, _, hnames⟩ := Except.map_eq_ok hlist
      exact hnames.symm
    obtain ⟨node, hfind⟩ := hfound outer (hnames ▸ Files.mem_names.2 (by rw [houter]; simp))
    unfold Files.find at hfind
    rw [hlead.locate_child hproper'.ne_empty, Files.enter_proper fs place hproper'] at hfind
    cases hcheck : Files.check (r.root.child outer) with
    | error e =>
      rw [hcheck] at hfind
      cases hfind
    | ok _ =>
      refine ⟨hcheck, fun hlong => ?_⟩
      rw [hcheck, if_pos hlong] at hfind
      cases hfind
  have hlisted := (mem_entriesBelow hwf hlead).2 ⟨hreach, hinner, hnode⟩
  rw [entryFiles_eq hwf hlead] at hpaths
  obtain ⟨_, _, rfl⟩ := Except.map_eq_ok hpaths
  have hnone := hgone _ (List.mem_map_of_mem hlisted)
  rw [hlead.placeOf_child_child hproper' hproper, hcontent] at hnone
  cases hnone

end OlapClient.Cache
