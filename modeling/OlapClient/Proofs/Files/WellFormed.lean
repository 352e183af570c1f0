import OlapClient.Proofs.Files.Place

namespace OlapClient

/-!
# Trees as file systems have them

In a tree of files everything has a name and stands in a directory. Every operation keeps this, and
none of them takes a directory away.

* `ProperName` — a name that leads from a directory to something in it.
* `Files.WellFormed` — everything has a proper name and stands in a directory.
* `Files.KeepsDirectories` — the directories of one tree are directories of another.
* `Files.AddsDirectories` — a tree with the nodes of another, and more directories.
* `Files.target_eq_ok_spec` — where a file can be written.
* `Files.write_wellFormed`, `Files.rename_wellFormed`, … — what each operation keeps.
-/

/-- A name that leads from a directory to something in it. -/
structure ProperName (name : String) : Prop where
  ne_empty : name ≠ ""
  ne_point : name ≠ "."
  ne_up : name ≠ ".."

namespace Files

/-- Whatever there is has a proper name and stands in a directory, and the directory that relative
paths start at is there. -/
structure WellFormed (fs : Files) : Prop where
  above : ∀ path name, fs.node? (path ++ [name]) ≠ none →
    ProperName name ∧ fs.isDirectoryAt path = true
  current : fs.isDirectoryAt fs.current = true

/-- The directories of the first tree are directories of the second, which is seen from the same
directory. -/
structure KeepsDirectories (fs fs' : Files) : Prop where
  current : fs'.current = fs.current
  directories : ∀ path, fs.isDirectoryAt path = true → fs'.isDirectoryAt path = true

/-- The second tree has the nodes of the first, and beyond them nothing but directories. -/
structure AddsDirectories (fs fs' : Files) : Prop where
  current : fs'.current = fs.current
  kept : ∀ path node, fs.node? path = some node → fs'.node? path = some node
  new : ∀ path, fs.node? path = none → fs'.node? path = none ∨ fs'.node? path = some .directory

variable {fs fs' fs'' : Files} {path : Path} {p : WrittenPath} {content : Bytes}

/-! ### Directories -/

theorem isDirectoryAt_iff : fs.isDirectoryAt path = true ↔ fs.node? path = some .directory := by
  unfold isDirectoryAt
  split
  · rename_i h
    simp [h]
  · rename_i h
    constructor
    · intro hfalse
      cases hfalse
    · intro hdirectory
      exact absurd hdirectory h

theorem isDirectoryAt_eq_false (h : fs.node? path ≠ some .directory) :
    fs.isDirectoryAt path = false :=
  Bool.eq_false_iff.2 fun htrue => h (isDirectoryAt_iff.1 htrue)

/-- The outermost directory always exists. -/
theorem isDirectoryAt_nil (fs : Files) : fs.isDirectoryAt [] = true := rfl

theorem KeepsDirectories.refl (fs : Files) : fs.KeepsDirectories fs :=
  ⟨rfl, fun _ h => h⟩

theorem KeepsDirectories.trans (h : fs.KeepsDirectories fs') (h' : fs'.KeepsDirectories fs'') :
    fs.KeepsDirectories fs'' :=
  ⟨h'.current.trans h.current, fun q hq => h'.directories q (h.directories q hq)⟩

theorem AddsDirectories.refl (fs : Files) : fs.AddsDirectories fs :=
  ⟨rfl, fun _ _ h => h, fun _ h => .inl h⟩

theorem AddsDirectories.trans (h : fs.AddsDirectories fs') (h' : fs'.AddsDirectories fs'') :
    fs.AddsDirectories fs'' where
  current := h'.current.trans h.current
  kept q node hq := h'.kept q node (h.kept q node hq)
  new q hq := by
    rcases h.new q hq with hnone | hdirectory
    · exact h'.new q hnone
    · exact .inr (h'.kept q _ hdirectory)

theorem AddsDirectories.keeps (h : fs.AddsDirectories fs') : fs.KeepsDirectories fs' :=
  ⟨h.current, fun q hq => isDirectoryAt_iff.2 (h.kept q _ (isDirectoryAt_iff.1 hq))⟩

/-- The files are the same. -/
theorem AddsDirectories.file_iff (h : fs.AddsDirectories fs') :
    fs'.node? path = some (.file content) ↔ fs.node? path = some (.file content) := by
  refine ⟨fun hfile => ?_, h.kept path _⟩
  cases hnode : fs.node? path with
  | none =>
    rcases h.new path hnode with hnone | hdirectory
    · rw [hnone] at hfile
      cases hfile
    · rw [hdirectory] at hfile
      cases hfile
  | some node =>
    rw [h.kept path node hnode] at hfile
    exact hfile

/-! ### Single changes -/

/-- The tree that holds nothing is well formed. -/
theorem wellFormed_empty : empty.WellFormed where
  above path name h := by
    rw [node?_empty, if_neg (by simp)] at h
    exact absurd rfl h
  current := rfl

/-- Nothing but a directory would be lost where a node is put. -/
theorem place_keeps (h : fs.isDirectoryAt path = false) (node : FileNode) :
    fs.KeepsDirectories (fs.place path node) := by
  refine ⟨rfl, fun q hq => ?_⟩
  rw [isDirectoryAt_iff] at hq ⊢
  rw [node?_place]
  split
  · rfl
  · rw [if_neg]
    · exact hq
    · intro heq
      rw [heq, isDirectoryAt_iff.2 hq] at h
      cases h

theorem erase_keeps (h : fs.isDirectoryAt path = false) : fs.KeepsDirectories (fs.erase path) := by
  refine ⟨rfl, fun q hq => ?_⟩
  rw [isDirectoryAt_iff] at hq ⊢
  rw [node?_erase]
  split
  · rfl
  · rw [if_neg]
    · exact hq
    · intro heq
      rw [heq, isDirectoryAt_iff.2 hq] at h
      cases h

/-- A directory is added where nothing is. -/
theorem place_adds (h : fs.node? path = none) : fs.AddsDirectories (fs.place path .directory) := by
  refine ⟨rfl, fun q node hq => ?_, fun q hq => ?_⟩
  · rw [node?_place]
    split
    · rename_i hroot
      subst hroot
      exact hq
    · rw [if_neg]
      · exact hq
      · intro heq
        rw [heq, hq] at h
        cases h
  · rw [node?_place]
    split
    · exact .inr rfl
    · split
      · exact .inr rfl
      · exact .inl hq

namespace WellFormed

/-- A node may be put into a directory, under a name that no directory has. -/
theorem place (h : fs.WellFormed) {above : Path} {name : String} (hname : ProperName name)
    (habove : fs.isDirectoryAt above = true) (hnew : fs.isDirectoryAt (above ++ [name]) = false)
    (node : FileNode) : (fs.place (above ++ [name]) node).WellFormed := by
  have hkeeps := place_keeps hnew node
  refine ⟨fun q x hx => ?_, hkeeps.directories _ h.current⟩
  by_cases heq : above ++ [name] = q ++ [x]
  · obtain ⟨rfl, hlast⟩ := List.append_inj' heq rfl
    cases hlast
    exact ⟨hname, hkeeps.directories _ habove⟩
  · rw [node?_place, if_neg (by simp), if_neg heq] at hx
    obtain ⟨hproper, hdirectory⟩ := h.above q x hx
    exact ⟨hproper, hkeeps.directories q hdirectory⟩

/-- Whatever is no directory may be taken away. -/
theorem erase (h : fs.WellFormed) (hpath : fs.isDirectoryAt path = false) :
    (fs.erase path).WellFormed := by
  have hkeeps := erase_keeps hpath
  refine ⟨fun q x hx => ?_, hkeeps.directories _ h.current⟩
  rw [node?_erase, if_neg (by simp)] at hx
  split at hx
  · exact absurd rfl hx
  · obtain ⟨hproper, hdirectory⟩ := h.above q x hx
    exact ⟨hproper, hkeeps.directories q hdirectory⟩

/-- What stands above a directory is a directory. -/
theorem dropLast (h : fs.WellFormed) (hpath : fs.isDirectoryAt path = true) :
    fs.isDirectoryAt path.dropLast = true := by
  rcases List.eq_nil_or_concat path with rfl | ⟨above, name, rfl⟩
  · exact hpath
  · rw [List.concat_eq_append] at hpath ⊢
    rw [List.dropLast_concat]
    refine (h.above above name ?_).2
    rw [isDirectoryAt_iff.1 hpath]
    exact Option.some_ne_none _

/-- What stands two names below has two proper names, and a directory between. -/
theorem two_below (h : fs.WellFormed) {name below : String}
    (hnode : fs.node? (path ++ [name, below]) ≠ none) :
    ProperName name ∧ ProperName below ∧ fs.node? (path ++ [name]) = some .directory := by
  rw [show path ++ [name, below] = path ++ [name] ++ [below] by simp] at hnode
  obtain ⟨hbelow, hdirectory⟩ := h.above (path ++ [name]) below hnode
  have houter := isDirectoryAt_iff.1 hdirectory
  exact ⟨(h.above path name (by rw [houter]; simp)).1, hbelow, houter⟩

/-- Nothing stands below what is not there. -/
theorem two_below_eq_none (h : fs.WellFormed) {name : String}
    (hnone : fs.node? (path ++ [name]) = none) (below : String) :
    fs.node? (path ++ [name, below]) = none := by
  refine Option.eq_none_iff_forall_ne_some.2 fun node hnode => ?_
  have houter := (h.two_below (by rw [hnode]; simp)).2.2
  rw [hnone] at houter
  cases houter

/-- Every path starts at a directory. -/
theorem start (h : fs.WellFormed) (p : WrittenPath) : fs.isDirectoryAt (fs.start p) = true := by
  unfold Files.start
  split
  · exact isDirectoryAt_nil fs
  · exact h.current

end WellFormed

/-! ### Operations -/

theorem ne_empty_of_mem_names {name : String} (h : name ∈ p.names) : name ≠ "" := by
  have := (List.mem_filter.1 h).2
  simpa using this

theorem enter_eq_notFound_iff {at_ : Path} {name : String} :
    fs.enter at_ name = .error .notFound ↔ name ≠ "." ∧ name ≠ ".." ∧
      ¬ longestName < Utf8.size name.toList ∧ fs.node? (at_ ++ [name]) = none := by
  unfold enter
  by_cases hpoint : name = "."
  · simp [hpoint]
  · by_cases hup : name = ".."
    · simp [hup]
    · by_cases hlong : longestName < Utf8.size name.toList
      · simp [hpoint, hup, hlong]
      · cases fs.node? (at_ ++ [name]) <;> simp [hpoint, hup, hlong]

/-- A file can be written where a directory is above and none is in its place. -/
theorem target_eq_ok_spec (h : fs.WellFormed) (htarget : fs.target p = .ok path) :
    ∃ above name, path = above ++ [name] ∧ ProperName name ∧ fs.isDirectoryAt above = true ∧
      fs.isDirectoryAt path = false := by
  unfold target at htarget
  split at htarget
  · cases htarget
  · split at htarget
    · cases htarget
    · rename_i last hlast
      have hempty := ne_empty_of_mem_names (List.mem_of_mem_getLast? hlast)
      split at htarget
      · cases htarget
      · rename_i above _
        split at htarget
        · cases htarget
        · rename_i habove
          have hdirectory : fs.isDirectoryAt above = true := by simpa using habove
          split at htarget
          · cases htarget
          · split at htarget
            · rename_i hnone
              cases htarget
              obtain ⟨hpoint, hup, _, hnode⟩ := enter_eq_notFound_iff.1 hnone
              refine ⟨above, last, rfl, ⟨hempty, hpoint, hup⟩, hdirectory, ?_⟩
              exact isDirectoryAt_eq_false (by simp [hnode])
            · cases htarget
            · rename_i found hfound
              split at htarget
              · cases htarget
              · rename_i hfile
                cases htarget
                have hfile : fs.isDirectoryAt path = false := by simpa using hfile
                -- a name that leads nowhere or up would lead to a directory
                have heq := enter_eq_ok hfound
                by_cases hpoint : last = "."
                · rw [heq, hpoint] at hfile
                  exact absurd (hdirectory.symm.trans hfile) (by decide)
                · by_cases hup : last = ".."
                  · rw [heq, hup] at hfile
                    exact absurd ((h.dropLast hdirectory).symm.trans hfile) (by decide)
                  · rw [Path.follow_singleton hpoint hup] at heq
                    exact ⟨above, last, heq, ⟨hempty, hpoint, hup⟩, hdirectory, hfile⟩

theorem write_wellFormed (h : fs.WellFormed) (hwrite : fs.write p content = .ok fs') :
    fs'.WellFormed ∧ fs.KeepsDirectories fs' := by
  obtain ⟨path, htarget, rfl⟩ := Except.map_eq_ok hwrite
  obtain ⟨above, name, rfl, hname, habove, hfile⟩ := target_eq_ok_spec h htarget
  exact ⟨h.place hname habove hfile _, place_keeps hfile _⟩

theorem remove_wellFormed (h : fs.WellFormed) (hremove : fs.remove p = .ok fs') :
    fs'.WellFormed ∧ fs.KeepsDirectories fs' := by
  unfold remove at hremove
  split at hremove
  · cases hremove
  · split at hremove
    · cases hremove
    · rename_i hfile
      cases hremove
      have hfile := Bool.eq_false_iff.2 hfile
      exact ⟨h.erase hfile, erase_keeps hfile⟩

theorem rename_wellFormed {source target : WrittenPath} (h : fs.WellFormed)
    (hrename : fs.rename source target = .ok fs') : fs'.WellFormed ∧ fs.KeepsDirectories fs' := by
  unfold rename at hrename
  cases hread : fs.read source with
  | error e =>
    rw [hread] at hrename
    cases hrename
  | ok moved =>
    cases hlocate : fs.locate source with
    | error e =>
      rw [hread, hlocate] at hrename
      cases hrename
    | ok place =>
      rw [hread, hlocate] at hrename
      obtain ⟨written, hwrite, rfl⟩ := Except.map_eq_ok hrename
      obtain ⟨hwritten, hkeeps⟩ := write_wellFormed h hwrite
      -- the file that was moved is still there when its old place is given up
      have hsource : written.isDirectoryAt place = false := by
        refine isDirectoryAt_eq_false ?_
        have hfile := read_eq_ok hread
        rw [← locate_eq_ok hlocate] at hfile
        rw [write_eq_ok hwrite, node?_place]
        split
        · rename_i hroot
          rw [hroot] at hfile
          cases hfile
        · split
          · simp
          · simp [hfile]
      exact ⟨hwritten.erase hsource, hkeeps.trans (erase_keeps hsource)⟩

/-- Directories are created where nothing is, below directories. -/
theorem createAlong_spec (h : fs.WellFormed) (fresh : Bool) {at_ : Path}
    (hat : fs.isDirectoryAt at_ = true) {names : List String} (hnames : ∀ name ∈ names, name ≠ "") :
    (fs.createAlong fresh at_ names).2.WellFormed ∧
      fs.AddsDirectories (fs.createAlong fresh at_ names).2 := by
  induction names generalizing fs fresh at_ with
  | nil => exact ⟨h, .refl fs⟩
  | cons name rest ih =>
    have hrest : ∀ x ∈ rest, x ≠ "" := fun x hx => hnames x (List.mem_cons_of_mem _ hx)
    unfold createAlong
    split
    · rename_i hnone
      obtain ⟨hpoint, hup, _, hnode⟩ := enter_eq_notFound_iff.1 hnone
      have hname : ProperName name := ⟨hnames name List.mem_cons_self, hpoint, hup⟩
      have hnew : fs.isDirectoryAt (at_ ++ [name]) = false :=
        isDirectoryAt_eq_false (by simp [hnode])
      have hplaced := h.place hname hat hnew .directory
      have hthere : (fs.place (at_ ++ [name]) .directory).isDirectoryAt (at_ ++ [name]) = true := by
        rw [isDirectoryAt_iff, node?_place, if_neg (by simp), if_pos rfl]
      obtain ⟨hwf, hadds⟩ := ih hplaced true hthere hrest
      exact ⟨hwf, (place_adds hnode).trans hadds⟩
    · exact ⟨h, .refl fs⟩
    · split
      · rename_i hnext
        exact ih h fresh hnext hrest
      · exact ⟨h, .refl fs⟩

theorem makeDirectories_spec (h : fs.WellFormed) (p : WrittenPath) :
    (fs.makeDirectories p).2.WellFormed ∧ fs.AddsDirectories (fs.makeDirectories p).2 := by
  have hnames : ∀ name ∈ p.names.filter (· ≠ "."), name ≠ "" := fun name hname =>
    ne_empty_of_mem_names (List.mem_filter.1 hname).1
  unfold makeDirectories
  split
  · exact ⟨h, .refl fs⟩
  · split
    · exact ⟨h, .refl fs⟩
    · split
      · simp only [createBefore]
        split
        · exact ⟨h, .refl fs⟩
        · have hspec := createAlong_spec h false (h.start p) fun name hname =>
            hnames name (List.dropLast_subset _ hname)
          split <;> rename_i heq <;> rw [heq] at hspec <;> exact hspec
        · exact ⟨h, .refl fs⟩
      · exact createAlong_spec h false (h.start p) hnames

end Files

end OlapClient
