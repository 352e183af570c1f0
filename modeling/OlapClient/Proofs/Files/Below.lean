import Mathlib.Data.List.TakeWhile
import OlapClient.Proofs.Files.WellFormed

namespace OlapClient

/-!
# Below a directory

A path that leads to a directory leads there in every tree that keeps the directories. What a path
with one or two more names leads to is then decided by the nodes below that directory, and not by
the way to it.

* `WrittenPath.names_child` — the names of a path with a name put after it.
* `Files.Leads` — a path leads to a directory; `Files.Leads.keeps` — and does so in later trees.
* `Files.makeDirectories_leads` — a path leads to the directory that was created for it.
* `Files.makeDirectories_child` — the ways in which one more directory is created.
* `Files.mem_names`, `Files.nodup_names` — the names in a directory, each once.
* `Files.readBelow`, `Files.read_below` — what is read two names below a directory.
* `Files.write_below`, `Files.rename_below`, `Files.remove_below` — what is changed there.
* `Files.read_of_write` — what was written at a path is read there.
* `Files.content?` — the content of the file at a place.
-/

namespace WrittenPath

variable {p : WrittenPath} {name : String}

/-! ### One more name -/

theorem names_child (p : WrittenPath) (hname : name ≠ "") :
    (p.child name).names = p.names ++ [name] := by
  have hkept : [name].filter (fun part : String => decide (part ≠ "")) = [name] := by
    simp [hname]
  unfold child
  split
  · -- an empty last part makes way for the name
    rename_i hlast
    obtain ⟨before, hparts⟩ := List.getLast?_eq_some_iff.1 hlast
    show List.filter _ (p.parts.dropLast ++ [name]) = List.filter _ p.parts ++ [name]
    rw [hparts, List.dropLast_concat, List.filter_append, List.filter_append, hkept]
    simp
  · show List.filter _ (p.parts ++ [name]) = List.filter _ p.parts ++ [name]
    rw [List.filter_append, hkept]

theorem isAbsolute_child (p : WrittenPath) (name : String) :
    (p.child name).isAbsolute = p.isAbsolute := by
  obtain ⟨parts⟩ := p
  unfold child isAbsolute
  match parts with
  | [] => simp
  | [part] =>
    by_cases hpart : part = ""
    · simp [hpart]
    · simp [hpart]
  | part :: next :: rest =>
    -- a path of two parts or more keeps its first one
    split
    · simp [List.dropLast_cons_of_ne_nil]
    · simp

theorem endsInSlash_child (p : WrittenPath) (hname : name ≠ "") :
    (p.child name).endsInSlash = false := by
  unfold child endsInSlash
  split <;> simp [hname]

theorem isEmpty_child (p : WrittenPath) (hname : name ≠ "") : (p.child name).isEmpty = false := by
  unfold child isEmpty
  split <;> simp [hname]

theorem endsInPoint_child (p : WrittenPath) (hname : ProperName name) :
    (p.child name).endsInPoint = false := by
  unfold endsInPoint
  rw [names_child p hname.ne_empty]
  simp [hname.ne_point]

/-- A path that ends in a proper name has one above it. -/
theorem parent?_child (p : WrittenPath) (hname : ProperName name) :
    (p.child name).parent?.isNone = false := by
  have hend : ∀ before : List String, withoutIdleEnd (before ++ [name]) = before ++ [name] := by
    intro before
    have hidle : ¬ isIdle name = true := by
      simp [isIdle, hname.ne_empty, hname.ne_point]
    unfold withoutIdleEnd trimEndBy
    rw [List.reverse_append, List.reverse_singleton, List.singleton_append,
      List.dropWhile_cons_of_neg hidle, List.reverse_cons, List.reverse_reverse]
    simp
  have hparts : ∃ before, (p.child name).parts = before ++ [name] := by
    unfold child
    split
    · exact ⟨p.parts.dropLast, rfl⟩
    · exact ⟨p.parts, rfl⟩
  obtain ⟨before, hparts⟩ := hparts
  unfold parent?
  rw [hparts, hend before]
  simp

end WrittenPath

namespace Files

variable {fs fs' : Files} {p : WrittenPath} {at_ path directory : Path} {name below : String}

/-! ### Following paths on -/

theorem walk_append (fs : Files) (at_ : Path) (names more : List String) :
    fs.walk at_ (names ++ more) = (fs.walk at_ names).bind fun path => fs.walk path more := by
  induction names generalizing at_ with
  | nil => rfl
  | cons name rest ih =>
    simp only [List.cons_append, walk]
    split
    · cases fs.enter at_ name with
      | error e => rfl
      | ok next => exact ih next
    · rfl

/-- Where one more name leads from a directory. -/
theorem walk_singleton (h : fs.isDirectoryAt at_ = true) (name : String) :
    fs.walk at_ [name] = fs.enter at_ name := by
  simp only [walk, if_pos h]
  cases fs.enter at_ name <;> rfl

theorem walk_cons (h : fs.isDirectoryAt at_ = true) (name : String) (rest : List String) :
    fs.walk at_ (name :: rest) = (fs.enter at_ name).bind fun next => fs.walk next rest := by
  rw [walk, if_pos h]
  cases fs.enter at_ name <;> rfl

/-- A path that leads to a directory starts at one. -/
theorem isDirectoryAt_of_walk {names : List String} (h : fs.walk at_ names = .ok path)
    (hpath : fs.isDirectoryAt path = true) : fs.isDirectoryAt at_ = true := by
  cases names with
  | nil =>
    cases h
    exact hpath
  | cons name rest =>
    unfold walk at h
    split at h
    · rename_i hat
      exact hat
    · cases h

/-- A proper name leads down to what is there. -/
theorem enter_proper (fs : Files) (at_ : Path) (hname : ProperName name) :
    fs.enter at_ name =
      if longestName < Utf8.size name.toList then .error .nameTooLong
      else
        match fs.node? (at_ ++ [name]) with
        | none => .error .notFound
        | some _ => .ok (at_ ++ [name]) := by
  rw [enter, if_neg hname.ne_point]
  exact if_neg hname.ne_up

/-- A name that leads to a directory does so in every tree that keeps the directories. -/
theorem KeepsDirectories.enter (h : fs.KeepsDirectories fs') (henter : fs.enter at_ name = .ok path)
    (hpath : fs.isDirectoryAt path = true) : fs'.enter at_ name = .ok path := by
  have hplace := enter_eq_ok henter
  unfold Files.enter at henter ⊢
  by_cases hpoint : name = "."
  · rw [if_pos hpoint] at henter ⊢
    exact henter
  · by_cases hup : name = ".."
    · rw [if_neg hpoint, if_pos hup] at henter ⊢
      exact henter
    · rw [if_neg hpoint, if_neg hup] at henter ⊢
      rw [Path.follow_singleton hpoint hup] at hplace
      split at henter
      · cases henter
      · rename_i hshort
        rw [if_neg hshort, ← hplace, isDirectoryAt_iff.1 (h.directories path hpath)]

theorem KeepsDirectories.walk (h : fs.KeepsDirectories fs') {names : List String}
    (hwalk : fs.walk at_ names = .ok path) (hpath : fs.isDirectoryAt path = true) :
    fs'.walk at_ names = .ok path := by
  -- by induction on the names: each leads to a directory, since more names or the end follow
  induction names generalizing at_ with
  | nil => exact hwalk
  | cons name rest ih =>
    have hat := isDirectoryAt_of_walk hwalk hpath
    rw [walk_cons hat] at hwalk
    rw [walk_cons (h.directories at_ hat)]
    cases hnext : fs.enter at_ name with
    | error e =>
      rw [hnext] at hwalk
      cases hwalk
    | ok next =>
      rw [hnext] at hwalk
      rw [h.enter hnext (isDirectoryAt_of_walk hwalk hpath)]
      exact ih hwalk

/-! ### Paths to directories -/

/-- A path leads to a directory, whether or not the system takes it as it is written. -/
structure Leads (fs : Files) (p : WrittenPath) (directory : Path) : Prop where
  walk : fs.walk (fs.start p) p.names = .ok directory
  isDirectory : fs.isDirectoryAt directory = true

theorem KeepsDirectories.start (h : fs.KeepsDirectories fs') (p : WrittenPath) :
    fs'.start p = fs.start p := by
  unfold Files.start
  rw [h.current]

theorem KeepsDirectories.placeOf (h : fs.KeepsDirectories fs') (p : WrittenPath) :
    fs'.placeOf p = fs.placeOf p := by
  unfold Files.placeOf
  rw [h.start]

theorem start_child (fs : Files) (p : WrittenPath) (name : String) :
    fs.start (p.child name) = fs.start p := by
  unfold start
  rw [p.isAbsolute_child name]

namespace Leads

variable (h : fs.Leads p directory)
include h

theorem keeps (hkeeps : fs.KeepsDirectories fs') : fs'.Leads p directory := by
  refine ⟨?_, hkeeps.directories directory h.isDirectory⟩
  rw [hkeeps.start]
  exact hkeeps.walk h.walk h.isDirectory

theorem placeOf_eq : fs.placeOf p = directory :=
  (walk_eq_ok h.walk).symm

/-- Two more names lead two directories down. -/
theorem placeOf_child_child (hname : ProperName name) (hbelow : ProperName below) :
    fs.placeOf ((p.child name).child below) = directory ++ [name, below] := by
  unfold Files.placeOf
  rw [start_child, start_child,
    WrittenPath.names_child _ hbelow.ne_empty, WrittenPath.names_child _ hname.ne_empty,
    Path.follow_append, Path.follow_append, Path.follow_singleton hbelow.ne_point hbelow.ne_up,
    Path.follow_singleton hname.ne_point hname.ne_up]
  show fs.placeOf p ++ [name] ++ [below] = directory ++ [name, below]
  rw [h.placeOf_eq, List.append_assoc]
  rfl

theorem walk_child (hname : name ≠ "") :
    fs.walk (fs.start (p.child name)) (p.child name).names = fs.enter directory name := by
  rw [start_child, WrittenPath.names_child p hname, walk_append, h.walk]
  exact walk_singleton h.isDirectory name

theorem locate_child (hname : name ≠ "") :
    fs.locate (p.child name) = (check (p.child name)).bind fun _ => fs.enter directory name := by
  unfold locate steps
  rw [WrittenPath.endsInSlash_child p hname]
  cases check (p.child name) with
  | error e => rfl
  | ok _ => exact h.walk_child hname

/-- The names in the directory are listed, if the system takes the path. -/
theorem list_eq : fs.list p = (check p).map fun _ => fs.names directory := by
  have hsteps : fs.walk (fs.start p) (steps p) = .ok directory := by
    unfold steps
    split
    · rw [walk_append, h.walk]
      exact walk_singleton h.isDirectory "."
    · exact h.walk
  unfold list locate
  cases check p with
  | error e => rfl
  | ok _ =>
    rw [hsteps]
    exact if_pos h.isDirectory

/-- What is below a directory leads there, if the system takes its path and it is a directory. -/
theorem isDirectory_child (hname : ProperName name) :
    fs.isDirectory (p.child name) = true ↔
      check (p.child name) = .ok () ∧ ¬ longestName < Utf8.size name.toList ∧
        fs.isDirectoryAt (directory ++ [name]) = true := by
  unfold Files.isDirectory find
  rw [h.locate_child hname.ne_empty, enter_proper fs directory hname, isDirectoryAt_iff]
  cases check (p.child name) with
  | error e => simp [Except.bind]
  | ok _ =>
    by_cases hlong : longestName < Utf8.size name.toList
    · simp [Except.bind, hlong]
    · cases hnode : fs.node? (directory ++ [name]) with
      | none => simp [Except.bind, hlong]
      | some node => cases node <;> simp [Except.bind, hlong, hnode]

theorem child (hname : ProperName name) (hshort : ¬ longestName < Utf8.size name.toList)
    (hnode : fs.isDirectoryAt (directory ++ [name]) = true) :
    fs.Leads (p.child name) (directory ++ [name]) := by
  refine ⟨?_, hnode⟩
  rw [h.walk_child hname.ne_empty, enter_proper fs directory hname, if_neg hshort,
    isDirectoryAt_iff.1 hnode]

end Leads

/-! ### Creating directories -/

/-- Names that are single points lead nowhere. -/
theorem walk_points (h : fs.isDirectoryAt at_ = true) {names : List String}
    (hnames : ∀ name ∈ names, name = ".") : fs.walk at_ names = .ok at_ := by
  induction names with
  | nil => rfl
  | cons name rest ih =>
    rw [walk_cons h, hnames name List.mem_cons_self]
    exact ih fun x hx => hnames x (List.mem_cons_of_mem _ hx)

/-- Single points between directories may be left out. -/
theorem walk_of_withoutPoints {names : List String}
    (hwalk : fs.walk at_ (names.filter (· ≠ ".")) = .ok path)
    (hpath : fs.isDirectoryAt path = true) : fs.walk at_ names = .ok path := by
  induction names generalizing at_ with
  | nil => exact hwalk
  | cons name rest ih =>
    have hat := isDirectoryAt_of_walk hwalk hpath
    rw [walk_cons hat]
    by_cases hpoint : name = "."
    · rw [List.filter_cons_of_neg (by simp [hpoint])] at hwalk
      rw [hpoint]
      exact ih hwalk
    · rw [List.filter_cons_of_pos (by simp [hpoint]), walk_cons hat] at hwalk
      cases hnext : fs.enter at_ name with
      | error e =>
        rw [hnext] at hwalk
        cases hwalk
      | ok next =>
        rw [hnext] at hwalk
        exact ih hwalk

/-- Whoever follows names on which directories were created arrives at a directory. -/
theorem createAlong_walk (hwf : fs.WellFormed) {fresh : Bool} (hat : fs.isDirectoryAt at_ = true)
    {names : List String} (hnames : ∀ name ∈ names, name ≠ "")
    (h : fs.createAlong fresh at_ names = (.ok (), fs')) :
    ∃ directory, fs'.walk at_ names = .ok directory ∧ fs'.isDirectoryAt directory = true := by
  induction names generalizing fs fresh at_ with
  | nil =>
    cases h
    exact ⟨at_, rfl, hat⟩
  | cons name rest ih =>
    have hrest : ∀ x ∈ rest, x ≠ "" := fun x hx => hnames x (List.mem_cons_of_mem _ hx)
    have hkeeps := (createAlong_spec hwf fresh hat hnames).2.keeps
    rw [h] at hkeeps
    rw [walk_cons (hkeeps.directories at_ hat)]
    unfold createAlong at h
    split at h
    · -- the directory that is created stays while the rest is
      rename_i hnone
      obtain ⟨hpoint, hup, hshort, hnode⟩ := enter_eq_notFound_iff.1 hnone
      have hname : ProperName name := ⟨hnames name List.mem_cons_self, hpoint, hup⟩
      have hplaced := hwf.place hname hat (isDirectoryAt_eq_false (by simp [hnode])) .directory
      have hthere : (fs.place (at_ ++ [name]) .directory).isDirectoryAt (at_ ++ [name]) = true := by
        rw [isDirectoryAt_iff, node?_place, if_neg (by simp), if_pos rfl]
      have hlater := (createAlong_spec hplaced true hthere hrest).2.keeps
      rw [h] at hlater
      rw [enter_proper fs' at_ hname, if_neg hshort,
        isDirectoryAt_iff.1 (hlater.directories _ hthere)]
      exact ih hplaced hthere hrest h
    · cases h
    · rename_i next hnext
      split at h
      · rename_i hdirectory
        rw [hkeeps.enter hnext hdirectory]
        exact ih hwf hdirectory hrest h
      · cases h

/-- Names that end in a single point lead to a directory or nowhere. -/
theorem isDirectoryAt_of_walk_point {names : List String} (hpoint : names.getLast? = some ".")
    (h : fs.walk at_ names = .ok path) : fs.isDirectoryAt path = true := by
  obtain ⟨before, rfl⟩ := List.getLast?_eq_some_iff.1 hpoint
  rw [walk_append] at h
  cases hbefore : fs.walk at_ before with
  | error e =>
    rw [hbefore] at h
    cases h
  | ok last =>
    rw [hbefore] at h
    simp only [Except.bind, walk] at h
    split at h
    · rename_i hlast
      cases h
      exact hlast
    · cases h

/-- A path above which there is none has no names but single points. -/
theorem names_eq_point_of_parent? (h : p.parent?.isNone = true) : ∀ name ∈ p.names, name = "." := by
  have hidle : ∀ part ∈ p.parts, WrittenPath.isIdle part = true := by
    have htrim : trimEndBy WrittenPath.isIdle p.parts = [] := by
      unfold WrittenPath.parent? WrittenPath.withoutIdleEnd at h
      revert h
      cases trimEndBy WrittenPath.isIdle p.parts with
      | nil => exact fun _ => rfl
      | cons part rest => simp
    rw [trimEndBy, List.reverse_eq_nil_iff] at htrim
    intro part hpart
    exact List.dropWhile_eq_nil_iff.1 htrim part (List.mem_reverse.2 hpart)
  intro name hname
  obtain ⟨hpart, hempty⟩ := List.mem_filter.1 hname
  have := hidle name hpart
  simp only [WrittenPath.isIdle, Bool.or_eq_true, beq_iff_eq] at this
  exact this.resolve_left (by simpa using hempty)

/-- **A path leads to the directory that was created for it.** -/
theorem makeDirectories_leads (hwf : fs.WellFormed) (h : fs.makeDirectories p = (.ok (), fs')) :
    fs'.Leads p (fs.placeOf p) := by
  have hkeeps := (makeDirectories_spec hwf p).2.keeps
  rw [h] at hkeeps
  -- it is enough to arrive at some directory
  suffices hsome : ∃ directory, fs'.walk (fs'.start p) p.names = .ok directory ∧
      fs'.isDirectoryAt directory = true by
    obtain ⟨directory, hwalk, hdirectory⟩ := hsome
    rw [← hkeeps.placeOf, show fs'.placeOf p = directory from (walk_eq_ok hwalk).symm]
    exact ⟨hwalk, hdirectory⟩
  have hnames : ∀ name ∈ p.names.filter (· ≠ "."), name ≠ "" := fun name hname =>
    ne_empty_of_mem_names (List.mem_filter.1 hname).1
  unfold makeDirectories at h
  split at h
  · rename_i hnone
    cases h
    exact ⟨_, walk_points (hwf.start p) (names_eq_point_of_parent? hnone), hwf.start p⟩
  · split at h
    · cases h
    · split at h
      · -- what ends in a point was there, or is once the directories before it are
        rename_i hpoint
        have hpoint : p.names.getLast? = some "." := by
          simpa [WrittenPath.endsInPoint] using hpoint
        simp only [createBefore] at h
        split at h
        · rename_i path hwalk
          cases h
          exact ⟨path, hwalk, isDirectoryAt_of_walk_point hpoint hwalk⟩
        · split at h
          · cases h
          · rename_i created _
            cases hwalk : created.walk (created.start p) p.names with
            | error e =>
              rw [hwalk] at h
              cases h
            | ok path =>
              rw [hwalk] at h
              cases h
              exact ⟨path, hwalk, isDirectoryAt_of_walk_point hpoint hwalk⟩
        · cases h
      · obtain ⟨directory, hwalk, hdirectory⟩ := createAlong_walk hwf (hwf.start p) hnames h
        refine ⟨directory, ?_, hdirectory⟩
        rw [hkeeps.start]
        exact walk_of_withoutPoints hwalk hdirectory

/-- Nothing is created on the way to a directory that is there. -/
theorem createAlong_of_walk {names : List String} (hwalk : fs.walk at_ names = .ok path)
    (hpath : fs.isDirectoryAt path = true) (fresh : Bool) (more : List String) :
    fs.createAlong fresh at_ (names.filter (· ≠ ".") ++ more) = fs.createAlong fresh path more := by
  induction names generalizing at_ with
  | nil =>
    cases hwalk
    rfl
  | cons name rest ih =>
    rw [walk_cons (isDirectoryAt_of_walk hwalk hpath)] at hwalk
    by_cases hpoint : name = "."
    · rw [List.filter_cons_of_neg (by simp [hpoint])]
      rw [hpoint] at hwalk
      exact ih hwalk
    · rw [List.filter_cons_of_pos (by simp [hpoint]), List.cons_append, createAlong]
      cases hnext : fs.enter at_ name with
      | error e =>
        rw [hnext] at hwalk
        cases hwalk
      | ok next =>
        rw [hnext] at hwalk
        simp only [isDirectoryAt_of_walk hwalk hpath, if_true]
        exact ih hwalk

/-- One more directory fails to be created, is there, or is put where nothing is. -/
theorem makeDirectories_child (h : fs.Leads p directory) (hname : ProperName name) :
    (∃ e, fs.makeDirectories (p.child name) = (.error e, fs)) ∨
    (fs.isDirectoryAt (directory ++ [name]) = true ∧
      fs.makeDirectories (p.child name) = (.ok (), fs)) ∨
    (fs.node? (directory ++ [name]) = none ∧
      fs.makeDirectories (p.child name) =
        (.ok (), fs.place (directory ++ [name]) .directory)) := by
  have hfilter : (p.child name).names.filter (· ≠ ".") = p.names.filter (· ≠ ".") ++ [name] := by
    rw [WrittenPath.names_child p hname.ne_empty, List.filter_append]
    simp [hname.ne_point]
  unfold makeDirectories
  rw [p.parent?_child hname, p.endsInPoint_child hname]
  cases check (p.child name) with
  | error e => exact .inl ⟨e, rfl⟩
  | ok _ =>
    simp only [Bool.false_eq_true, if_false]
    rw [hfilter, start_child, createAlong_of_walk h.walk h.isDirectory,
      createAlong, enter_proper fs directory hname]
    by_cases hlong : longestName < Utf8.size name.toList
    · exact .inl ⟨.nameTooLong, by simp [hlong]⟩
    · cases hnode : fs.node? (directory ++ [name]) with
      | none => exact .inr (.inr ⟨rfl, by simp [hlong, createAlong]⟩)
      | some node =>
        cases node with
        | directory =>
          exact .inr (.inl ⟨isDirectoryAt_iff.2 hnode, by
            simp [hlong, createAlong, isDirectoryAt_iff.2 hnode]⟩)
        | file content =>
          have hfile : fs.isDirectoryAt (directory ++ [name]) = false :=
            isDirectoryAt_eq_false (by simp [hnode])
          exact .inl ⟨.exists, by simp [hlong, hfile]⟩

/-! ### The names in a directory -/

theorem mem_names : name ∈ fs.names path ↔ fs.node? (path ++ [name]) ≠ none := by
  have hnode : fs.node? (path ++ [name]) = fs.nodes[path ++ [name]]? := if_neg (by simp)
  rw [hnode, Option.ne_none_iff_exists', names, List.mem_filterMap]
  constructor
  · rintro ⟨⟨q, node⟩, hmem, hlast⟩
    split at hlast
    · rename_i habove
      obtain ⟨before, rfl⟩ := List.getLast?_eq_some_iff.1 hlast
      rw [List.dropLast_concat] at habove
      subst habove
      exact ⟨node, Std.ExtTreeMap.mem_toList_iff_getElem?_eq_some.1 hmem⟩
    · cases hlast
  · rintro ⟨node, hnode⟩
    refine ⟨(path ++ [name], node), Std.ExtTreeMap.mem_toList_iff_getElem?_eq_some.2 hnode, ?_⟩
    simp

/-- Every name is listed once. -/
theorem nodup_names (fs : Files) (path : Path) : (fs.names path).Nodup := by
  refine List.Pairwise.filterMap _ ?_ Std.ExtTreeMap.distinct_keys_toList
  intro p q hne name hname name' hname' heq
  -- entries of one directory and one name are at one path
  subst heq
  have hpath : ∀ r : Path × FileNode,
      (if r.1.dropLast = path then r.1.getLast? else none) = some name → r.1 = path ++ [name] := by
    intro r hr
    split at hr
    · rename_i habove
      obtain ⟨before, hbefore⟩ := List.getLast?_eq_some_iff.1 hr
      rw [hbefore, List.dropLast_concat] at habove
      rw [hbefore, habove]
    · cases hr
  exact hne (Std.compare_eq_iff_eq.2 ((hpath p hname).trans (hpath q hname').symm))

/-! ### Reading below a directory -/

/-- What is read under two names, by the nodes that they lead to. -/
def readBelow (name below : String) (outer inner : Option FileNode) : Except FileError Bytes :=
  if longestName < Utf8.size name.toList then .error .nameTooLong
  else
    match outer with
    | none => .error .notFound
    | some (.file _) => .error .notDirectory
    | some .directory =>
      if longestName < Utf8.size below.toList then .error .nameTooLong
      else
        match inner with
        | none => .error .notFound
        | some .directory => .error .isDirectory
        | some (.file content) => .ok content

/-- What is read two names below a directory depends on two nodes and on whether the system takes
the path. -/
theorem read_below (h : fs.Leads p directory) (hname : ProperName name)
    (hbelow : ProperName below) :
    fs.read ((p.child name).child below) =
      (check ((p.child name).child below)).bind fun _ =>
        readBelow name below (fs.node? (directory ++ [name]))
          (fs.node? (directory ++ [name, below])) := by
  have hwalk : fs.walk (fs.start ((p.child name).child below)) ((p.child name).child below).names =
      (fs.enter directory name).bind fun next => fs.walk next [below] := by
    rw [start_child, WrittenPath.names_child _ hbelow.ne_empty, walk_append,
      h.walk_child hname.ne_empty]
  have hpath : directory ++ [name, below] = directory ++ [name] ++ [below] := by
    simp
  unfold read find locate steps
  rw [WrittenPath.endsInSlash_child _ hbelow.ne_empty]
  simp only [Bool.false_eq_true, if_false]
  rw [hwalk, enter_proper fs directory hname, hpath]
  unfold readBelow
  cases check ((p.child name).child below) with
  | error e => rfl
  | ok _ =>
    -- the cases are the failures on the way down, from the outer name to the inner one
    by_cases hlong : longestName < Utf8.size name.toList
    · simp [Except.bind, hlong]
    · cases houter : fs.node? (directory ++ [name]) with
      | none => simp [Except.bind, hlong]
      | some node =>
        cases node with
        | file content =>
          have hfile : fs.isDirectoryAt (directory ++ [name]) = false :=
            isDirectoryAt_eq_false (by simp [houter])
          simp [Except.bind, hlong, walk, hfile]
        | directory =>
          simp only [Except.bind, if_neg hlong]
          rw [walk_singleton (isDirectoryAt_iff.2 houter), enter_proper fs _ hbelow]
          by_cases hlong' : longestName < Utf8.size below.toList
          · simp [hlong']
          · rw [if_neg hlong', if_neg hlong']
            cases hinner : fs.node? (directory ++ [name] ++ [below]) with
            | none => rfl
            | some node =>
              simp only [hinner]
              cases node <;> rfl

/-- The system takes the path of a name, or has another reason not to than that nothing is there. -/
theorem check_child_ne_notFound (p : WrittenPath) (hname : name ≠ "") :
    check (p.child name) ≠ .error .notFound := by
  unfold check
  rw [p.isEmpty_child hname]
  split
  · simp
  · split
    · contradiction
    · split <;> simp

/-- What is not found is not there. -/
theorem node?_of_read_notFound (hwf : fs.WellFormed) (h : fs.Leads p directory)
    (hname : ProperName name) (hbelow : ProperName below)
    (hread : fs.read ((p.child name).child below) = .error .notFound) :
    fs.node? (directory ++ [name, below]) = none := by
  rw [read_below h hname hbelow] at hread
  cases hcheck : check ((p.child name).child below) with
  | error e =>
    rw [hcheck] at hread
    cases hread
    exact absurd hcheck (check_child_ne_notFound _ hbelow.ne_empty)
  | ok _ =>
    rw [hcheck] at hread
    simp only [Except.bind, readBelow] at hread
    split at hread
    · cases hread
    · split at hread
      · rename_i houter
        exact hwf.two_below_eq_none houter below
      · cases hread
      · split at hread
        · cases hread
        · split at hread
          · rename_i hinner
            exact hinner
          · cases hread
          · cases hread

/-! ### Changes below a directory -/

variable {target : String} {content : Bytes}

theorem write_below (h : fs.Leads p directory) (hname : ProperName name) (hbelow : ProperName below)
    (hwrite : fs.write ((p.child name).child below) content = .ok fs') :
    fs' = fs.place (directory ++ [name, below]) (.file content) := by
  rw [write_eq_ok hwrite, h.placeOf_child_child hname hbelow]

theorem remove_below (h : fs.Leads p directory) (hname : ProperName name)
    (hbelow : ProperName below) (hremove : fs.remove ((p.child name).child below) = .ok fs') :
    fs' = fs.erase (directory ++ [name, below]) := by
  rw [remove_eq_ok hremove, h.placeOf_child_child hname hbelow]

theorem rename_below (h : fs.Leads p directory) (hname : ProperName name)
    (hbelow : ProperName below) (htarget : ProperName target)
    (hrename : fs.rename ((p.child name).child below) ((p.child name).child target) = .ok fs') :
    ∃ content, fs.node? (directory ++ [name, below]) = some (.file content) ∧
      fs' = (fs.place (directory ++ [name, target]) (.file content)).erase
        (directory ++ [name, below]) := by
  obtain ⟨content, hcontent, heq⟩ := rename_eq_ok hrename
  rw [h.placeOf_child_child hname hbelow] at hcontent heq
  rw [h.placeOf_child_child hname htarget] at heq
  exact ⟨content, hcontent, heq⟩

/-! ### Reading what was written -/

/-- A file is written under the last name of a path, from the directory that the others lead to. -/
theorem exists_of_target (h : fs.target p = .ok path) :
    check p = .ok () ∧ p.endsInSlash = false ∧ fs.isDirectoryAt path = false ∧
      ∃ names last above, p.names = names ++ [last] ∧ fs.walk (fs.start p) names = .ok above ∧
        fs.isDirectoryAt above = true ∧
        (fs.enter above last = .error .notFound ∧ path = above ++ [last] ∨
          fs.enter above last = .ok path) := by
  unfold target at h
  split at h
  · cases h
  rename_i hcheck
  split at h
  · cases h
  rename_i last hlast
  have hnames : p.names = p.names.dropLast ++ [last] := by
    obtain ⟨before, hbefore⟩ := List.getLast?_eq_some_iff.1 hlast
    rw [hbefore, List.dropLast_concat]
  split at h
  · cases h
  rename_i above hwalk
  split at h
  · cases h
  rename_i habove
  have habove : fs.isDirectoryAt above = true := by simpa using habove
  split at h
  · cases h
  rename_i hslash
  have hslash : p.endsInSlash = false := Bool.eq_false_iff.2 hslash
  refine ⟨hcheck, hslash, ?_⟩
  split at h
  · rename_i hnone
    cases h
    have hnode := (enter_eq_notFound_iff.1 hnone).2.2.2
    exact ⟨isDirectoryAt_eq_false (by simp [hnode]), p.names.dropLast, last, above, hnames, hwalk,
      habove, .inl ⟨hnone, rfl⟩⟩
  · cases h
  · rename_i hfound
    split at h
    · cases h
    · rename_i hfile
      cases h
      exact ⟨Bool.eq_false_iff.2 hfile, p.names.dropLast, last, above, hnames, hwalk, habove,
        .inr hfound⟩

/-- The name of a file that was put into a directory leads to it. -/
theorem enter_place (h : fs.enter at_ name = .error .notFound ∧ path = at_ ++ [name] ∨
    fs.enter at_ name = .ok path) (node : FileNode) :
    (fs.place path node).enter at_ name = .ok path := by
  rcases h with ⟨hnone, rfl⟩ | hfound
  · obtain ⟨hpoint, hup, hshort, -⟩ := enter_eq_notFound_iff.1 hnone
    rw [enter, if_neg hpoint, if_neg hup, if_neg hshort, node?_place, if_neg (by simp),
      if_pos rfl]
  · -- a name that leads to a node still does, since no node is taken away
    have hkept (q : Path) (hq : fs.node? q ≠ none) : (fs.place path node).node? q ≠ none := by
      rw [node?_place]
      split
      · simp
      split
      · simp
      · exact hq
    unfold enter at hfound ⊢
    split
    · rename_i hpoint
      rwa [if_pos hpoint] at hfound
    rename_i hpoint
    rw [if_neg hpoint] at hfound
    split
    · rename_i hup
      rwa [if_pos hup] at hfound
    rename_i hup
    rw [if_neg hup] at hfound
    split at hfound
    · cases hfound
    rename_i hshort
    rw [if_neg hshort]
    split at hfound
    · cases hfound
    · rename_i old hold
      cases hfound
      obtain ⟨new, hnew⟩ := Option.ne_none_iff_exists'.1 (hkept (at_ ++ [name]) (by simp [hold]))
      rw [hnew]

/-- **A file that was written is read back.** -/
theorem read_of_write (h : fs.write p content = .ok fs') : fs'.read p = .ok content := by
  obtain ⟨path, htarget, rfl⟩ := Except.map_eq_ok h
  obtain ⟨hcheck, hslash, hfile, names, last, above, hnames, hwalk, habove, henter⟩ :=
    exists_of_target htarget
  have hkeeps := place_keeps hfile (.file content)
  have hlocate : (fs.place path (.file content)).locate p = .ok path := by
    unfold locate steps
    rw [hcheck, hslash, hkeeps.start]
    simp only [Bool.false_eq_true, if_false]
    rw [hnames, walk_append, hkeeps.walk hwalk habove]
    exact (walk_singleton (hkeeps.directories above habove) last).trans
      (enter_place henter (.file content))
  have hpath : path ≠ [] := by
    rintro rfl
    cases hfile
  have hfind : (fs.place path (.file content)).find p = .ok (.file content) := by
    rw [find, hlocate]
    simp only [node?_place, if_neg hpath, if_pos, Option.map_some, Option.getD_some]
  rw [read, hfind]

/-- Only files are read. -/
theorem isFile_of_read (h : fs.read p = .ok content) : fs.isFile p = true := by
  unfold read at h
  unfold isFile
  cases hfind : fs.find p with
  | error e =>
    rw [hfind] at h
    cases h
  | ok node =>
    rw [hfind] at h
    cases node with
    | directory => cases h
    | file content => rfl

/-! ### Contents -/

/-- The content of the file at a place. -/
def content? (fs : Files) (path : Path) : Option Bytes :=
  match fs.node? path with
  | some (.file content) => some content
  | _ => none

theorem content?_eq_some : fs.content? path = some content ↔
    fs.node? path = some (.file content) := by
  unfold content?
  split
  · rename_i c hnode
    simp [hnode]
  · rename_i hnode
    constructor
    · intro h
      cases h
    · intro h
      exact absurd h (hnode content)

/-- Adding directories changes no content. -/
theorem AddsDirectories.content?_eq (h : fs.AddsDirectories fs') (path : Path) :
    fs'.content? path = fs.content? path := by
  apply Option.ext
  intro content
  rw [content?_eq_some, content?_eq_some]
  exact h.file_iff

end Files

end OlapClient
