import OlapClient.Files.Tree
import OlapClient.Proofs.Result

namespace OlapClient

/-!
# Where written paths lead

An operation that succeeds acts on one place, which the names of a path determine. What lies there
may differ from tree to tree, the place does not.

* `Path.follow`, `Files.placeOf` — the place that names lead to.
* `Files.read_eq_ok`, `Files.write_eq_ok`, … — an operation that succeeds, as one on that place.
* `Files.Adds` — a tree whose files are those of another, or have a content of some kind.
-/

/-- The place that names lead to from a directory. -/
def Path.follow (at_ : Path) (names : List String) : Path :=
  names.foldl
    (fun path name =>
      if name = "." then path else if name = ".." then path.dropLast else path ++ [name]) at_

theorem Path.follow_append (at_ : Path) (names more : List String) :
    Path.follow at_ (names ++ more) = Path.follow (Path.follow at_ names) more :=
  List.foldl_append

/-- A name that leads neither nowhere nor up leads down. -/
theorem Path.follow_singleton {at_ : Path} {name : String} (hpoint : name ≠ ".")
    (hup : name ≠ "..") : Path.follow at_ [name] = at_ ++ [name] := by
  simp only [follow, List.foldl_cons, List.foldl_nil, if_neg hpoint, if_neg hup]

namespace Files

/-! ### Nodes -/

theorem node?_empty (path : Path) :
    empty.node? path = if path = [] then some .directory else none := by
  simp only [node?, empty, Std.ExtTreeMap.getElem?_empty]

theorem node?_place (fs : Files) (path q : Path) (node : FileNode) :
    (fs.place path node).node? q =
      if q = [] then some .directory else if path = q then some node else fs.node? q := by
  unfold node? place
  by_cases hq : q = []
  · rw [if_pos hq, if_pos hq]
  · rw [if_neg hq, if_neg hq, if_neg hq]
    simp only [Std.ExtTreeMap.getElem?_insert, Std.compare_eq_iff_eq]

theorem node?_erase (fs : Files) (path q : Path) :
    (fs.erase path).node? q =
      if q = [] then some .directory else if path = q then none else fs.node? q := by
  unfold node? erase
  by_cases hq : q = []
  · rw [if_pos hq, if_pos hq]
  · rw [if_neg hq, if_neg hq, if_neg hq]
    simp only [Std.ExtTreeMap.getElem?_erase, Std.compare_eq_iff_eq]

/-! ### Places -/

/-- The place that a written path leads to. -/
def placeOf (fs : Files) (p : WrittenPath) : Path :=
  Path.follow (fs.start p) p.names

theorem enter_eq_ok {fs : Files} {at_ path : Path} {name : String}
    (h : fs.enter at_ name = .ok path) : path = Path.follow at_ [name] := by
  unfold enter at h
  simp only [Path.follow, List.foldl_cons, List.foldl_nil]
  split at h
  · rename_i hpoint
    rw [if_pos hpoint]
    cases h
    rfl
  · rename_i hpoint
    rw [if_neg hpoint]
    split at h
    · rename_i hup
      rw [if_pos hup]
      cases h
      rfl
    · rename_i hup
      rw [if_neg hup]
      split at h
      · cases h
      · split at h
        · cases h
        · cases h
          rfl

/-- A name that is not there leads down to the place where it would be. -/
theorem enter_eq_notFound {fs : Files} {at_ : Path} {name : String}
    (h : fs.enter at_ name = .error .notFound) : at_ ++ [name] = Path.follow at_ [name] := by
  unfold enter at h
  split at h
  · cases h
  · split at h
    · cases h
    · rename_i hpoint hup
      exact (Path.follow_singleton hpoint hup).symm

theorem walk_eq_ok {fs : Files} {at_ path : Path} {names : List String}
    (h : fs.walk at_ names = .ok path) : path = Path.follow at_ names := by
  induction names generalizing at_ with
  | nil =>
    cases h
    rfl
  | cons name rest ih =>
    unfold walk at h
    split at h
    · split at h
      · cases h
      · rename_i next hnext
        rw [ih h, enter_eq_ok hnext]
        rfl
    · cases h

/-- A slash at the end of a path does not change where it leads. -/
theorem locate_eq_ok {fs : Files} {p : WrittenPath} {path : Path} (h : fs.locate p = .ok path) :
    path = fs.placeOf p := by
  unfold locate at h
  split at h
  · cases h
  · rw [walk_eq_ok h, placeOf, steps]
    split
    · rw [Path.follow_append]
      rfl
    · rfl

theorem target_eq_ok {fs : Files} {p : WrittenPath} {path : Path} (h : fs.target p = .ok path) :
    path = fs.placeOf p := by
  unfold target at h
  split at h
  · cases h
  · split at h
    · cases h
    · rename_i last hlast
      -- the target is entered from the directory that the names before the last one lead to
      have hnames : p.names = p.names.dropLast ++ [last] := by
        obtain ⟨before, hbefore⟩ := List.getLast?_eq_some_iff.1 hlast
        rw [hbefore, List.dropLast_concat]
      split at h
      · cases h
      · rename_i above habove
        rw [placeOf, hnames, Path.follow_append, ← walk_eq_ok habove]
        split at h
        · cases h
        · split at h
          · cases h
          · split at h
            · rename_i hnone
              cases h
              exact enter_eq_notFound hnone
            · cases h
            · rename_i hfound
              split at h
              · cases h
              · cases h
                exact enter_eq_ok hfound

/-! ### Operations that succeed -/

variable {fs fs' : Files} {p : WrittenPath} {content : Bytes}

theorem find_eq_ok {node : FileNode} (h : fs.find p = .ok node) :
    fs.node? (fs.placeOf p) = some node := by
  unfold find at h
  split at h
  · cases h
  · rename_i path hl
    rw [locate_eq_ok hl] at h
    cases hn : fs.node? (fs.placeOf p) with
    | none =>
      rw [hn] at h
      cases h
    | some found =>
      rw [hn] at h
      cases h
      rfl

theorem read_eq_ok (h : fs.read p = .ok content) :
    fs.node? (fs.placeOf p) = some (.file content) := by
  unfold read at h
  split at h
  · cases h
  · cases h
  · rename_i hfind
    cases h
    exact find_eq_ok hfind

theorem write_eq_ok (h : fs.write p content = .ok fs') :
    fs' = fs.place (fs.placeOf p) (.file content) := by
  obtain ⟨path, htarget, rfl⟩ := Except.map_eq_ok h
  rw [target_eq_ok htarget]

theorem remove_eq_ok (h : fs.remove p = .ok fs') : fs' = fs.erase (fs.placeOf p) := by
  unfold remove at h
  cases hl : fs.locate p with
  | error e =>
    rw [hl] at h
    cases h
  | ok path =>
    rw [hl, locate_eq_ok hl] at h
    simp only at h
    split at h
    · cases h
    · cases h
      rfl

/-- A file that is moved keeps its content. -/
theorem rename_eq_ok {source target : WrittenPath} (h : fs.rename source target = .ok fs') :
    ∃ content, fs.node? (fs.placeOf source) = some (.file content) ∧
      fs' = (fs.place (fs.placeOf target) (.file content)).erase (fs.placeOf source) := by
  unfold rename at h
  cases hr : fs.read source with
  | error e =>
    rw [hr] at h
    cases h
  | ok content =>
    refine ⟨content, read_eq_ok hr, ?_⟩
    cases hl : fs.locate source with
    | error e =>
      rw [hr, hl] at h
      cases h
    | ok path =>
      rw [hr, hl, locate_eq_ok hl] at h
      obtain ⟨written, hwrite, rfl⟩ := Except.map_eq_ok h
      rw [write_eq_ok hwrite]

/-! ### What trees have in common -/

/-- The files of the second tree are files of the first, or their content is of some kind. -/
structure Adds (fs : Files) (new : Bytes → Prop) (fs' : Files) : Prop where
  current : fs'.current = fs.current
  files : ∀ path content, fs'.node? path = some (.file content) →
    fs.node? path = some (.file content) ∨ new content

namespace Adds

variable {new : Bytes → Prop}

theorem refl (fs : Files) (new : Bytes → Prop) : fs.Adds new fs :=
  ⟨rfl, fun _ _ h => .inl h⟩

theorem trans {fs'' : Files} (h : fs.Adds new fs') (h' : fs'.Adds new fs'') :
    fs.Adds new fs'' where
  current := h'.current.trans h.current
  files path content hc := by
    rcases h'.files path content hc with hold | hnew
    · exact h.files path content hold
    · exact .inr hnew

theorem placeOf_eq (h : fs.Adds new fs') (p : WrittenPath) : fs'.placeOf p = fs.placeOf p := by
  unfold placeOf start
  rw [h.current]

theorem erase (fs : Files) (new : Bytes → Prop) (path : Path) : fs.Adds new (fs.erase path) where
  current := rfl
  files q content h := by
    rw [node?_erase] at h
    split at h
    · cases h
    · split at h
      · cases h
      · exact .inl h

theorem place_file (fs : Files) (path : Path) (h : new content) :
    fs.Adds new (fs.place path (.file content)) where
  current := rfl
  files q c hc := by
    rw [node?_place] at hc
    split at hc
    · cases hc
    · split at hc
      · cases hc
        exact .inr h
      · exact .inl hc

theorem place_directory (fs : Files) (new : Bytes → Prop) (path : Path) :
    fs.Adds new (fs.place path .directory) where
  current := rfl
  files q c hc := by
    rw [node?_place] at hc
    split at hc
    · cases hc
    · split at hc
      · cases hc
      · exact .inl hc

end Adds

theorem createAlong_adds (fs : Files) (new : Bytes → Prop) (fresh : Bool) (at_ : Path)
    (names : List String) : fs.Adds new (fs.createAlong fresh at_ names).2 := by
  induction names generalizing fs fresh at_ with
  | nil => exact .refl fs new
  | cons name rest ih =>
    unfold createAlong
    split
    · exact (Adds.place_directory fs new _).trans (ih _ _ _)
    · exact .refl fs new
    · split
      · exact ih _ _ _
      · exact .refl fs new

/-- Directories are created without touching files. -/
theorem makeDirectories_adds (fs : Files) (new : Bytes → Prop) (p : WrittenPath) :
    fs.Adds new (fs.makeDirectories p).2 := by
  unfold makeDirectories
  split
  · exact .refl fs new
  · split
    · exact .refl fs new
    · split
      · simp only [createBefore]
        split
        · exact .refl fs new
        · have hadds := createAlong_adds fs new false (fs.start p)
            (p.names.filter (· ≠ ".")).dropLast
          split <;> rename_i heq <;> rw [heq] at hadds <;> exact hadds
        · exact .refl fs new
      · exact createAlong_adds fs new false _ _

end Files

end OlapClient
