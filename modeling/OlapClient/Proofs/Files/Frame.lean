import OlapClient.Proofs.Files.Below

namespace OlapClient

/-!
# What operations leave alone

An operation on files changes the tree at the places that its paths lead to, and nowhere else.

* `Files.SameBut` — a tree that differs from another at some places at most.
* `Files.makeDirectories_sameBut`, `Files.write_sameBut`, … — where each operation makes a change.
* `Files.exists_remove_of_write` — a file that was written can be removed.
* `Files.remove_below_eq` — what removing a file two names below a directory does.
* `Files.check_of_withoutNull` — the system takes a path without null characters unless it is long.
-/

theorem WrittenPath.mem_parts_child {p : WrittenPath} {name part : String}
    (h : part ∈ (p.child name).parts) : part ∈ p.parts ∨ part = name := by
  unfold child at h
  split at h
  · rcases List.mem_append.1 h with hbefore | hname
    · exact .inl (List.dropLast_subset _ hbefore)
    · exact .inr (List.mem_singleton.1 hname)
  · rcases List.mem_append.1 h with hbefore | hname
    · exact .inl hbefore
    · exact .inr (List.mem_singleton.1 hname)

namespace Files

variable {fs fs' fs'' : Files} {p : WrittenPath} {path directory : Path}
  {name below target : String} {content : Bytes}

/-! ### Paths that the system takes -/

/-- No part of a path has a null character. -/
def WithoutNull (p : WrittenPath) : Prop :=
  ∀ part ∈ p.parts, Char.ofNat 0 ∉ part.toList

theorem withoutNull_of_check (h : check p = .ok ()) : WithoutNull p := by
  intro part hpart hnull
  unfold check at h
  rw [if_pos (List.any_eq_true.2 ⟨part, hpart, by simpa using hnull⟩)] at h
  cases h

theorem WithoutNull.child (h : WithoutNull p) (hname : Char.ofNat 0 ∉ name.toList) :
    WithoutNull (p.child name) := by
  intro part hpart
  rcases WrittenPath.mem_parts_child hpart with hold | rfl
  · exact h part hold
  · exact hname

/-- Nothing but its length keeps the system from taking a path without null characters. -/
theorem check_of_withoutNull (h : WithoutNull p) (hempty : p.isEmpty = false) :
    check p = if longestPath < p.size then .error .nameTooLong else .ok () := by
  have hnull : ¬ (p.parts.any fun part => part.toList.contains (Char.ofNat 0)) = true := by
    intro hany
    obtain ⟨part, hpart, hcontains⟩ := List.any_eq_true.1 hany
    exact h part hpart (by simpa using hcontains)
  rw [check, if_neg hnull, hempty, if_neg Bool.false_ne_true]

/-! ### Trees that differ at some places -/

/-- The second tree is seen from the same directory as the first and has the same nodes, but at some
places. -/
structure SameBut (places : List Path) (fs fs' : Files) : Prop where
  current : fs'.current = fs.current
  nodes : ∀ path, path ∉ places → fs'.node? path = fs.node? path

namespace SameBut

variable {places more : List Path}

theorem refl (places : List Path) (fs : Files) : fs.SameBut places fs :=
  ⟨rfl, fun _ _ => rfl⟩

theorem trans (h : fs.SameBut places fs') (h' : fs'.SameBut places fs'') :
    fs.SameBut places fs'' :=
  ⟨h'.current.trans h.current,
    fun path hpath => (h'.nodes path hpath).trans (h.nodes path hpath)⟩

theorem mono (h : fs.SameBut places fs') (hsubset : places ⊆ more) : fs.SameBut more fs' :=
  ⟨h.current, fun path hpath => h.nodes path fun hmem => hpath (hsubset hmem)⟩

end SameBut

theorem place_sameBut (fs : Files) (path : Path) (node : FileNode) :
    fs.SameBut [path] (fs.place path node) := by
  refine ⟨rfl, fun q hq => ?_⟩
  have hne : path ≠ q := fun heq => hq (heq ▸ List.mem_cons_self)
  rw [node?_place, if_neg hne]
  split
  · rename_i hroot
    rw [hroot]
    rfl
  · rfl

theorem erase_sameBut (fs : Files) (path : Path) : fs.SameBut [path] (fs.erase path) := by
  refine ⟨rfl, fun q hq => ?_⟩
  have hne : path ≠ q := fun heq => hq (heq ▸ List.mem_cons_self)
  rw [node?_erase, if_neg hne]
  split
  · rename_i hroot
    rw [hroot]
    rfl
  · rfl

section
variable (h : fs.Leads p directory) (hname : ProperName name)
include h hname

theorem makeDirectories_sameBut :
    fs.SameBut [directory ++ [name]] (fs.makeDirectories (p.child name)).2 := by
  obtain ⟨e, heq⟩ | ⟨_, heq⟩ | ⟨_, heq⟩ := makeDirectories_child h hname
  · rw [heq]
    exact .refl _ fs
  · rw [heq]
    exact .refl _ fs
  · rw [heq]
    exact fs.place_sameBut _ .directory

/-- The directory that is created is new, or nothing changes where it would be. -/
theorem node?_makeDirectories_child :
    (fs.makeDirectories (p.child name)).2.node? (directory ++ [name]) =
        fs.node? (directory ++ [name]) ∨
      fs.node? (directory ++ [name]) = none ∧
        (fs.makeDirectories (p.child name)).2.node? (directory ++ [name]) = some .directory := by
  obtain ⟨e, heq⟩ | ⟨_, heq⟩ | ⟨hnone, heq⟩ := makeDirectories_child h hname
  · exact .inl (by rw [heq])
  · exact .inl (by rw [heq])
  · refine .inr ⟨hnone, ?_⟩
    rw [heq]
    show (fs.place _ _).node? _ = _
    rw [node?_place, if_neg (by simp), if_pos rfl]

variable (hbelow : ProperName below)
include hbelow

theorem write_sameBut (hwrite : fs.write ((p.child name).child below) content = .ok fs') :
    fs.SameBut [directory ++ [name, below]] fs' := by
  rw [write_below h hname hbelow hwrite]
  exact fs.place_sameBut _ _

theorem remove_sameBut (hremove : fs.remove ((p.child name).child below) = .ok fs') :
    fs.SameBut [directory ++ [name, below]] fs' := by
  rw [remove_below h hname hbelow hremove]
  exact fs.erase_sameBut _

theorem rename_sameBut (htarget : ProperName target)
    (hrename : fs.rename ((p.child name).child below) ((p.child name).child target) = .ok fs') :
    fs.SameBut [directory ++ [name, below], directory ++ [name, target]] fs' := by
  obtain ⟨content, _, rfl⟩ := rename_below h hname hbelow htarget hrename
  have hplaced := fs.place_sameBut (directory ++ [name, target]) (.file content)
  have herased := (fs.place (directory ++ [name, target]) (.file content)).erase_sameBut
    (directory ++ [name, below])
  exact (hplaced.mono (by simp)).trans (herased.mono (by simp))

end

/-! ### Files that can be removed -/

/-- A file that was written can be removed. -/
theorem exists_remove_of_write (h : fs.write p content = .ok fs') :
    ∃ removed, fs'.remove p = .ok removed := by
  have hread := read_of_write h
  have hnode := read_eq_ok hread
  unfold read find at hread
  cases hlocate : fs'.locate p with
  | error e =>
    rw [hlocate] at hread
    cases hread
  | ok path =>
    have hfile : fs'.isDirectoryAt path = false := by
      rw [locate_eq_ok hlocate]
      exact isDirectoryAt_eq_false (by simp [hnode])
    refine ⟨fs'.erase path, ?_⟩
    rw [remove, hlocate]
    simp only [hfile, Bool.false_eq_true, if_false]

/-- What removing a file two names below a directory does, if the system takes the path. -/
theorem remove_below_eq (h : fs.Leads p directory) (hname : ProperName name)
    (hbelow : ProperName below) (hshort : ¬ longestName < Utf8.size name.toList)
    (hshort' : ¬ longestName < Utf8.size below.toList)
    (hcheck : check ((p.child name).child below) = .ok ())
    (hdirectory : fs.isDirectoryAt (directory ++ [name]) = true) :
    fs.remove ((p.child name).child below) =
      match fs.node? (directory ++ [name, below]) with
      | none => .error .notFound
      | some .directory => .error .isDirectory
      | some (.file _) => .ok (fs.erase (directory ++ [name, below])) := by
  have hchild := h.child hname hshort hdirectory
  have hpath : directory ++ [name, below] = directory ++ [name] ++ [below] := by
    simp
  rw [remove, hchild.locate_child hbelow.ne_empty, hcheck, hpath]
  simp only [Except.bind]
  rw [enter_proper fs _ hbelow, if_neg hshort']
  cases hnode : fs.node? (directory ++ [name] ++ [below]) with
  | none => rfl
  | some node =>
    simp only
    cases node with
    | directory => rw [if_pos (isDirectoryAt_iff.2 hnode)]
    | file content =>
      have hfile : fs.isDirectoryAt (directory ++ [name] ++ [below]) = false :=
        isDirectoryAt_eq_false (by rw [hnode]; simp)
      rw [hfile, if_neg Bool.false_ne_true]

end Files

end OlapClient
