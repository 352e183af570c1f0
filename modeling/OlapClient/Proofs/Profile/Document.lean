import OlapClient.Profile.Document
import OlapClient.Proofs.Property.Lookup
import OlapClient.Proofs.Toml.Document

namespace OlapClient

/-!
# Documents of profiles are read back

The document of a set of profiles is read line by line into the tree whose tables are the profiles,
latest first, and that tree is read as the set.

* `ProfileSet.tree` — the tree of a set.
* `ProfileSet.readsAs_writeEntries`, `ProfileSet.readsAs_writeProfile`,
  `ProfileSet.readsAs_writeProfiles` — how the lines of a document build it.
* `ProfileSet.ofEntries?_tree` — the set of that tree.
* `ProfileSet.read_write` — a written set is read back.
-/

namespace ProfileSet

open Toml (Entries Node Draft writeKey writeString)

variable {limit : Nat} {base : Entries} {name : String}

/-! ### Trees -/

/-- The entries of a profile, the latest first. -/
def propertyEntries (ps : List (String × String)) : Entries :=
  (ps.map fun p => (p.1, .string p.2)).reverse

/-- The tables of profiles, the latest first. -/
def profileEntries (ps : List (String × PropertyMap)) : Entries :=
  (ps.map fun p => (p.1, .table .header (propertyEntries p.2.toList))).reverse

/-- What a document says of the default profile. -/
def defaultEntries : Option String → Entries
  | none => []
  | some name => [("default_profile", .string name)]

/-- How the table that holds the profiles comes to be: by those of the profiles, if there are any. -/
def profilesOrigin (ps : List (String × PropertyMap)) : Toml.Origin :=
  if ps = [] then .header else .implied

/-- The tree of a set. -/
def tree (s : ProfileSet) : Entries :=
  ("profiles", .table (profilesOrigin s.profiles.toList) (profileEntries s.profiles.toList)) ::
    defaultEntries s.default

theorem find?_entries_eq_none {es : Entries} {key : String} (h : ∀ e ∈ es, e.1 ≠ key) :
    es.find? key = none := by
  rw [Entries.find?, List.lookup_eq_none_iff]
  exact fun e he => bne_iff_ne.2 (h e he).symm

/-- Keys that differ from those of other pairs have no entry among them. -/
theorem find?_reverse_map_eq_none {α : Type} {ps : List (String × α)} {node : String × α → Node}
    {key : String} (h : key ∉ ps.map Prod.fst) :
    Entries.find? (ps.map fun p => (p.1, node p)).reverse key = none := by
  refine find?_entries_eq_none fun e he heq => h ?_
  obtain ⟨p, hp, rfl⟩ := List.mem_map.1 (List.mem_reverse.1 he)
  exact List.mem_map.2 ⟨p, hp, heq⟩

/-! ### Lines -/

/-- The draft of a document whose latest profile has some entries. -/
def draft (base : Entries) (before : List (String × PropertyMap)) (name : String)
    (ps : List (String × String)) : Draft where
  root := ("profiles", .table .implied
    ((name, .table .header (propertyEntries ps)) :: profileEntries before)) :: base
  current := ["profiles", name]

theorem put_draft (base : Entries) (before : List (String × PropertyMap)) (name : String)
    {ps : List (String × String)} {p : String × String} (h : p.1 ∉ ps.map Prod.fst) :
    (draft base before name ps).put [p.1] (.string p.2) =
      some (draft base before name (ps ++ [p])) := by
  have hnew : (propertyEntries ps).find? p.1 = none := find?_reverse_map_eq_none h
  have hentries : (p.1, Node.string p.2) :: propertyEntries ps = propertyEntries (ps ++ [p]) := by
    simp [propertyEntries]
  rw [Draft.put, draft, Toml.within_head (by decide), Toml.within_head (by decide), Toml.within,
    Toml.putEntry_of_new hnew, hentries]
  rfl

theorem writeEntry_eq (p : String × String) : writeEntry p = Toml.entryLine p.1 p.2 := rfl

/-- The lines of a profile add its properties to the latest table. -/
theorem readsAs_writeEntries (base : Entries) (before : List (String × PropertyMap)) (name : String)
    (ps : List (String × String)) {qs : List (String × String)} (h : ((ps ++ qs).map Prod.fst).Nodup) :
    Draft.ReadsAs limit (draft base before name ps) (draft base before name (ps ++ qs))
      (qs.flatMap writeEntry) := by
  induction qs generalizing ps with
  | nil =>
    rw [List.append_nil]
    exact .refl limit _
  | cons q qs ih =>
    have hall : ps ++ q :: qs = ps ++ [q] ++ qs := by simp
    rw [hall] at h ⊢
    have hq : q.1 ∉ ps.map Prod.fst := fun hin => by
      simp only [List.map_append, List.nodup_append] at h
      exact h.1.2.2 q.1 hin q.1 (by simp) rfl
    rw [List.flatMap_cons, writeEntry_eq]
    exact (Draft.readsAs_entry (put_draft base before name hq)).append (ih _ h)

theorem profilesHeader : "[profiles".toList = '[' :: writeKey "profiles" := by decide +kernel

/-- The lines of a profile add its table to a document where it has a new name. -/
theorem readsAs_writeProfile {d : Draft} {p : String × PropertyMap}
    {before : List (String × PropertyMap)}
    (h : d.enter Toml.openTable ["profiles", p.1] = some (draft base before p.1 [])) :
    Draft.ReadsAs limit d (draft base before p.1 p.2.toList) (writeProfile p) := by
  have hprofile : writeProfile p =
      '[' :: (writeKey "profiles" ++ '.' :: writeKey p.1 ++ "]\n".toList) ++
        p.2.toList.flatMap writeEntry := by
    rw [← List.cons_append, ← List.cons_append, ← profilesHeader]
    rfl
  rw [hprofile]
  exact (Draft.readsAs_header_two h).append
    (readsAs_writeEntries base before p.1 [] p.2.nodup_toList)

theorem enter_first (hbase : base.find? "profiles" = none) (path : List String) (name : String) :
    Draft.enter Toml.openTable ⟨base, path⟩ ["profiles", name] = some (draft base [] name []) := by
  have hopen : Toml.openLast name [] = some [(name, .table .header [])] :=
    Toml.openLast_of_new rfl
  have hwithin : Toml.within (Toml.openLast name) base ["profiles"] =
      some (base.put "profiles" (.table .implied [(name, .table .header [])])) := by
    rw [Toml.within, hbase]
    simp only [Toml.within, hopen, Option.map_some]
  rw [Entries.put_of_new hbase] at hwithin
  simp [Draft.enter, Toml.openTable, hwithin, draft, propertyEntries, profileEntries]

theorem enter_next (base : Entries) {before : List (String × PropertyMap)}
    {p : String × PropertyMap} (hname : name ∉ (before ++ [p]).map Prod.fst) :
    (draft base before p.1 p.2.toList).enter Toml.openTable ["profiles", name] =
      some (draft base (before ++ [p]) name []) := by
  have hnew : (profileEntries (before ++ [p])).find? name = none :=
    find?_reverse_map_eq_none hname
  have hentries : (p.1, Node.table .header (propertyEntries p.2.toList)) :: profileEntries before =
      profileEntries (before ++ [p]) := by
    simp [profileEntries]
  have hwithin := Toml.within_head (show Toml.Origin.implied ≠ .braces by decide)
    (Toml.openLast name) "profiles" [] (profileEntries (before ++ [p])) base
  rw [Toml.within, Toml.openLast_of_new hnew] at hwithin
  rw [Draft.enter, draft, hentries, Toml.openTable]
  simp [draft, hwithin, propertyEntries]

/-- The lines of several profiles add their tables to a document, each of which has a new name. -/
theorem readsAs_intercalate {d : Draft} {p : String × PropertyMap}
    (before : List (String × PropertyMap)) {ps : List (String × PropertyMap)}
    (henter : d.enter Toml.openTable ["profiles", p.1] = some (draft base before p.1 []))
    (h : ((before ++ p :: ps).map Prod.fst).Nodup) :
    ∃ d', d'.root = ("profiles", .table .implied (profileEntries (before ++ p :: ps))) :: base ∧
      Draft.ReadsAs limit d d' (List.intercalate ['\n'] ((p :: ps).map writeProfile)) := by
  induction ps generalizing d p before with
  | nil =>
    refine ⟨draft base before p.1 p.2.toList, ?_, ?_⟩
    · simp [draft, profileEntries]
    · simpa using readsAs_writeProfile henter
  | cons q ps ih =>
    have hall : before ++ p :: q :: ps = before ++ [p] ++ q :: ps := by simp
    rw [hall] at h ⊢
    have hq : q.1 ∉ (before ++ [p]).map Prod.fst := fun hin => by
      rw [List.map_append, List.nodup_append] at h
      exact h.2.2 q.1 hin q.1 (by simp) rfl
    obtain ⟨d', hroot, hreads⟩ := ih _ (enter_next base hq) h
    refine ⟨d', hroot, ?_⟩
    rw [List.map_cons, List.map_cons, List.intercalate_cons_cons, ← List.map_cons,
      List.append_assoc]
    exact (readsAs_writeProfile henter).append ((Draft.readsAs_blank limit _).append hreads)

/-! ### The document of a set -/

theorem find?_profiles_default (default : Option String) :
    (defaultEntries default).find? "profiles" = none := by
  cases default with
  | none => rfl
  | some name => exact find?_entries_eq_none (by simp [defaultEntries])

theorem readsAs_writeDefault (limit : Nat) (default : Option String) :
    Draft.ReadsAs limit {} ⟨defaultEntries default, []⟩ (writeDefault default) := by
  cases default with
  | none => exact .refl limit _
  | some name =>
    rw [writeDefault, writeEntry_eq]
    refine .append (Draft.readsAs_entry ?_) (Draft.readsAs_blank limit _)
    rw [Draft.put, Toml.within, Toml.putEntry_of_new rfl]
    rfl

theorem readsAs_writeProfiles (limit : Nat) {ps : List (String × PropertyMap)}
    (hbase : base.find? "profiles" = none) (h : (ps.map Prod.fst).Nodup) :
    ∃ d', d'.root = ("profiles", .table (profilesOrigin ps) (profileEntries ps)) :: base ∧
      Draft.ReadsAs limit ⟨base, []⟩ d' (writeProfiles ps) := by
  cases ps with
  | nil =>
    have hopen : Draft.enter Toml.openTable ⟨base, []⟩ ["profiles"] =
        some ⟨("profiles", .table .header []) :: base, ["profiles"]⟩ := by
      simp [Draft.enter, Toml.openTable, Toml.within, Toml.openLast_of_new hbase]
    refine ⟨⟨("profiles", .table .header []) :: base, ["profiles"]⟩, rfl, ?_⟩
    have hprofiles : writeProfiles [] = '[' :: (writeKey "profiles" ++ "]\n".toList) := by
      rw [← List.cons_append, ← profilesHeader]
      rfl
    rw [hprofiles]
    exact Draft.readsAs_header_one hopen
  | cons p ps =>
    exact readsAs_intercalate [] (enter_first hbase [] p.1) h

theorem readsAs_write (limit : Nat) (s : ProfileSet) :
    ∃ d', d'.root = s.tree ∧ Draft.ReadsAs limit {} d' s.write.toList := by
  obtain ⟨d', hroot, hreads⟩ :=
    readsAs_writeProfiles limit (find?_profiles_default s.default) s.profiles.nodup_toList
  refine ⟨d', hroot, ?_⟩
  rw [write, String.toList_ofList]
  exact (readsAs_writeDefault limit s.default).append hreads

theorem return_notMem_intercalate {ls : List (List Char)} (h : ∀ l ∈ ls, '\r' ∉ l) :
    '\r' ∉ List.intercalate ['\n'] ls := by
  cases ls with
  | nil => exact List.not_mem_nil
  | cons l ls =>
    induction ls generalizing l with
    | nil =>
      rw [List.intercalate_singleton]
      exact h l List.mem_cons_self
    | cons k ls ih =>
      have htail := ih k fun l hl => h l (List.mem_cons_of_mem _ hl)
      rw [List.intercalate_cons_cons]
      simp [h l List.mem_cons_self, htail]

/-- No line has a carriage return, which is escaped in strings. -/
theorem return_notMem_write (s : ProfileSet) : '\r' ∉ s.write.toList := by
  have hheader : '\r' ∉ "[profiles.".toList ∧ '\r' ∉ "[profiles]\n".toList := by decide +kernel
  have hentry (p : String × String) : '\r' ∉ writeEntry p := by
    simp [writeEntry, Toml.return_notMem_writeKey, Toml.return_notMem_writeString]
  have hentries (ps : List (String × String)) : '\r' ∉ ps.flatMap writeEntry := fun hin =>
    (List.mem_flatMap.1 hin).elim fun p hp => hentry p hp.2
  have hprofile (p : String × PropertyMap) : '\r' ∉ writeProfile p := by
    have hclosing : '\r' ∉ "]\n".toList := by decide +kernel
    unfold writeProfile
    rw [List.mem_append, List.mem_append, List.mem_append, not_or, not_or, not_or]
    exact ⟨⟨⟨hheader.1, Toml.return_notMem_writeKey p.1⟩, hclosing⟩, hentries _⟩
  have hdefault : '\r' ∉ writeDefault s.default := by
    cases s.default with
    | none => exact List.not_mem_nil
    | some name => simp [writeDefault, hentry]
  have hprofiles : '\r' ∉ writeProfiles s.profiles.toList := by
    unfold writeProfiles
    split
    · exact hheader.2
    · refine return_notMem_intercalate fun l hl => ?_
      obtain ⟨p, -, rfl⟩ := List.mem_map.1 hl
      exact hprofile p
  rw [write, String.toList_ofList, List.mem_append, not_or]
  exact ⟨hdefault, hprofiles⟩

/-- A document begins with a bracket, or with the name of an entry. -/
theorem head_write (s : ProfileSet) : ∀ c ∈ s.write.toList.head?, c ≠ '\uFEFF' := by
  have hprofiles : (writeProfiles s.profiles.toList).head? = some '[' := by
    unfold writeProfiles
    split
    · rfl
    · rename_i hne
      obtain ⟨p, ps, hps⟩ := List.exists_cons_of_ne_nil hne
      rw [hps]
      cases ps with
      | nil => rfl
      | cons q ps => rfl
  have hname : (writeKey "default_profile").head? = some 'd' := by decide +kernel
  rw [write, String.toList_ofList]
  cases s.default with
  | none =>
    rw [writeDefault, List.nil_append, hprofiles]
    rintro c ⟨⟩
    decide
  | some name =>
    rw [writeDefault, writeEntry_eq, Toml.entryLine, List.append_assoc, List.append_assoc,
      List.append_assoc, List.append_assoc, List.head?_append, hname]
    rintro c ⟨⟩
    decide

/-! ### The set of a tree -/

/-- What each member of a list was made from is read back. -/
theorem mapM_map_eq_some {α β : Type} {f : α → β} {g : β → Option α} (h : ∀ a, g (f a) = some a)
    (as : List α) : (as.map f).mapM g = some as := by
  induction as with
  | nil => rfl
  | cons a as ih =>
    rw [List.map_cons, List.mapM_cons, h, ih]
    rfl

theorem readProperties_table (m : PropertyMap) (origin : Toml.Origin) :
    readProperties (.table origin (propertyEntries m.toList)) = some m := by
  have hread := mapM_map_eq_some (f := fun p : String × String => (p.1, Node.string p.2))
    (g := fun e => (readText e.2).map fun s => (e.1, s)) (fun _ => rfl) m.toList.reverse
  rw [readProperties, propertyEntries, ← List.map_reverse, hread, Option.map_some,
    NameMap.ofPairs_perm (List.reverse_perm _)]

theorem readProfiles_table (m : NameMap PropertyMap) (origin : Toml.Origin) :
    readProfiles (some (.table origin (profileEntries m.toList))) = some m := by
  have hread (p : String × PropertyMap) : (readProperties
      (.table .header (propertyEntries p.2.toList))).map (fun m => (p.1, m)) = some p := by
    rw [readProperties_table, Option.map_some]
  rw [readProfiles, profileEntries, ← List.map_reverse, mapM_map_eq_some hread, Option.map_some,
    NameMap.ofPairs_perm (List.reverse_perm _)]

/-- The tree of a set is read as the set. -/
theorem ofEntries?_tree (s : ProfileSet) : ofEntries? s.tree = some s := by
  have hdefault : readDefault (s.tree.find? "default_profile") = some s.default := by
    rw [tree, Entries.find?_tail (by decide)]
    cases s.default with
    | none => rfl
    | some name =>
      rw [defaultEntries, Entries.find?_head]
      rfl
  have hprofiles : readProfiles (s.tree.find? "profiles") = some s.profiles := by
    rw [tree, Entries.find?_head, readProfiles_table]
  rw [ofEntries?, hdefault, hprofiles]

/-- A set that was written is read back. -/
theorem read_write (s : ProfileSet) : read s.write = .ok s := by
  obtain ⟨d, hroot, hreads⟩ := readsAs_write (s.write.toList.length + 1) s
  rw [read, Toml.readDocument_of_readsAs (return_notMem_write s) (head_write s) hreads, hroot,
    Option.bind_some, ofEntries?_tree]

end ProfileSet

end OlapClient
