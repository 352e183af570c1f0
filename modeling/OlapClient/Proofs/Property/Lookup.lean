import Mathlib.Data.List.Induction
import OlapClient.Bytes
import OlapClient.Property.NameMap

namespace OlapClient.NameMap

/-!
# Look-ups in maps by name

Every fact about a map is stated through `NameMap.find?`, since two maps with the same look-ups are
equal.

* `find?_insert`, `find?_erase_self`, `find?_erase_of_ne`, `find?_map`, `find?_filter` — look-ups
  after one change.
* `ext_find?`, `insert_eq_self`, `insert_comm` — maps that are equal since their look-ups are.
* `mem_toList_iff`, `nodup_toList` — what a map lists.
* `mem_of_find?_ofPairs`, `find?_ofPairs_last`, `ofPairs_perm`, `ofPairs_toList` — maps that pairs
  spell.
* `find?_override`, `ofPairs_append` — maps that others override.
* `total_insert`, `total_map_le` — the sum of a measure over a map after a change.
-/

variable {α β : Type}

@[simp] theorem find?_empty (name : String) : NameMap.find? (∅ : NameMap α) name = none :=
  Std.ExtTreeMap.getElem?_empty

theorem find?_insert (m : NameMap α) (key name : String) (a : α) :
    NameMap.find? (m.insert key a) name = if key = name then some a else m.find? name := by
  simp only [find?, Std.ExtTreeMap.getElem?_insert, Std.compare_eq_iff_eq]

@[simp] theorem find?_insert_self (m : NameMap α) (name : String) (a : α) :
    NameMap.find? (m.insert name a) name = some a := by
  rw [find?_insert, if_pos rfl]

theorem find?_insert_of_ne (m : NameMap α) {key name : String} (a : α) (h : key ≠ name) :
    NameMap.find? (m.insert key a) name = m.find? name := by
  rw [find?_insert, if_neg h]

@[simp] theorem find?_erase_self (m : NameMap α) (name : String) :
    NameMap.find? (m.erase name) name = none :=
  Std.ExtTreeMap.getElem?_erase_self

theorem find?_erase_of_ne (m : NameMap α) {key name : String} (h : key ≠ name) :
    NameMap.find? (m.erase key) name = m.find? name := by
  simp only [find?, Std.ExtTreeMap.getElem?_erase, Std.compare_eq_iff_eq, if_neg h]

@[simp] theorem find?_map (m : NameMap α) (f : String → α → β) (name : String) :
    NameMap.find? (m.map f) name = (m.find? name).map (f name) :=
  Std.ExtTreeMap.getElem?_map

theorem find?_filter (m : NameMap α) (keep : String → α → Bool) (name : String) :
    NameMap.find? (m.filter keep) name = (m.find? name).filter (keep name) :=
  Std.ExtTreeMap.getElem?_filter'

/-- Maps with the same look-ups are equal. -/
theorem ext_find? {m n : NameMap α} (h : ∀ name, m.find? name = n.find? name) : m = n :=
  Std.ExtTreeMap.ext_getElem? fun name => h name

theorem insert_eq_self {m : NameMap α} {name : String} {a : α} (h : m.find? name = some a) :
    m.insert name a = m := by
  refine ext_find? fun name' => ?_
  rw [find?_insert]
  split
  · rename_i heq
    rw [← heq, h]
  · rfl

/-- Entries of different names may be put in either order. -/
theorem insert_comm (m : NameMap α) {name name' : String} (a a' : α) (h : name ≠ name') :
    (m.insert name a).insert name' a' = (m.insert name' a').insert name a := by
  refine ext_find? fun x => ?_
  simp only [find?_insert]
  by_cases hx : name = x
  · have hx' : name' ≠ x := fun h' => h (hx.trans h'.symm)
    simp [hx, hx']
  · simp [hx]

theorem mem_toList_iff {m : NameMap α} {name : String} {a : α} :
    (name, a) ∈ m.toList ↔ m.find? name = some a :=
  Std.ExtTreeMap.mem_toList_iff_getElem?_eq_some

/-- A map lists no name twice. -/
theorem nodup_toList (m : NameMap α) : (m.toList.map Prod.fst).Nodup := by
  refine List.pairwise_map.2 (m.distinct_keys_toList.imp fun hne heq => hne ?_)
  rw [Std.compare_eq_iff_eq]
  exact heq

theorem mem_iff_find? {m : NameMap α} {name : String} : name ∈ m ↔ ∃ a, m.find? name = some a := by
  rw [Std.ExtTreeMap.mem_iff_isSome_getElem?, Option.isSome_iff_exists]
  rfl

theorem notMem_iff_find? {m : NameMap α} {name : String} : name ∉ m ↔ m.find? name = none := by
  rw [mem_iff_find?, ← Option.isSome_iff_exists, Option.not_isSome_iff_eq_none]

/-- The least name of a map is the first that it lists. -/
theorem minKey?_eq_head? (m : NameMap α) : m.minKey? = m.toList.head?.map Prod.fst := by
  rw [Std.ExtTreeMap.minKey?_eq_head?_keys, ← Std.ExtTreeMap.map_fst_toList_eq_keys, List.head?_map]

/-! ### Pairs -/

theorem ofPairs_concat (ps : List (String × α)) (p : String × α) :
    ofPairs (ps ++ [p]) = (ofPairs ps).insert p.1 p.2 :=
  List.foldl_append

/-- What pairs put into a map is one of them. -/
theorem mem_of_find?_ofPairs {ps : List (String × α)} {name : String} {a : α}
    (h : (ofPairs ps).find? name = some a) : (name, a) ∈ ps := by
  -- from the end, since the pair that is inserted last counts
  induction ps using List.reverseRecOn with
  | nil =>
    rw [ofPairs, List.foldl_nil, find?_empty] at h
    cases h
  | append_singleton ps p ih =>
    rw [ofPairs_concat, find?_insert] at h
    split at h
    · rename_i hname
      cases h
      exact List.mem_append_right ps (List.mem_singleton.2 (Prod.ext hname.symm rfl))
    · exact List.mem_append_left [p] (ih h)

/-- Of the pairs of a name the last one counts. -/
theorem find?_ofPairs_last (ps : List (String × α)) (name : String) :
    (ofPairs ps).find? name = (ps.reverse.find? (·.1 == name)).map Prod.snd := by
  induction ps using List.reverseRecOn with
  | nil => exact find?_empty name
  | append_singleton ps p ih =>
    rw [ofPairs_concat, find?_insert, List.reverse_append, List.reverse_singleton,
      List.singleton_append]
    by_cases hname : p.1 = name
    · have hhit : (p.1 == name) = true := beq_iff_eq.2 hname
      rw [if_pos hname, List.find?_cons, hhit]
      rfl
    · have hskip : (p.1 == name) = false := beq_eq_false_iff_ne.2 hname
      rw [if_neg hname, List.find?_cons, hskip, ih]

/-- Pairs of different names are all put into their map. -/
theorem find?_ofPairs {ps : List (String × α)} (hnodup : (ps.map Prod.fst).Nodup) {name : String}
    {a : α} : (ofPairs ps).find? name = some a ↔ (name, a) ∈ ps := by
  refine ⟨mem_of_find?_ofPairs, fun hin => ?_⟩
  induction ps using List.reverseRecOn with
  | nil => cases hin
  | append_singleton ps p ih =>
    rw [List.map_append, List.nodup_append] at hnodup
    obtain ⟨hbefore, -, hne⟩ := hnodup
    rw [ofPairs_concat, find?_insert]
    rcases List.mem_append.1 hin with hold | hlast
    · have hother : p.1 ≠ name := fun heq =>
        hne name (List.mem_map.2 ⟨_, hold, rfl⟩) p.1 (List.mem_singleton.2 rfl) heq.symm
      rw [if_neg hother]
      exact ih hbefore hold
    · rw [← List.mem_singleton.1 hlast, if_pos rfl]

/-- A map is spelled by what it lists, in any order. -/
theorem ofPairs_perm {m : NameMap α} {ps : List (String × α)} (h : ps.Perm m.toList) :
    ofPairs ps = m := by
  have hnodup : (ps.map Prod.fst).Nodup := (h.map Prod.fst).nodup_iff.2 m.nodup_toList
  refine ext_find? fun name => Option.ext fun a => ?_
  rw [find?_ofPairs hnodup, h.mem_iff, mem_toList_iff]

theorem ofPairs_toList (m : NameMap α) : ofPairs m.toList = m :=
  ofPairs_perm (.refl _)

/-! ### Overriding -/

/-- Inserting pairs into a map puts the map that they spell over it. -/
theorem find?_foldl_insert (m : NameMap α) (ps : List (String × α)) (name : String) :
    find? (ps.foldl (fun m p => m.insert p.1 p.2) m) name =
      ((ofPairs ps).find? name).or (m.find? name) := by
  induction ps using List.reverseRecOn with
  | nil =>
    rw [List.foldl_nil, ofPairs, List.foldl_nil, find?_empty, Option.none_or]
  | append_singleton ps p ih =>
    rw [List.foldl_append, List.foldl_cons, List.foldl_nil, find?_insert, ofPairs_concat,
      find?_insert]
    split
    · rw [Option.some_or]
    · exact ih

/-- The entries of the second map count before those of the first. -/
theorem find?_override (m n : NameMap α) (name : String) :
    (m.override n).find? name = (n.find? name).or (m.find? name) := by
  rw [override, find?_foldl_insert, ofPairs_toList]

/-- Pairs behind others spell a map that overrides theirs. -/
theorem ofPairs_append (ps qs : List (String × α)) :
    ofPairs (ps ++ qs) = (ofPairs ps).override (ofPairs qs) := by
  refine ext_find? fun name => ?_
  rw [find?_override, ← find?_foldl_insert, ofPairs, List.foldl_append, ← ofPairs]

/-! ### Sums -/

/-- A map with an entry put in lists that entry, and what it listed under other names. -/
theorem toList_insert_perm (m : NameMap α) (name : String) (a : α) :
    (m.insert name a).toList.Perm ((name, a) :: m.toList.filter (·.1 != name)) := by
  have hnodup (n : NameMap α) : n.toList.Nodup :=
    (List.pairwise_map.1 (nodup_toList n)).imp fun hne heq => hne (congrArg Prod.fst heq)
  -- both lists have no pair twice, so it is enough that they have the same pairs
  refine (List.perm_ext_iff_of_nodup (hnodup _) ?_).2 fun ⟨x, b⟩ => ?_
  · refine List.nodup_cons.2 ⟨fun h => ?_, (hnodup m).filter _⟩
    simp at h
  · rw [mem_toList_iff, find?_insert, List.mem_cons, List.mem_filter, mem_toList_iff]
    by_cases hx : name = x
    · subst hx
      simp [eq_comm]
    · simp [hx, Ne.symm hx]

theorem total_perm {xs ys : List Nat} (h : xs.Perm ys) : total xs = total ys :=
  h.sum_nat

/-- Putting an entry in changes a sum by the new entry and the one that it replaces. -/
theorem total_insert (m : NameMap α) (measure : α → Nat) (name : String) (a : α) :
    total ((m.insert name a).toList.map (measure ·.2)) + ((m.find? name).map measure).getD 0 =
      total (m.toList.map (measure ·.2)) + measure a := by
  have hnew := total_perm ((toList_insert_perm m name a).map (measure ·.2))
  rw [hnew, List.map_cons]
  cases hf : m.find? name with
  | none =>
    -- no entry is replaced, so all that was listed is under other names
    have hall : m.toList.filter (·.1 != name) = m.toList := by
      rw [List.filter_eq_self]
      rintro ⟨x, b⟩ hx
      rw [mem_toList_iff] at hx
      refine bne_iff_ne.2 ?_
      rintro rfl
      rw [hf] at hx
      cases hx
    rw [hall]
    simp only [total, List.foldr_cons, Option.map_none, Option.getD_none]
    omega
  | some b =>
    -- the map is itself with the replaced entry put in
    have hold := total_perm ((toList_insert_perm m name b).map (measure ·.2))
    rw [insert_eq_self hf, List.map_cons] at hold
    simp only [total, List.foldr_cons, Option.map_some, Option.getD_some] at hold ⊢
    omega

/-- A change that lowers every measure lowers the sum. -/
theorem total_map_le (m : NameMap α) (measure : α → Nat) (f : String → α → α)
    (h : ∀ name a, measure (f name a) ≤ measure a) :
    total ((m.map f).toList.map (measure ·.2)) ≤ total (m.toList.map (measure ·.2)) := by
  rw [Std.ExtTreeMap.toList_map, List.map_map]
  induction m.toList with
  | nil => exact Nat.le_refl _
  | cons x xs ih => exact Nat.add_le_add (h x.1 x.2) ih

end OlapClient.NameMap
