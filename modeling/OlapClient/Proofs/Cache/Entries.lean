import OlapClient.Cache.Memory

namespace OlapClient.Cache

/-!
# Entries of a partition

What the operations of a partition do to its entries. Callers cite these and do not unfold the
operations.

* `Partition.Distinct` — no key is held twice.
* `Partition.lookup_cases` — the three ways in which a look-up ends.
* `Partition.mem_lookup`, `Partition.mem_insert` — which entries there are after an operation.
* `Partition.insert_spec` — an insertion puts its entry in front of entries that were there before,
  and costs none of them while there is room.
* `length_evict`, `Partition.makeRoom_cost`, `Partition.insert_cost` — how many entries an operation
  costs.
* `Within` — an age that a timeout allows.
-/

/-! ### Removing and giving up entries -/

/-- The keys of entries, in their order. -/
def keysOf (entries : List Entry) : List EntryKey :=
  entries.map (·.key)

@[simp] theorem mem_removeKey {key : EntryKey} {entries : List Entry} {e : Entry} :
    e ∈ removeKey key entries ↔ e ∈ entries ∧ e.key ≠ key := by
  rw [removeKey, List.mem_filter, bne_iff_ne]

theorem removeKey_sublist (key : EntryKey) (entries : List Entry) :
    (removeKey key entries).Sublist entries :=
  List.filter_sublist

theorem removeKey_eq_self {key : EntryKey} {entries : List Entry}
    (h : ∀ e ∈ entries, e.key ≠ key) : removeKey key entries = entries := by
  rw [removeKey, List.filter_eq_self]
  intro e he
  exact bne_iff_ne.2 (h e he)

theorem evictOne_sublist (mode : Mode) (entries : List Entry) :
    (evictOne mode entries).Sublist entries := by
  unfold evictOne
  cases victim? mode entries with
  | none => exact List.Sublist.refl entries
  | some e => exact removeKey_sublist e.key entries

/-- An entry and those of other keys are all entries, if no key is held twice. -/
theorem cons_removeKey_perm {entries : List Entry} (h : (keysOf entries).Nodup) {e : Entry}
    (he : e ∈ entries) : (e :: removeKey e.key entries).Perm entries := by
  induction entries with
  | nil => cases he
  | cons x xs ih =>
    rw [keysOf, List.map_cons, List.nodup_cons] at h
    have hother : ∀ y ∈ xs, y.key ≠ x.key := fun y hy heq => h.1 (heq ▸ List.mem_map_of_mem hy)
    rcases List.mem_cons.1 he with rfl | hx
    · have hdrop : removeKey e.key (e :: xs) = xs := by
        rw [removeKey, List.filter_cons_of_neg (by simp)]
        exact removeKey_eq_self hother
      rw [hdrop]
    · have hkeep : removeKey e.key (x :: xs) = x :: removeKey e.key xs := by
        rw [removeKey, List.filter_cons_of_pos (by simpa using (hother e hx).symm)]
        rfl
      rw [hkeep]
      exact (List.Perm.swap x e _).trans ((ih h.2 hx).cons x)

theorem length_removeKey {entries : List Entry} (h : (keysOf entries).Nodup) {e : Entry}
    (he : e ∈ entries) : (removeKey e.key entries).length + 1 = entries.length :=
  (cons_removeKey_perm h he).length_eq

/-- A mode gives up an entry whenever there is one. -/
theorem victim?_eq_none_iff {mode : Mode} {entries : List Entry} :
    victim? mode entries = none ↔ entries = [] := by
  rw [victim?, ← List.reverse_eq_nil_iff]
  cases entries.reverse with
  | nil => simp [Mode.pick]
  | cons e es => simp [Mode.pick]

/-- The entry that a mode gives up is one of the entries. -/
theorem mem_of_victim? {mode : Mode} {entries : List Entry} {e : Entry}
    (h : victim? mode entries = some e) : e ∈ entries := by
  -- of two entries the better one is one of them, so the best is one of all
  have hbest (es : List Entry) (x : Entry) :
      es.foldl (fun best e => if mode.beats e best then e else best) x ∈ x :: es := by
    induction es generalizing x with
    | nil => exact List.mem_cons_self
    | cons y ys ih =>
      rw [List.foldl_cons]
      split
      · exact List.mem_cons_of_mem x (ih y)
      · rcases List.mem_cons.1 (ih x) with heq | hin
        · rw [heq]
          exact List.mem_cons_self
        · exact List.mem_cons_of_mem x (List.mem_cons_of_mem y hin)
  rw [victim?] at h
  rw [← List.mem_reverse]
  cases hes : entries.reverse with
  | nil =>
    rw [hes] at h
    cases h
  | cons x xs =>
    rw [hes] at h
    cases h
    exact hbest xs x

theorem length_evictOne (mode : Mode) {entries : List Entry} (h : (keysOf entries).Nodup) :
    (evictOne mode entries).length = entries.length - 1 := by
  unfold evictOne
  cases hv : victim? mode entries with
  | none => simp [victim?_eq_none_iff.1 hv]
  | some e => simp [← length_removeKey h (mem_of_victim? hv)]

/-- Giving up entries costs as many of them as asked, while there are any. -/
theorem length_evict (mode : Mode) (n : Nat) {entries : List Entry} (h : (keysOf entries).Nodup) :
    (evict mode n entries).length = entries.length - n := by
  induction n generalizing entries with
  | zero => rfl
  | succ n ih =>
    rw [evict, ih (h.sublist ((evictOne_sublist mode entries).map _)), length_evictOne mode h]
    omega

theorem evict_sublist (mode : Mode) (n : Nat) (entries : List Entry) :
    (evict mode n entries).Sublist entries := by
  induction n generalizing entries with
  | zero => exact List.Sublist.refl entries
  | succ n ih => exact (ih _).trans (evictOne_sublist mode entries)

/-! ### Ages -/

/-- An age that a timeout allows. Without a timeout every age is allowed. -/
def Within (timeout : Option Nat) (age : Nat) : Prop :=
  ∀ ms, timeout = some ms → age ≤ ms

instance (timeout : Option Nat) (age : Nat) : Decidable (Within timeout age) :=
  match timeout with
  | none => isTrue (fun _ hms => nomatch hms)
  | some ms => decidable_of_iff (age ≤ ms) (by simp [Within])

theorem Within.mono {timeout : Option Nat} {a b : Nat} (h : Within timeout b) (hab : a ≤ b) :
    Within timeout a :=
  fun ms hms => Nat.le_trans hab (h ms hms)

/-- An entry has expired exactly if its timeout does not allow its age. -/
theorem expired_eq_false_iff (e : Entry) (timeout : Option Nat) (now : Nat) :
    e.expired timeout now = false ↔ Within timeout (now - e.storedAt) := by
  cases timeout with
  | none => simp [Entry.expired, Within]
  | some ms => simp [Entry.expired, Within]

namespace Partition

/-! ### Finding entries -/

/-- No key is held twice. -/
def Distinct (p : Partition) : Prop :=
  (keysOf p.entries).Nodup

theorem mem_of_find? {p : Partition} {key : EntryKey} {e : Entry} (h : p.find? key = some e) :
    e ∈ p.entries ∧ e.key = key :=
  ⟨List.mem_of_find?_eq_some h, by simpa using List.find?_some h⟩

theorem find?_eq_none_iff {p : Partition} {key : EntryKey} :
    p.find? key = none ↔ ∀ e ∈ p.entries, e.key ≠ key := by
  simp [find?]

/-- An entry is found under its key. -/
theorem find?_of_mem {p : Partition} (hp : p.Distinct) {e : Entry} (he : e ∈ p.entries) :
    p.find? e.key = some e := by
  obtain ⟨retention, entries, lastNumber⟩ := p
  simp only [Distinct, find?, keysOf] at *
  -- by induction on the entries: no entry before this one has its key
  induction entries with
  | nil => cases he
  | cons x xs ih =>
    rw [List.map_cons, List.nodup_cons] at hp
    rcases List.mem_cons.1 he with rfl | hx
    · exact List.find?_cons_of_pos (by simp)
    · have hne : x.key ≠ e.key := fun h => hp.1 (h ▸ List.mem_map_of_mem hx)
      rw [List.find?_cons_of_neg (by simpa using hne)]
      exact ih hp.2 hx

/-! ### Look-ups -/

/-- A look-up finds nothing and changes nothing, or drops an expired entry, or counts a hit of the
entry and makes it the most recent. -/
theorem lookup_cases (p : Partition) (now : Nat) (key : EntryKey) :
    (p.find? key = none ∧ p.lookup now key = (.miss, p)) ∨
    (∃ e, p.find? key = some e ∧ ¬ Within p.retention.timeout (now - e.storedAt) ∧
      p.lookup now key = (.expired, { p with entries := removeKey key p.entries })) ∨
    (∃ e, p.find? key = some e ∧ Within p.retention.timeout (now - e.storedAt) ∧
      p.lookup now key = (.hit e.response,
        { p with entries := { e with hits := e.hits + 1 } :: removeKey key p.entries })) := by
  unfold lookup
  cases hf : p.find? key with
  | none => exact .inl ⟨rfl, rfl⟩
  | some e =>
    refine .inr ?_
    have hiff : p.hasExpired now e = false ↔ Within p.retention.timeout (now - e.storedAt) :=
      expired_eq_false_iff e p.retention.timeout now
    by_cases hw : Within p.retention.timeout (now - e.storedAt)
    · have hx : p.hasExpired now e = false := hiff.2 hw
      exact .inr ⟨e, rfl, hw, by simp [hx]⟩
    · have hx : p.hasExpired now e = true := by simpa using mt hiff.1 hw
      exact .inl ⟨e, rfl, hw, by simp [hx]⟩

@[simp] theorem lookup_retention (p : Partition) (now : Nat) (key : EntryKey) :
    (p.lookup now key).2.retention = p.retention := by
  obtain ⟨_, h⟩ | ⟨_, _, _, h⟩ | ⟨_, _, _, h⟩ := lookup_cases p now key <;> rw [h]

/-- A response is found in an entry of the key whose age the timeout allows. -/
theorem lookup_eq_hit {p : Partition} {now : Nat} {key : EntryKey} {response : Bytes}
    (h : Memory.Found.response? (p.lookup now key).1 = some response) :
    ∃ e ∈ p.entries, p.find? key = some e ∧ e.key = key ∧ e.response = response ∧
      Within p.retention.timeout (now - e.storedAt) := by
  obtain ⟨_, heq⟩ | ⟨e, _, _, heq⟩ | ⟨e, hf, hw, heq⟩ := lookup_cases p now key
  · rw [heq] at h
    cases h
  · rw [heq] at h
    cases h
  · rw [heq] at h
    cases h
    obtain ⟨he, hkey⟩ := mem_of_find? hf
    exact ⟨e, he, hf, hkey, rfl, hw⟩

/-- The entries after a look-up were there before it, but for the hits. -/
theorem mem_lookup {p : Partition} {now : Nat} {key : EntryKey} {e' : Entry}
    (h : e' ∈ (p.lookup now key).2.entries) :
    ∃ e ∈ p.entries, ∃ hits, e' = { e with hits } := by
  obtain ⟨_, heq⟩ | ⟨e, _, _, heq⟩ | ⟨e, hf, _, heq⟩ := lookup_cases p now key
  · rw [heq] at h
    exact ⟨e', h, e'.hits, rfl⟩
  · rw [heq] at h
    exact ⟨e', (mem_removeKey.1 h).1, e'.hits, rfl⟩
  · rw [heq] at h
    rcases List.mem_cons.1 h with rfl | hx
    · exact ⟨e, (mem_of_find? hf).1, e.hits + 1, rfl⟩
    · exact ⟨e', (mem_removeKey.1 hx).1, e'.hits, rfl⟩

@[simp] theorem lookup_lastNumber (p : Partition) (now : Nat) (key : EntryKey) :
    (p.lookup now key).2.lastNumber = p.lastNumber := by
  obtain ⟨_, h⟩ | ⟨_, _, _, h⟩ | ⟨_, _, _, h⟩ := lookup_cases p now key <;> rw [h]

/-! ### Insertions -/

theorem purge_entries_sublist (p : Partition) (now : Nat) :
    (p.purge now).entries.Sublist p.entries :=
  List.filter_sublist

theorem makeRoom_entries_sublist (p : Partition) (now : Nat) :
    (p.makeRoom now).2.entries.Sublist p.entries := by
  refine (evict_sublist _ _ _).trans ?_
  split
  · exact purge_entries_sublist p now
  · exact List.Sublist.refl p.entries

/-- A partition that is not full makes room by doing nothing. -/
theorem makeRoom_of_lt {p : Partition} {now : Nat} (h : p.size < p.retention.size) :
    (p.makeRoom now).2 = p := by
  have hcount : min (p.size + 1 - p.retention.size) p.size = 0 := by omega
  simp only [makeRoom, if_neg (Nat.not_le.2 h), hcount, evict]

/-- Without expired entries room is made by giving up entries alone. -/
theorem makeRoom_of_live {p : Partition} {now : Nat} (h : p.purge now = p) :
    p.makeRoom now = (⟨min (p.size + 1 - p.retention.size) p.size, 0⟩,
      ⟨p.retention, evict p.retention.mode (min (p.size + 1 - p.retention.size) p.size) p.entries,
        p.lastNumber⟩) := by
  simp only [makeRoom, h, ite_self, Nat.sub_self]

theorem makeRoom_retention (p : Partition) (now : Nat) :
    (p.makeRoom now).2.retention = p.retention := by
  simp only [makeRoom]
  split <;> rfl

theorem purge_distinct {p : Partition} (hp : p.Distinct) (now : Nat) : (p.purge now).Distinct :=
  hp.sublist ((purge_entries_sublist p now).map _)

/-- Every entry that making room costs is either given up or has expired. Room for one more is left,
however small the partition is. -/
theorem makeRoom_cost {p : Partition} (hp : p.Distinct) (now : Nat) :
    (p.makeRoom now).2.size + (p.makeRoom now).1.evicted + (p.makeRoom now).1.expired = p.size ∧
      (p.makeRoom now).2.size + 1 ≤ max p.retention.size 1 := by
  have hpurge : (p.purge now).size ≤ p.size := (purge_entries_sublist p now).length_le
  simp only [makeRoom]
  split
  · have hlength := length_evict (p.purge now).retention.mode
      (min ((p.purge now).size + 1 - (p.purge now).retention.size) (p.purge now).size)
      (purge_distinct hp now)
    simp only [size] at hlength hpurge ⊢
    have hsame : (p.purge now).retention = p.retention := rfl
    rw [hlength, hsame]
    omega
  · have hlength := length_evict p.retention.mode
      (min (p.size + 1 - p.retention.size) p.size) hp
    simp only [size] at hlength ⊢
    rw [hlength]
    omega

/-- An insertion puts its entry in front of entries of other keys that were there before. All of
them stay while there is room. -/
theorem insert_spec (p : Partition) (now : Nat) (key : EntryKey) (response : Bytes) :
    ∃ kept, (p.insert now key response).2 =
        ⟨p.retention, ⟨key, response, now, 0, p.lastNumber + 1⟩ :: kept, p.lastNumber + 1⟩ ∧
      kept.Sublist (removeKey key p.entries) ∧
      ((removeKey key p.entries).length < p.retention.size → kept = removeKey key p.entries) := by
  cases hf : p.find? key with
  | some e =>
    -- an entry of the key is replaced, which needs no room
    exact ⟨_, by simp [insert, hf], List.Sublist.refl _, fun _ => rfl⟩
  | none =>
    -- a new key makes room first, which costs nothing while the partition is not full
    have hkeep : removeKey key p.entries = p.entries :=
      removeKey_eq_self (find?_eq_none_iff.1 hf)
    refine ⟨(p.makeRoom now).2.entries, ?_, ?_, ?_⟩
    · simp [insert, hf, makeRoom_retention]
    · rw [hkeep]
      exact makeRoom_entries_sublist p now
    · intro h
      rw [hkeep] at h ⊢
      rw [makeRoom_of_lt h]

theorem size_removeKey {p : Partition} (hp : p.Distinct) {key : EntryKey} {e : Entry}
    (hf : p.find? key = some e) : (removeKey key p.entries).length + 1 = p.size := by
  obtain ⟨he, rfl⟩ := mem_of_find? hf
  exact length_removeKey hp he

/-- An insertion adds one entry. What it costs is given up, has expired, or is replaced. -/
theorem insert_cost {p : Partition} (hp : p.Distinct) (now : Nat) (key : EntryKey)
    (response : Bytes) :
    (p.insert now key response).2.size + (p.insert now key response).1.evicted +
      (p.insert now key response).1.expired + (if (p.find? key).isSome then 1 else 0) =
        p.size + 1 := by
  cases hf : p.find? key with
  | some e =>
    have hlength := size_removeKey hp hf
    simp only [insert, hf, Option.isSome_some, if_true, size, List.length_cons] at hlength ⊢
    omega
  | none =>
    have hcost := (makeRoom_cost hp now).1
    simp only [insert, hf, Option.isSome_none, Bool.false_eq_true, if_false, size,
      List.length_cons] at hcost ⊢
    omega

/-- An insertion leaves no more entries than the size admits, or one. -/
theorem insert_size_le {p : Partition} (hp : p.Distinct) (hsize : p.size ≤ max p.retention.size 1)
    (now : Nat) (key : EntryKey) (response : Bytes) :
    (p.insert now key response).2.size ≤ max p.retention.size 1 := by
  cases hf : p.find? key with
  | some e =>
    have hlength := size_removeKey hp hf
    simp only [insert, hf, Option.isSome_some, if_true, size, List.length_cons] at hlength hsize ⊢
    omega
  | none =>
    have hroom := (makeRoom_cost hp now).2
    simp only [insert, hf, Option.isSome_none, Bool.false_eq_true, if_false, size,
      List.length_cons] at hroom ⊢
    exact hroom

@[simp] theorem insert_lastNumber (p : Partition) (now : Nat) (key : EntryKey) (response : Bytes) :
    (p.insert now key response).2.lastNumber = p.lastNumber + 1 := by
  obtain ⟨_, heq, _⟩ := insert_spec p now key response
  rw [heq]

/-- What was just inserted is found. -/
theorem find?_insert_self (p : Partition) (now : Nat) (key : EntryKey) (response : Bytes) :
    (p.insert now key response).2.find? key = some ⟨key, response, now, 0, p.lastNumber + 1⟩ := by
  obtain ⟨kept, heq, _⟩ := insert_spec p now key response
  rw [heq]
  exact List.find?_cons_of_pos (by simp)

/-- The entries after an insertion are the new one and some of other keys from before. -/
theorem mem_insert {p : Partition} {now : Nat} {key : EntryKey} {response : Bytes} {e : Entry}
    (h : e ∈ (p.insert now key response).2.entries) :
    e = ⟨key, response, now, 0, p.lastNumber + 1⟩ ∨ (e ∈ p.entries ∧ e.key ≠ key) := by
  obtain ⟨kept, heq, hsub, _⟩ := insert_spec p now key response
  rw [heq] at h
  rcases List.mem_cons.1 h with rfl | hin
  · exact .inl rfl
  · exact .inr (mem_removeKey.1 (hsub.subset hin))

end Partition

end OlapClient.Cache
