import OlapClient.Proofs.Cache.Expiry
import OlapClient.Proofs.Cache.Victim

namespace OlapClient.Cache

open Location (Url)

/-!
# What a put costs

A put keeps its response. Of all other responses that are alive it costs at most one, and none while
there is room.

* `Partition.bystanders` — the entries that are alive, but for that of a key.
* `Partition.makeRoom_live_cases` — room is made by doing nothing, or by giving up one entry of a
  partition that is full of live ones.
* `Partition.insert_bystanders` — an insertion keeps all bystanders, or all but one.
* `Partition.lookup_insert_self` — what was just inserted is read back.
* `put_costs_at_most_one` — a put that is accepted, after any run of a store.
-/

namespace Partition

variable {p : Partition} {now : Nat} {key : EntryKey}

/-! ### Bystanders -/

/-- The entries that are alive, but for that of a key. -/
def bystanders (p : Partition) (now : Nat) (key : EntryKey) : List Entry :=
  (p.alive now).filter (·.key != key)

/-- The bystanders are what a purge leaves, but for the entry of the key. -/
theorem bystanders_eq (p : Partition) (now : Nat) (key : EntryKey) :
    p.bystanders now key = removeKey key (p.purge now).entries := by
  rw [purge_eq]
  rfl

/-- What has expired does not stand by. -/
theorem bystanders_congr {q : Partition} (h : p.purge now = q.purge now) :
    p.bystanders now key = q.bystanders now key := by
  rw [bystanders_eq, h, bystanders_eq]

/-- An entry of the key does not stand by. -/
theorem bystanders_cons {e : Entry} (he : e.key = key) (retention : Retention)
    (entries : List Entry) (number : Nat) :
    (Partition.mk retention (e :: entries) number).bystanders now key =
      (Partition.mk retention entries number).bystanders now key := by
  have hdrop : removeKey key (e :: entries) = removeKey key entries :=
    List.filter_cons_of_neg (by simp [he])
  simp only [bystanders_eq, removeKey_purge, hdrop]
  rfl

/-- Whether there is an entry of the key or not, the same entries stand by. -/
theorem bystanders_removeKey (p : Partition) (now : Nat) (key : EntryKey) (number : Nat) :
    (Partition.mk p.retention (removeKey key p.entries) number).bystanders now key =
      p.bystanders now key := by
  have hdrop : removeKey key (removeKey key p.entries) = removeKey key p.entries :=
    removeKey_eq_self fun e he => (mem_removeKey.1 he).2
  simp only [bystanders_eq, removeKey_purge, hdrop]
  rfl

/-- Where no entry has expired and none is of the key, all stand by. -/
theorem bystanders_of_live (hlive : p.purge now = p) (hnone : p.find? key = none) :
    p.bystanders now key = p.entries := by
  rw [bystanders_eq, hlive]
  exact removeKey_eq_self (find?_eq_none_iff.1 hnone)

/-! ### Making room -/

/-- Losing entries, a partition in which nothing has expired stays one. -/
theorem purge_of_sublist (hlive : p.purge now = p) {entries : List Entry}
    (hsub : entries.Sublist p.entries) :
    Partition.purge { p with entries } now = { p with entries } := by
  refine congrArg (Partition.mk p.retention · p.lastNumber) (List.filter_eq_self.2 fun e he => ?_)
  have hin : e ∈ (p.purge now).entries := by
    rw [hlive]
    exact hsub.subset he
  rw [Bool.not_eq_true']
  exact (mem_purge.1 hin).2

/-- A partition in which nothing has expired makes room by doing nothing, or gives up one entry since
it is full. -/
theorem makeRoom_live_cases (hp : p.WellFormed) (hlive : p.purge now = p) :
    (p.size ≠ max p.retention.size 1 ∧ p.makeRoom now = (⟨0, 0⟩, p)) ∨
    (p.size = max p.retention.size 1 ∧ ∃ newer e older, p.entries = newer ++ e :: older ∧
      p.makeRoom now = (⟨1, 0⟩, { p with entries := newer ++ older })) := by
  have hbounded := hp.bounded
  by_cases hfull : p.size = max p.retention.size 1
  · -- a full partition has more than no entries, and is one above what it may hold with the next
    have hcount : min (p.size + 1 - p.retention.size) p.size = 1 := by omega
    have hne : p.entries ≠ [] := by
      rw [← List.length_pos_iff]
      show 0 < p.size
      omega
    obtain ⟨newer, e, older, hsplit, hevict, -⟩ := evictOne_spec p.retention.mode hp.keys hne
    refine .inr ⟨hfull, newer, e, older, hsplit, ?_⟩
    rw [makeRoom_of_live hlive, hcount, evict, evict, hevict]
  · exact .inl ⟨hfull, makeRoom_of_spare hlive (by omega)⟩

/-- Room for a new key is made as in the partition without its expired entries. -/
theorem insert_of_new (hnone : p.find? key = none) (now : Nat) (response : Bytes) :
    (p.insert now key response).1.evicted = ((p.purge now).makeRoom now).1.evicted ∧
      (p.insert now key response).2.bystanders now key =
        ((p.purge now).makeRoom now).2.bystanders now key := by
  obtain ⟨hevicted, hroom⟩ := makeRoom_purge p now
  have hinsert : p.insert now key response = ((p.makeRoom now).1,
      ⟨(p.makeRoom now).2.retention, ⟨key, response, now, 0, p.lastNumber + 1⟩ ::
        (p.makeRoom now).2.entries, p.lastNumber + 1⟩) := by
    simp [insert, hnone]
  rw [hinsert]
  refine ⟨hevicted.symm, ?_⟩
  rw [bystanders_cons rfl]
  show (p.makeRoom now).2.bystanders now key = _
  exact bystanders_congr hroom.symm

/-- **An insertion keeps every bystander, or all but one.** It gives one up exactly if its key is new
and the partition is full of entries that are alive. A partition whose size is zero is full with
one. -/
theorem insert_bystanders (hp : p.WellFormed) (now : Nat) (key : EntryKey) (response : Bytes) :
    ∃ (newer older : List Entry) (lost : Option Entry),
      p.bystanders now key = newer ++ lost.toList ++ older ∧
      (p.insert now key response).2.bystanders now key = newer ++ older ∧
      (p.insert now key response).1.evicted = lost.toList.length ∧
      (lost.isSome ↔ p.find? key = none ∧ (p.alive now).length = max p.retention.size 1) := by
  have hsize : (p.alive now).length = (p.purge now).size :=
    congrArg size (purge_eq p now).symm
  rw [hsize]
  cases hf : p.find? key with
  | some e =>
    -- an entry of the key is replaced, which costs nothing
    refine ⟨p.bystanders now key, [], none, by simp, ?_, by simp [insert, hf], by simp⟩
    simp only [insert, hf, Option.isSome_some, if_true, List.append_nil]
    rw [bystanders_cons rfl, bystanders_removeKey]
  | none =>
    -- after the purge nothing has expired and no entry is of the key, so all that is left stands by
    obtain ⟨hevicted, hafter⟩ := insert_of_new hf now response
    have hlive : (p.purge now).purge now = p.purge now := purge_purge p (Nat.le_refl now)
    have hsub (q : Partition) (h : q.entries.Sublist (p.purge now).entries) :
        q.find? key = none := find?_eq_none_iff.2 fun e he =>
      find?_eq_none_iff.1 hf e (mem_purge.1 (h.subset he)).1
    have hbefore : p.bystanders now key = (p.purge now).entries := by
      rw [← bystanders_congr hlive, bystanders_of_live hlive (hsub _ (.refl _))]
    rw [hafter, hevicted, hbefore]
    obtain ⟨hspare, hsame⟩ | ⟨hfull, newer, e, older, hsplit, hgiven⟩ :=
      makeRoom_live_cases (hp.purge now) hlive
    · refine ⟨(p.purge now).entries, [], none, by simp, ?_, by rw [hsame]; rfl, ?_⟩
      · rw [hsame, bystanders_of_live hlive (hsub _ (.refl _)), List.append_nil]
      · exact iff_of_false Bool.false_ne_true fun h => hspare h.2
    · have hless : (newer ++ older).Sublist (p.purge now).entries := by
        rw [hsplit]
        exact (List.sublist_cons_self e older).append_left newer
      refine ⟨newer, older, some e, by simpa using hsplit, ?_, by rw [hgiven]; rfl, ?_⟩
      · rw [hgiven]
        exact bystanders_of_live (purge_of_sublist hlive hless) (hsub _ hless)
      · exact iff_of_true rfl ⟨rfl, hfull⟩

/-- What was just inserted is read back. -/
theorem lookup_insert_self (p : Partition) (now : Nat) (key : EntryKey) (response : Bytes) :
    Memory.Found.response? ((p.insert now key response).2.lookup now key).1 = some response := by
  have hfound := find?_insert_self p now key response
  have hage : (p.insert now key response).2.hasExpired now
      ⟨key, response, now, 0, p.lastNumber + 1⟩ = false := by
    refine (expired_eq_false_iff _ _ _).2 fun ms _ => ?_
    rw [Nat.sub_self]
    exact Nat.zero_le ms
  simp only [lookup, hfound, hage, Bool.false_eq_true, if_false, Memory.Found.response?]

end Partition

/-! ### Puts -/

/-- A put that is accepted is an insertion into the partition of its session. -/
theorem Clocked.step_put_of_stored {s : Clocked} {id : SessionId} {url : Url}
    {request response : Bytes} (h : (s.step (.put id url request response)).1 = .stored) :
    request ≠ [] ∧ ∃ name p, s.store.partition id = .ok (name, p) ∧
      (s.step (.put id url request response)).2 =
        ⟨s.store.afterInsert s.now name p (.of url request) response, s.now⟩ := by
  cases hput : s.store.put s.now id url request response with
  | error e =>
    simp only [step, hput] at h
    cases h
  | ok m =>
    obtain ⟨hr, name, p, hp, rfl⟩ := Memory.put_eq_ok hput
    refine ⟨hr, name, p, hp, ?_⟩
    simp only [step, hput]

/-- After an insertion into a partition, every session of the partition finds what was inserted. -/
theorem Clocked.found_after_insert {m : Memory} {now : Nat} {id : SessionId} {url : Url}
    {request : Bytes} {name : String} (hr : request ≠ [])
    (hname : m.registry.partitionOf id = .ok name) (p : Partition) (response : Bytes) :
    ((Clocked.mk (m.afterInsert now name p (.of url request) response) now).step
      (.get id url request)).1 = .found (some response) := by
  have hp : (m.afterInsert now name p (.of url request) response).partition id =
      .ok (name, (p.insert now (.of url request) response).2) :=
    Memory.partition_eq_ok.2 ⟨hname, NameMap.find?_insert_self _ _ _⟩
  unfold step
  dsimp only
  rw [Memory.get_of_partition hr hp]
  show Outcome.found _ = _
  rw [Partition.lookup_insert_self]

/-- **A put costs at most one response that is alive.** After any run of a store that began without
sessions, a put that is accepted acts on the partition of its session. Every session of that
partition then finds what was put. All other partitions are as they were. In that one, of the entries
that are alive and not of the key, at most one is gone, and the others are as they were, in the same
order. One is gone exactly if no entry of the key was held and the partition was full of entries that
were alive; the size is positive, unless the store was made with a size of zero, which admits one
entry. The count of entries given up grows by the number of those that are gone. -/
theorem put_costs_at_most_one (defaults : Retention) (start : Nat) (ops : List Operation)
    (id : SessionId) (url : Url) (request response : Bytes)
    (h : (((Clocked.fresh defaults start).run ops).step (.put id url request response)).1 =
      .stored) :
    let s := (Clocked.fresh defaults start).run ops
    let t := (s.step (.put id url request response)).2
    let key := EntryKey.of url request
    ∃ name p q, s.store.partition id = .ok (name, p) ∧ t.store.partition id = .ok (name, q) ∧
      (∀ id', s.store.registry.partitionOf id' = .ok name →
        (t.step (.get id' url request)).1 = .found (some response)) ∧
      (∀ name', name' ≠ name →
        t.store.partitions.find? name' = s.store.partitions.find? name') ∧
      (defaults.Made → 1 ≤ p.retention.size) ∧
      ∃ (newer older : List Entry) (lost : Option Entry),
        p.bystanders s.now key = newer ++ lost.toList ++ older ∧
        q.bystanders t.now key = newer ++ older ∧
        (lost.isSome ↔ p.find? key = none ∧ (p.alive s.now).length = max p.retention.size 1) ∧
        t.store.counters.evictions = s.store.counters.evictions + lost.toList.length := by
  intro s t key
  have hs : s.store.WellFormed := Clocked.wellFormed_run (Memory.wellFormed_empty defaults) ops
  obtain ⟨hr, name, p, hp, hstep⟩ := Clocked.step_put_of_stored h
  have ht : t = ⟨s.store.afterInsert s.now name p key response, s.now⟩ := hstep
  obtain ⟨hname, hf⟩ := Memory.partition_eq_ok.1 hp
  obtain ⟨newer, older, lost, hbefore, hafter, hevicted, hlost⟩ :=
    Partition.insert_bystanders (hs.partitions name p hf) s.now key response
  rw [ht]
  refine ⟨name, p, (p.insert s.now key response).2, hp, ?_, fun id' hid' => ?_, fun name' hne => ?_,
    fun hmade => ?_, newer, older, lost, hbefore, hafter, hlost, ?_⟩
  · exact Memory.partition_eq_ok.2 ⟨hname, NameMap.find?_insert_self _ _ _⟩
  · exact Clocked.found_after_insert hr hid' p response
  · exact NameMap.find?_insert_of_ne _ _ hne.symm
  · obtain ⟨_, op, _, _, _, hask⟩ := Clocked.exists_creates defaults start ops hf
    exact Operation.retention?_size_pos hmade.size_pos hask
  · rw [← hevicted]
    rfl

/-- Room for three entries, of which the first has expired. The fourth put drops it and gives up
nothing. The fifth gives up the fourth, which was put last, and a session of the same name finds the
fifth. -/
theorem put_costs_at_most_one_newest :
    let cache : PropertyMap := ((((∅ : PropertyMap).insert "Size" "3").insert "Timeout" "1").insert
      "Mode" "LIFO").insert "Name" "team"
    let url : Url := ⟨"http", none, .segments [[]], none, none⟩
    let put (byte : UInt8) : Operation := .put ⟨"s1-a"⟩ url [byte] [byte]
    let ops : List Operation := [.configure "a" ∅ cache, .configure "b" ∅ cache, put 1, .sleep 600,
      put 2, .sleep 600, put 3, put 4]
    let s := (Clocked.fresh .standard 0).run ops
    let t := (s.step (put 5)).2
    let entry (byte : UInt8) (storedAt number : Nat) : Entry :=
      ⟨.of url [byte], [byte], storedAt, 0, number⟩
    (s.step (put 5)).1 = .stored ∧ (t.step (.get ⟨"s2-b"⟩ url [5])).1 = .found (some [5]) ∧
      s.store.counters.evictions = 0 ∧ t.store.counters.evictions = 1 ∧
      ∃ p q, s.store.partition ⟨"s1-a"⟩ = .ok ("named:team", p) ∧
        t.store.partition ⟨"s1-a"⟩ = .ok ("named:team", q) ∧
        p.bystanders s.now (.of url [5]) = [entry 4 1200 4, entry 3 1200 3, entry 2 600 2] ∧
        q.bystanders t.now (.of url [5]) = [entry 3 1200 3, entry 2 600 2] := by
  intro cache url put ops s t entry
  have hstored : (s.step (put 5)).1 = .stored := by decide +kernel
  obtain ⟨name, p, q, hp, -, hget, -⟩ :=
    put_costs_at_most_one .standard 0 ops ⟨"s1-a"⟩ url [5] [5] hstored
  -- which partitions these are is read off the run
  have hp' : s.store.partition ⟨"s1-a"⟩ = .ok ("named:team", ⟨⟨3, some 1000, .lifo⟩,
      [entry 4 1200 4, entry 3 1200 3, entry 2 600 2], 4⟩) := by
    decide +kernel
  have hq' : t.store.partition ⟨"s1-a"⟩ = .ok ("named:team", ⟨⟨3, some 1000, .lifo⟩,
      [entry 5 1200 5, entry 3 1200 3, entry 2 600 2], 5⟩) := by
    decide +kernel
  obtain ⟨rfl, rfl⟩ := Prod.mk.inj (Except.ok.inj (hp.symm.trans hp'))
  have hnone : s.store.counters.evictions = 0 := by decide +kernel
  have hfound : (t.step (.get ⟨"s2-b"⟩ url [5])).1 = .found (some [5]) := by
    apply hget
    decide +kernel
  have hone : t.store.counters.evictions = 1 := by decide +kernel
  have hnow : s.now = 1200 := by decide +kernel
  have hnow' : t.now = 1200 := by decide +kernel
  refine ⟨hstored, hfound, hnone, hone, _, _, hp', hq', ?_, ?_⟩
  · rw [hnow]
    decide +kernel
  · rw [hnow']
    decide +kernel

end OlapClient.Cache
