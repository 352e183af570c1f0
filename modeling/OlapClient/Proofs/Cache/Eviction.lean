import OlapClient.Proofs.Cache.Recency

namespace OlapClient.Cache

open Location (Url)

/-!
# Eviction

The entry of the least rank in the terms of each mode: by use, by hits, and by puts.

* `Mode.GivesUp` — an entry is the right one, of those that were used after it and before it.
* `Partition.Traces.pairwise_touched`, `Partition.Traces.number_lt_iff` — what the order of entries
  and their numbers mean in a partition's history.
* `right_entry_given_up` — every mode gives up one entry, which is the right one.
-/

/-! ### The right entry -/

/-- An entry is the one that a mode gives up, of the entries used after it and before it: the least
recently used; one with the fewest or with the most hits, and the least recently used of those; or
the one that was put first or last. -/
def Mode.GivesUp (newer : List Entry) (e : Entry) (older : List Entry) : Mode → Prop
  | .lru => older = []
  | .lfu => (∀ x ∈ newer, e.hits ≤ x.hits) ∧ ∀ x ∈ older, e.hits < x.hits
  | .mfu => (∀ x ∈ newer, x.hits ≤ e.hits) ∧ ∀ x ∈ older, x.hits < e.hits
  | .fifo => ∀ x ∈ newer ++ older, e.number < x.number
  | .lifo => ∀ x ∈ newer ++ older, x.number < e.number

/-- The entry of the least rank is the right one, if no two entries have one number. -/
theorem Mode.givesUp_of_rank {mode : Mode} {newer older : List Entry} {e : Entry}
    (hnumbers : ((newer ++ e :: older).map (·.number)).Nodup)
    (hnewer : ∀ x ∈ newer, mode.rank e ≤ mode.rank x)
    (holder : ∀ x ∈ older, mode.rank e < mode.rank x) : mode.GivesUp newer e older := by
  have hleast : ∀ x ∈ newer ++ older, mode.rank e ≤ mode.rank x := by
    intro x hx
    apply rank_le_of_split hnewer fun y hy => Int.le_of_lt (holder y hy)
    exact (List.sublist_cons_self e older).append_left newer |>.subset hx
  have hother := ne_of_split hnumbers
  cases mode with
  | lru =>
    -- an entry that was used less recently would have a greater rank, but all have the same
    refine List.eq_nil_iff_forall_not_mem.2 fun x hx => ?_
    exact absurd (holder x hx) (Int.lt_irrefl 0)
  | lfu => exact ⟨fun x hx => Int.ofNat_le.1 (hnewer x hx), fun x hx => Int.ofNat_lt.1 (holder x hx)⟩
  | mfu =>
    refine ⟨fun x hx => ?_, fun x hx => ?_⟩
    · have := hnewer x hx
      simp only [rank] at this
      omega
    · have := holder x hx
      simp only [rank] at this
      omega
  | fifo =>
    intro x hx
    have hle := hleast x hx
    have hne := hother x hx
    simp only [rank] at hle
    omega
  | lifo =>
    intro x hx
    have hle := hleast x hx
    have hne := hother x hx
    simp only [rank] at hle
    omega

/-! ### What order and numbers mean -/

namespace Partition.Traces

variable {p : Partition} {log : List Touch}

/-- Entries are in the order of their latest touches. -/
theorem pairwise_touched (h : p.Traces log) :
    (keysOf p.entries).Pairwise fun key key' =>
      (keysTouched log).idxOf key < (keysTouched log).idxOf key' :=
  (pairwise_recent (keysTouched log)).sublist h.order

/-- Of two entries the one of the smaller number is the one whose latest put is older. -/
theorem number_lt_iff (h : p.Traces log) {e x : Entry} (he : e ∈ p.entries) (hx : x ∈ p.entries) :
    e.number < x.number ↔ (keysOfPuts log).idxOf x.key < (keysOfPuts log).idxOf e.key := by
  have hnumber := (h.numbered e he).2
  have hnumber' := (h.numbered x hx).2
  omega

end Partition.Traces

/-- **The right entry is given up.** Without entries there is none to give up. Of entries that have
different keys and numbers, every mode takes one out and leaves the others as they are, in their
order: the least recently used; one with the fewest or the most hits, and of those the least recently
used; or the one with the least or the greatest number. In every partition of a run keys and numbers
are different, entries are in the order of their latest touches, and of two numbers the smaller is
that of the entry whose latest put is older. -/
theorem right_entry_given_up :
    (∀ mode, evictOne mode [] = []) ∧
    (∀ mode entries, (keysOf entries).Nodup → (entries.map (·.number)).Nodup → entries ≠ [] →
      ∃ newer e older, entries = newer ++ e :: older ∧ evictOne mode entries = newer ++ older ∧
        mode.GivesUp newer e older) ∧
    ∀ defaults start ops name p,
      ((Clocked.fresh defaults start).run ops).store.partitions.find? name = some p →
      let log := (Clocked.fresh defaults start).touches name [] ops
      (keysOf p.entries).Nodup ∧ (p.entries.map (·.number)).Nodup ∧
      ((keysOf p.entries).Pairwise fun key key' =>
        (keysTouched log).idxOf key < (keysTouched log).idxOf key') ∧
      ∀ e ∈ p.entries, ∀ x ∈ p.entries, e.key ∈ keysOfPuts log ∧
        (e.number < x.number ↔ (keysOfPuts log).idxOf x.key < (keysOfPuts log).idxOf e.key) := by
  refine ⟨fun mode => rfl, fun mode entries hkeys hnumbers hne => ?_, ?_⟩
  · obtain ⟨newer, e, older, rfl, hevict, hnewer, holder⟩ := evictOne_spec mode hkeys hne
    exact ⟨newer, e, older, rfl, hevict, Mode.givesUp_of_rank hnumbers hnewer holder⟩
  · intro defaults start ops name p hp log
    have h : p.Traces log :=
      (Clocked.traces_run (Clocked.traces_fresh name defaults start) ops).held p hp
    refine ⟨h.wellFormed.keys, h.wellFormed.numbers, h.pairwise_touched, fun e he x hx => ?_⟩
    exact ⟨(h.numbered e he).1, h.number_lt_iff he hx⟩

/-- Of three entries two have no hits. The one that was put first goes, since it was used less
recently. -/
theorem right_entry_given_up_fewest_hits :
    let cache : PropertyMap := ((∅ : PropertyMap).insert "Size" "3").insert "Mode" "LFU"
    let url : Url := ⟨"http", none, .segments [[]], none, none⟩
    let id : SessionId := ⟨"s1-a"⟩
    let ops : List Operation :=
      [.configure "a" ∅ cache, .put id url [1] [1], .put id url [2] [2], .put id url [3] [3],
        .get id url [2]]
    let log := (Clocked.fresh .standard 0).touches "session:s1-a" [] ops
    let one : Entry := ⟨.of url [1], [1], 0, 0, 1⟩
    let two : Entry := ⟨.of url [2], [2], 0, 1, 2⟩
    let three : Entry := ⟨.of url [3], [3], 0, 0, 3⟩
    ∃ p, ((Clocked.fresh .standard 0).run ops).store.partitions.find? "session:s1-a" = some p ∧
      p.entries = [two, three, one] ∧ p.retention.mode = .lfu ∧
      evictOne .lfu p.entries = [two, three] ∧
      (∃ newer e older, p.entries = newer ++ e :: older ∧
        evictOne .lfu p.entries = newer ++ older ∧ Mode.lfu.GivesUp newer e older) ∧
      (one.number < three.number ↔
        (keysOfPuts log).idxOf three.key < (keysOfPuts log).idxOf one.key) := by
  intro cache url id ops log one two three
  obtain ⟨-, hevict, hrun⟩ := right_entry_given_up
  have hp : ((Clocked.fresh .standard 0).run ops).store.partitions.find? "session:s1-a" =
      some ⟨⟨3, some 300000, .lfu⟩, [two, three, one], 3⟩ := by
    decide +kernel
  obtain ⟨hkeys, hnumbers, -, hmeaning⟩ := hrun .standard 0 ops "session:s1-a" _ hp
  refine ⟨_, hp, rfl, rfl, by decide +kernel, hevict .lfu _ hkeys hnumbers (by simp), ?_⟩
  exact (hmeaning one (by simp) three (by simp)).2

end OlapClient.Cache
