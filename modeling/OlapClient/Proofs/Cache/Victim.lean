import Mathlib.Data.List.Nodup
import OlapClient.Proofs.Cache.Entries

namespace OlapClient.Cache

/-!
# The entry that is given up

Every mode compares one number of the entries. The scan for the entry that is given up goes from the
least recently used on, and keeps the first of those for which that number is the least.

* `Mode.rank` — the number that a mode compares.
* `Mode.scan_spec`, `victim?_spec` — the entry that is given up has the least rank, and all that were
  used less recently have a greater one.
* `evictOne_spec` — that entry is taken out, and the others stay as they are.
* `evictOne_lru` — the least recently used entry is the last.
-/

/-! ### Ranks -/

/-- What a mode compares: of two entries the one of the smaller rank is given up. -/
def Mode.rank (mode : Mode) (e : Entry) : Int :=
  match mode with
  | .lru => 0
  | .lfu => e.hits
  | .mfu => -e.hits
  | .fifo => e.number
  | .lifo => -e.number

theorem Mode.beats_iff (mode : Mode) (e other : Entry) :
    mode.beats e other = true ↔ mode.rank e < mode.rank other := by
  cases mode with
  | lru => simp [beats, rank]
  | lfu => simp [beats, rank]
  | mfu => simp only [beats, rank, decide_eq_true_eq]; omega
  | fifo => simp [beats, rank]
  | lifo => simp only [beats, rank, decide_eq_true_eq]; omega

/-- An entry whose rank is not greater than those before it and after it has the least rank of all. -/
theorem Mode.rank_le_of_split {mode : Mode} {before after : List Entry} {e : Entry}
    (hbefore : ∀ x ∈ before, mode.rank e ≤ mode.rank x)
    (hafter : ∀ x ∈ after, mode.rank e ≤ mode.rank x) :
    ∀ x ∈ before ++ e :: after, mode.rank e ≤ mode.rank x := by
  intro x hx
  rcases List.mem_append.1 hx with hin | hin
  · exact hbefore x hin
  · rcases List.mem_cons.1 hin with rfl | hin
    · exact Int.le_refl _
    · exact hafter x hin

/-- **The scan keeps the first of the best entries.** All entries before it have a greater rank, and
none after it has a smaller one. -/
theorem Mode.scan_spec {mode : Mode} {es : List Entry} {x best : Entry}
    (h : es.foldl (fun best e => if mode.beats e best then e else best) x = best) :
    ∃ before after, x :: es = before ++ best :: after ∧
      (∀ y ∈ before, mode.rank best < mode.rank y) ∧
      ∀ y ∈ after, mode.rank best ≤ mode.rank y := by
  induction es generalizing x with
  | nil =>
    obtain rfl : x = best := h
    exact ⟨[], [], rfl, by simp, by simp⟩
  | cons y ys ih =>
    rw [List.foldl_cons] at h
    by_cases hbeats : mode.beats y x = true
    · -- the scan goes on from the new entry, so what it ends with is no worse, and better than `x`
      rw [if_pos hbeats] at h
      rw [beats_iff] at hbeats
      obtain ⟨before, after, hsplit, hbefore, hafter⟩ := ih h
      have hbest : mode.rank best ≤ mode.rank y := by
        apply rank_le_of_split (fun z hz => Int.le_of_lt (hbefore z hz)) hafter
        rw [← hsplit]
        exact List.mem_cons_self
      refine ⟨x :: before, after, by rw [hsplit, List.cons_append], ?_, hafter⟩
      intro z hz
      rcases List.mem_cons.1 hz with rfl | hin
      · exact Int.lt_of_le_of_lt hbest hbeats
      · exact hbefore z hin
    · -- the scan goes on from `x`, and the new entry takes its place behind it
      rw [if_neg hbeats] at h
      rw [beats_iff, Int.not_lt] at hbeats
      obtain ⟨before, after, hsplit, hbefore, hafter⟩ := ih h
      rcases before with - | ⟨b, before⟩
      · obtain ⟨rfl, rfl⟩ := List.cons.inj hsplit
        refine ⟨[], y :: ys, rfl, by simp, ?_⟩
        intro z hz
        rcases List.mem_cons.1 hz with rfl | hin
        · exact hbeats
        · exact hafter z hin
      · obtain ⟨rfl, rfl⟩ := List.cons.inj hsplit
        have hx : mode.rank best < mode.rank x := hbefore x List.mem_cons_self
        refine ⟨x :: y :: before, after, rfl, ?_, hafter⟩
        intro z hz
        simp only [List.mem_cons] at hz
        rcases hz with rfl | rfl | hin
        · exact hx
        · exact Int.lt_of_lt_of_le hx hbeats
        · exact hbefore z (List.mem_cons_of_mem x hin)

/-- The entry that is given up has the least rank, and entries that were used less recently have a
greater one. -/
theorem victim?_spec {mode : Mode} {entries : List Entry} {e : Entry}
    (h : victim? mode entries = some e) :
    ∃ newer older, entries = newer ++ e :: older ∧
      (∀ x ∈ newer, mode.rank e ≤ mode.rank x) ∧ ∀ x ∈ older, mode.rank e < mode.rank x := by
  rw [victim?] at h
  rcases hes : entries.reverse with - | ⟨x, es⟩
  · rw [hes] at h
    cases h
  · rw [hes] at h
    obtain ⟨before, after, hsplit, hbefore, hafter⟩ := Mode.scan_spec (Option.some.inj h)
    refine ⟨after.reverse, before.reverse, ?_, ?_, ?_⟩
    · apply List.reverse_injective
      rw [hes, hsplit]
      simp
    · intro y hy
      exact hafter y (List.mem_reverse.1 hy)
    · intro y hy
      exact hbefore y (List.mem_reverse.1 hy)

/-! ### Taking it out -/

/-- Of entries that differ in something, those around one of them differ from it. -/
theorem ne_of_split {α : Type} {f : Entry → α} {newer older : List Entry} {e : Entry}
    (h : ((newer ++ e :: older).map f).Nodup) : ∀ x ∈ newer ++ older, f x ≠ f e := by
  intro x hx heq
  rw [List.map_append, List.map_cons, List.nodup_middle, List.nodup_cons, ← List.map_append] at h
  exact h.1 (heq ▸ List.mem_map_of_mem hx)

/-- Without its entry of a key, a list in which no key is held twice is what stands around it. -/
theorem removeKey_of_split {newer older : List Entry} {e : Entry}
    (h : (keysOf (newer ++ e :: older)).Nodup) :
    removeKey e.key (newer ++ e :: older) = newer ++ older := by
  calc removeKey e.key (newer ++ e :: older)
      = removeKey e.key newer ++ removeKey e.key (e :: older) := List.filter_append ..
    _ = removeKey e.key newer ++ removeKey e.key older := by
        rw [removeKey, removeKey, removeKey, List.filter_cons_of_neg (by simp)]
    _ = removeKey e.key (newer ++ older) := (List.filter_append ..).symm
    _ = newer ++ older := removeKey_eq_self (ne_of_split h)

/-- **One entry is taken out, and the others stay as they are.** It has the least rank, and is the
least recently used of those that have it. -/
theorem evictOne_spec (mode : Mode) {entries : List Entry} (hkeys : (keysOf entries).Nodup)
    (hne : entries ≠ []) :
    ∃ newer e older, entries = newer ++ e :: older ∧ evictOne mode entries = newer ++ older ∧
      (∀ x ∈ newer, mode.rank e ≤ mode.rank x) ∧ ∀ x ∈ older, mode.rank e < mode.rank x := by
  obtain ⟨e, he⟩ := Option.ne_none_iff_exists'.1 (mt victim?_eq_none_iff.1 hne)
  obtain ⟨newer, older, rfl, hnewer, holder⟩ := victim?_spec he
  refine ⟨newer, e, older, rfl, ?_, hnewer, holder⟩
  simp only [evictOne, he]
  exact removeKey_of_split hkeys

/-- The least recently used entry is the last. -/
theorem evictOne_lru {entries : List Entry} (hkeys : (keysOf entries).Nodup) :
    evictOne .lru entries = entries.dropLast := by
  rcases entries with - | ⟨x, es⟩
  · rfl
  · obtain ⟨newer, e, older, hsplit, hevict, -, holder⟩ :=
      evictOne_spec .lru hkeys (List.cons_ne_nil x es)
    rcases older with - | ⟨y, older⟩
    · rw [hevict, hsplit, List.append_nil, List.dropLast_concat]
    · exact absurd (holder y List.mem_cons_self) (Int.lt_irrefl 0)

end OlapClient.Cache
