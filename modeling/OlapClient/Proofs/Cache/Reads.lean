import OlapClient.Proofs.Cache.Expiry
import OlapClient.Proofs.Cache.Victim

namespace OlapClient.Cache

open Location (Url)

/-!
# Reads

A read moves an entry to the front, counts a hit, or drops what has expired. Where entries are given
up in the order of puts, none of this can be noticed.

* `Mode.ByPuts` — entries are given up in the order of puts, or in the opposite order.
* `Rearranged` — the same entries, but for their order and their hits.
* `Rearranged.evict` — by puts, the same entries are given up of both.
* `Partition.live?` — the response of a key that is held and has not expired.
* `Partition.Resembles` — two partitions hold the same, but for what a read may change.
* `Partition.Resembles.act` — a call does the same to both, and keeps them so.
* `Clocked.Similar.step`, `Clocked.Reads.similar` — every operation keeps stores similar, and a read
  leaves a store similar to what it was.
* `reads_leave_no_trace` — reads may be left out of any run.
-/

/-! ### Rearranged entries -/

/-- Entries are given up in the order of puts, or in the opposite order. -/
def Mode.ByPuts (mode : Mode) : Prop :=
  mode = .fifo ∨ mode = .lifo

/-- An entry without its count of reads. -/
def Entry.unread (e : Entry) : Entry :=
  { e with hits := 0 }

theorem Entry.unread_eq_iff {e f : Entry} :
    e.unread = f.unread ↔
      e.key = f.key ∧ e.response = f.response ∧ e.storedAt = f.storedAt ∧ e.number = f.number := by
  simp [unread]

/-- The same entries, but for their order and their hits. -/
def Rearranged (es fs : List Entry) : Prop :=
  (es.map Entry.unread).Perm (fs.map Entry.unread)

namespace Mode.ByPuts

variable {mode : Mode} {e f : Entry}

/-- Hits do not count. -/
theorem rank_congr (h : mode.ByPuts) (heq : e.unread = f.unread) : mode.rank e = mode.rank f := by
  obtain ⟨-, -, -, hnumber⟩ := Entry.unread_eq_iff.1 heq
  rcases h with rfl | rfl <;> simp only [rank, hnumber]

/-- An entry's number is all that counts. -/
theorem number_eq (h : mode.ByPuts) (heq : mode.rank e = mode.rank f) : e.number = f.number := by
  rcases h with rfl | rfl <;> simp only [rank] at heq <;> omega

end Mode.ByPuts

/-- The entry that is given up and the others are all entries. -/
theorem evictOne_perm (mode : Mode) {entries : List Entry} (hkeys : (keysOf entries).Nodup)
    (hne : entries ≠ []) :
    ∃ e, (e :: evictOne mode entries).Perm entries ∧ ∀ x ∈ entries, mode.rank e ≤ mode.rank x := by
  obtain ⟨newer, e, older, rfl, hevict, hnewer, holder⟩ := evictOne_spec mode hkeys hne
  refine ⟨e, hevict ▸ List.perm_middle.symm, ?_⟩
  exact Mode.rank_le_of_split hnewer fun x hx => Int.le_of_lt (holder x hx)

namespace Rearranged

variable {es fs gs : List Entry}

theorem refl (es : List Entry) : Rearranged es es :=
  List.Perm.refl _

theorem symm (h : Rearranged es fs) : Rearranged fs es :=
  List.Perm.symm h

theorem trans (h : Rearranged es fs) (h' : Rearranged fs gs) : Rearranged es gs :=
  List.Perm.trans h h'

theorem length_eq (h : Rearranged es fs) : es.length = fs.length := by
  simpa using List.Perm.length_eq h

theorem exists_unread (h : Rearranged es fs) {e : Entry} (he : e ∈ es) :
    ∃ f ∈ fs, f.unread = e.unread :=
  List.mem_map.1 ((List.Perm.mem_iff h).1 (List.mem_map_of_mem he))

theorem cons (h : Rearranged es fs) {e f : Entry} (heq : e.unread = f.unread) :
    Rearranged (e :: es) (f :: fs) := by
  unfold Rearranged
  rw [List.map_cons, List.map_cons, heq]
  exact List.Perm.cons f.unread h

/-- Entries may be chosen by anything but their hits. -/
theorem filter (h : Rearranged es fs) {keep : Entry → Bool}
    (hkeep : ∀ e, keep e.unread = keep e) : Rearranged (es.filter keep) (fs.filter keep) := by
  have hmap (l : List Entry) :
      (l.filter keep).map Entry.unread = (l.map Entry.unread).filter keep := by
    rw [List.filter_map]
    exact congrArg (List.map Entry.unread) (List.filter_congr fun e _ => (hkeep e).symm)
  unfold Rearranged
  rw [hmap, hmap]
  exact List.Perm.filter keep h

/-- By puts, the same entry is given up. -/
theorem evictOne (h : Rearranged es fs) {mode : Mode} (hmode : mode.ByPuts)
    (hkeys : (keysOf es).Nodup) (hkeys' : (keysOf fs).Nodup) (hnumbers : (es.map (·.number)).Nodup) :
    Rearranged (evictOne mode es) (Cache.evictOne mode fs) := by
  rcases eq_or_ne es [] with rfl | hne
  · obtain rfl : fs = [] := List.length_eq_zero_iff.1 h.length_eq.symm
    exact refl []
  · have hne' : fs ≠ [] := by
      rintro rfl
      exact hne (List.length_eq_zero_iff.1 h.length_eq)
    obtain ⟨e, hperm, hleast⟩ := evictOne_perm mode hkeys hne
    obtain ⟨f, hperm', hleast'⟩ := evictOne_perm mode hkeys' hne'
    have he : e ∈ es := hperm.subset List.mem_cons_self
    have hf : f ∈ fs := hperm'.subset List.mem_cons_self
    -- each has a counterpart among the other entries, so both have the least number of all
    obtain ⟨e', he', heq⟩ := h.symm.exists_unread hf
    obtain ⟨f', hf', heq'⟩ := h.exists_unread he
    have hrank : mode.rank e = mode.rank e' := by
      apply Int.le_antisymm (hleast e' he')
      calc mode.rank e' = mode.rank f := hmode.rank_congr heq
        _ ≤ mode.rank f' := hleast' f' hf'
        _ = mode.rank e := hmode.rank_congr heq'
    obtain rfl : e = e' :=
      List.inj_on_of_nodup_map hnumbers he he' (hmode.number_eq hrank)
    have hall : ((e :: Cache.evictOne mode es).map Entry.unread).Perm
        ((f :: Cache.evictOne mode fs).map Entry.unread) :=
      (hperm.map _).trans (List.Perm.trans h (hperm'.map _).symm)
    rw [List.map_cons, List.map_cons, heq] at hall
    exact hall.cons_inv

/-- **By puts, the same entries are given up.** -/
theorem evict (h : Rearranged es fs) {mode : Mode} (hmode : mode.ByPuts)
    (hkeys : (keysOf es).Nodup) (hkeys' : (keysOf fs).Nodup) (hnumbers : (es.map (·.number)).Nodup)
    (n : Nat) : Rearranged (evict mode n es) (Cache.evict mode n fs) := by
  induction n generalizing es fs with
  | zero => exact h
  | succ n ih =>
    have hsub := evictOne_sublist mode es
    have hsub' := evictOne_sublist mode fs
    exact ih (h.evictOne hmode hkeys hkeys' hnumbers) (hkeys.sublist (hsub.map _))
      (hkeys'.sublist (hsub'.map _)) (hnumbers.sublist (hsub.map _))

end Rearranged

/-! ### Partitions that resemble each other -/

namespace Partition

/-- The response of a key, if it is held and has not expired. -/
def live? (p : Partition) (now : Nat) (key : EntryKey) : Option Bytes :=
  ((p.find? key).filter (!p.hasExpired now ·)).map (·.response)

variable {p q r : Partition} {now : Nat} {key : EntryKey}

theorem live?_eq (hp : p.Distinct) (now : Nat) (key : EntryKey) :
    p.live? now key = ((p.purge now).find? key).map (·.response) := by
  obtain ⟨hf, hf'⟩ | ⟨e, hf, hx, hf'⟩ | ⟨e, hf, hx, hf'⟩ := find?_purge_cases hp now key <;>
    simp [live?, *]

theorem lookup_response (p : Partition) (now : Nat) (key : EntryKey) :
    Memory.Found.response? (p.lookup now key).1 = p.live? now key := by
  unfold lookup live?
  cases p.find? key with
  | none => rfl
  | some e => cases hx : p.hasExpired now e <;> simp [hx, Memory.Found.response?, Option.filter]

theorem contains_eq (p : Partition) (now : Nat) (key : EntryKey) :
    p.contains now key = (p.live? now key).isSome := by
  unfold contains live?
  cases p.find? key with
  | none => rfl
  | some e => cases hx : p.hasExpired now e <;> simp [hx, Option.filter]

theorem rearranged_purge (hretention : p.retention = q.retention)
    (h : Rearranged p.entries q.entries) (now : Nat) :
    Rearranged (p.purge now).entries (q.purge now).entries := by
  have hsame : q.hasExpired now = p.hasExpired now := by
    funext e
    rw [hasExpired, hasExpired, hretention]
  simp only [purge, hsame]
  exact h.filter fun e => rfl

/-- Under a key the same is found. -/
theorem rearranged_find? (hq : q.Distinct)
    (h : Rearranged p.entries q.entries) (key : EntryKey) :
    (p.find? key).map Entry.unread = (q.find? key).map Entry.unread := by
  cases hf : p.find? key with
  | none =>
    have hnone : q.find? key = none := by
      refine find?_eq_none_iff.2 fun f hin hkey => ?_
      obtain ⟨e, he, heq⟩ := h.symm.exists_unread hin
      exact find?_eq_none_iff.1 hf e he ((Entry.unread_eq_iff.1 heq).1.trans hkey)
    rw [hnone]
  | some e =>
    obtain ⟨he, rfl⟩ := mem_of_find? hf
    obtain ⟨f, hin, heq⟩ := h.exists_unread he
    have hf' := find?_of_mem hq hin
    rw [(Entry.unread_eq_iff.1 heq).1] at hf'
    rw [hf', Option.map_some, Option.map_some, heq]

/-- Two partitions hold the same, but for what has expired. Where entries are given up by puts, their
order and their hits may differ too. -/
structure Resembles (now : Nat) (p q : Partition) : Prop where
  retention : p.retention = q.retention
  lastNumber : p.lastNumber = q.lastNumber
  live : Rearranged (p.purge now).entries (q.purge now).entries
  strict : ¬ p.retention.mode.ByPuts → p.purge now = q.purge now

namespace Resembles

theorem of_purge_eq (h : p.purge now = q.purge now) : Resembles now p q where
  retention := (Partition.mk.inj h).1
  lastNumber := (Partition.mk.inj h).2.2
  live := h ▸ .refl _
  strict _ := h

theorem of_rearranged (hmode : p.retention.mode.ByPuts) (hretention : p.retention = q.retention)
    (hlast : p.lastNumber = q.lastNumber) (h : Rearranged p.entries q.entries) :
    Resembles now p q where
  retention := hretention
  lastNumber := hlast
  live := rearranged_purge hretention h now
  strict hnot := absurd hmode hnot

theorem refl (now : Nat) (p : Partition) : Resembles now p p :=
  of_purge_eq rfl

theorem trans (h : Resembles now p q) (h' : Resembles now q r) : Resembles now p r where
  retention := h.retention.trans h'.retention
  lastNumber := h.lastNumber.trans h'.lastNumber
  live := h.live.trans h'.live
  strict hnot := (h.strict hnot).trans (h'.strict (h.retention ▸ hnot))

theorem symm (h : Resembles now p q) : Resembles now q p where
  retention := h.retention.symm
  lastNumber := h.lastNumber.symm
  live := h.live.symm
  strict hnot := (h.strict (h.retention ▸ hnot)).symm

/-- More expires as time goes on, of both the same. -/
theorem later (h : Resembles now p q) {later : Nat} (hle : now ≤ later) : Resembles later p q where
  retention := h.retention
  lastNumber := h.lastNumber
  live := by
    rw [← purge_purge p hle, ← purge_purge q hle]
    exact rearranged_purge (p := p.purge now) (q := q.purge now) h.retention h.live later
  strict hnot := by rw [← purge_purge p hle, ← purge_purge q hle, h.strict hnot]

theorem purged (now : Nat) (p : Partition) : Resembles now (p.purge now) p :=
  of_purge_eq (purge_purge p (Nat.le_refl now))

/-- The same is alive in both. -/
theorem live?_eq (h : Resembles now p q) (hp : p.Distinct) (hq : q.Distinct) (key : EntryKey) :
    p.live? now key = q.live? now key := by
  have hfind := rearranged_find? (purge_distinct hq now) h.live key
  rw [Partition.live?_eq hp, Partition.live?_eq hq]
  have hresponse (o : Option Entry) :
      (o.map Entry.unread).map (·.response) = o.map (·.response) := by
    rw [Option.map_map]
    rfl
  rw [← hresponse, hfind, hresponse]

/-- Reading a partition leaves one that resembles it. -/
theorem lookup (hp : p.Distinct) (hmode : p.retention.mode.ByPuts) (now : Nat) (key : EntryKey) :
    Resembles now (p.lookup now key).2 p := by
  obtain ⟨hf, -⟩ | ⟨e, hf, hx, hf'⟩ | ⟨e, hf, hx, -⟩ := find?_purge_cases hp now key
  · simp only [Partition.lookup, hf]
    exact refl now p
  · -- what is dropped has expired
    simp only [Partition.lookup, hf, hx, if_true]
    exact of_purge_eq (purge_removeKey hf')
  · -- what is found moves to the front, with one more hit
    simp only [Partition.lookup, hf, hx, Bool.false_eq_true, if_false]
    obtain ⟨he, rfl⟩ := mem_of_find? hf
    exact of_rearranged hmode rfl rfl ((cons_removeKey_perm hp he).map Entry.unread)

/-- Keeping a response costs two partitions the same, whose entries are all alive. -/
theorem insert_of_live (hp : p.WellFormed) (hq : q.WellFormed) (hmode : p.retention.mode.ByPuts)
    (hretention : p.retention = q.retention) (hlast : p.lastNumber = q.lastNumber)
    (h : Rearranged p.entries q.entries) (hlive : p.purge now = p) (hlive' : q.purge now = q)
    (key : EntryKey) (response : Bytes) :
    (p.insert now key response).1.evicted = (q.insert now key response).1.evicted ∧
      Resembles now (p.insert now key response).2 (q.insert now key response).2 := by
  have hfind := congrArg Option.isSome (rearranged_find? hq.keys h key)
  rw [Option.isSome_map, Option.isSome_map] at hfind
  have hsize : q.size = p.size := h.length_eq.symm
  cases hheld : (q.find? key).isSome with
  | true =>
    simp only [insert, hfind, hheld, if_true, hlast, true_and]
    refine of_rearranged hmode hretention rfl (.cons ?_ rfl)
    exact h.filter fun e => rfl
  | false =>
    simp only [insert, hfind, hheld, Bool.false_eq_true, if_false, hlast, makeRoom_of_live hlive,
      makeRoom_of_live hlive', hsize, ← hretention, true_and]
    refine of_rearranged hmode rfl rfl (.cons ?_ rfl)
    exact h.evict hmode hp.keys hq.keys hp.numbers _

theorem insert (h : Resembles now p q) (hp : p.WellFormed) (hq : q.WellFormed)
    (hmode : p.retention.mode.ByPuts) (key : EntryKey) (response : Bytes) :
    (p.insert now key response).1.evicted = (q.insert now key response).1.evicted ∧
      Resembles now (p.insert now key response).2 (q.insert now key response).2 := by
  -- whether what has expired is there or not makes no difference
  obtain ⟨hcost, hafter⟩ := insert_purge hp now key response
  obtain ⟨hcost', hafter'⟩ := insert_purge hq now key response
  obtain ⟨hsame, hresembles⟩ := insert_of_live (hp.purge now) (hq.purge now) hmode h.retention
    h.lastNumber h.live (purge_purge p (Nat.le_refl now)) (purge_purge q (Nat.le_refl now)) key
    response
  refine ⟨hcost.symm.trans (hsame.trans hcost'), ?_⟩
  exact (of_purge_eq hafter.symm).trans (hresembles.trans (of_purge_eq hafter'))

/-- **A call does the same to partitions that resemble each other.** Its caller is told the same, the
same number of entries is given up, and the partitions go on to resemble each other. -/
theorem act (h : Resembles now p q) (hp : p.WellFormed) (hq : q.WellFormed) (c : Call) :
    (c.act now p).outcome = (c.act now q).outcome ∧
      Resembles now (c.act now p).partition (c.act now q).partition ∧
      (c.act now p).counted.evictions = (c.act now q).counted.evictions := by
  by_cases hmode : p.retention.mode.ByPuts
  · cases hd : c.demand with
    | read =>
      have hmode' : q.retention.mode.ByPuts := h.retention ▸ hmode
      have hevictions (f : Found) : (Memory.Counters.found {} f).evictions = 0 := by cases f <;> rfl
      simp only [Call.act, hd, lookup_response, h.live?_eq hp.keys hq.keys, hevictions, true_and,
        and_true]
      exact (lookup hp.keys hmode now c.key).trans (h.trans (lookup hq.keys hmode' now c.key).symm)
    | keep response =>
      obtain ⟨hevicted, hresembles⟩ := h.insert hp hq hmode c.key response
      simp only [Call.act, hd, Memory.Counters.paid, hevicted, true_and, and_true]
      exact hresembles
    | ask =>
      simp only [Call.act, hd, contains_eq, h.live?_eq hp.keys hq.keys, true_and, and_true]
      exact h
  · -- then both are the same without what has expired
    obtain ⟨houtcome, hafter, hcounted⟩ := act_purge hp c now
    obtain ⟨houtcome', hafter', hcounted'⟩ := act_purge hq c now
    rw [h.strict hmode] at houtcome hafter hcounted
    have hcounts := congrArg Counters.evictions (hcounted.symm.trans hcounted')
    exact ⟨houtcome.symm.trans houtcome', of_purge_eq (hafter.symm.trans hafter'), hcounts⟩

end Resembles

end Partition

/-! ### Stores that are similar -/

/-- What a caller is told, but for how many entries a purge has removed. -/
def Outcome.uncounted : Outcome → Outcome
  | .purged _ => .purged 0
  | outcome => outcome

namespace Clocked

variable {s t u : Clocked} {op : Operation}

/-- Two stores have the same sessions, have given up the same number of entries, and have partitions
that resemble each other. -/
structure Similar (s t : Clocked) : Prop where
  left : s.store.WellFormed
  right : t.store.WellFormed
  now : s.now = t.now
  registry : s.store.registry = t.store.registry
  defaults : s.store.defaults = t.store.defaults
  evictions : s.store.counters.evictions = t.store.counters.evictions
  partitions : ∀ name,
    (s.store.partitions.find? name = none ∧ t.store.partitions.find? name = none) ∨
    ∃ p q, s.store.partitions.find? name = some p ∧ t.store.partitions.find? name = some q ∧
      Partition.Resembles s.now p q

namespace Similar

theorem refl (h : s.store.WellFormed) : Similar s s := by
  refine ⟨h, h, rfl, rfl, rfl, rfl, fun name => ?_⟩
  cases hp : s.store.partitions.find? name with
  | none => exact .inl ⟨rfl, rfl⟩
  | some p => exact .inr ⟨p, p, rfl, rfl, .refl s.now p⟩

theorem trans (h : Similar s t) (h' : Similar t u) : Similar s u where
  left := h.left
  right := h'.right
  now := h.now.trans h'.now
  registry := h.registry.trans h'.registry
  defaults := h.defaults.trans h'.defaults
  evictions := h.evictions.trans h'.evictions
  partitions name := by
    obtain ⟨hp, hq⟩ | ⟨p, q, hp, hq, hpq⟩ := h.partitions name
    · obtain ⟨-, hr⟩ | ⟨q', r, hq', -⟩ := h'.partitions name
      · exact .inl ⟨hp, hr⟩
      · simp [hq] at hq'
    · obtain ⟨hq', -⟩ | ⟨q', r, hq', hr, hqr⟩ := h'.partitions name
      · simp [hq] at hq'
      · obtain rfl : q = q' := Option.some.inj (hq.symm.trans hq')
        exact .inr ⟨p, r, hp, hr, hpq.trans (h.now ▸ hqr)⟩

/-- A session finds partitions that resemble each other, or fails alike. -/
theorem partition (h : Similar s t) (id : SessionId) :
    (∃ e, s.store.partition id = .error e ∧ t.store.partition id = .error e) ∨
    (∃ name p q, s.store.partition id = .ok (name, p) ∧ t.store.partition id = .ok (name, q) ∧
      Partition.Resembles s.now p q) := by
  unfold Memory.partition
  rw [← h.registry]
  cases s.store.registry.partitionOf id with
  | error e => exact .inl ⟨e, rfl, rfl⟩
  | ok name =>
    obtain ⟨hp, hq⟩ | ⟨p, q, hp, hq, hpq⟩ := h.partitions name
    · simp [hp, hq]
    · refine .inr ⟨name, p, q, ?_, ?_, hpq⟩
      · simp only [hp]
      · simp only [hq]

/-- One partition may be changed in both. -/
theorem after (h : Similar s t) {name : String} {p q : Partition}
    (hp : s.store.partitions.find? name = some p) (hq : t.store.partitions.find? name = some q)
    {e f : Effect} (he : e.partition.WellFormed) (hf : f.partition.WellFormed)
    (hef : Partition.Resembles s.now e.partition f.partition)
    (hevictions : e.counted.evictions = f.counted.evictions) :
    Similar { s with store := s.store.after name e } { t with store := t.store.after name f } where
  left := h.left.after hp he
  right := h.right.after hq hf
  now := h.now
  registry := h.registry
  defaults := h.defaults
  evictions := congrArg₂ (· + ·) h.evictions hevictions
  partitions name' := by
    simp only [Memory.after, NameMap.find?_insert]
    by_cases heq : name = name'
    · simp only [if_pos heq]
      exact .inr ⟨_, _, rfl, rfl, hef⟩
    · simp only [if_neg heq]
      exact h.partitions name'

/-- All partitions may be changed in both, whatever is counted but entries given up. -/
theorem map (h : Similar s t) {f g : Partition → Partition}
    (hf : ∀ p, p.WellFormed → (f p).WellFormed) (hg : ∀ p, p.WellFormed → (g p).WellFormed)
    (hfg : ∀ p q, Partition.Resembles s.now p q → Partition.Resembles s.now (f p) (g q))
    (counters counters' : Counters) (hcounters : counters.evictions = s.store.counters.evictions)
    (hcounters' : counters'.evictions = t.store.counters.evictions) :
    Similar
      ⟨⟨s.store.registry, s.store.partitions.map fun _ p => f p, s.store.defaults, counters⟩, s.now⟩
      ⟨⟨t.store.registry, t.store.partitions.map fun _ p => g p, t.store.defaults, counters'⟩, t.now⟩
    where
  left := h.left.map hf rfl rfl
  right := h.right.map hg rfl rfl
  now := h.now
  registry := h.registry
  defaults := h.defaults
  evictions := hcounters.trans (h.evictions.trans hcounters'.symm)
  partitions name := by
    simp only [NameMap.find?_map]
    obtain ⟨hp, hq⟩ | ⟨p, q, hp, hq, hpq⟩ := h.partitions name
    · exact .inl ⟨by rw [hp]; rfl, by rw [hq]; rfl⟩
    · exact .inr ⟨f p, g q, by rw [hp]; rfl, by rw [hq]; rfl, hfg p q hpq⟩

/-- A caller is told the same by both. -/
theorem call (h : Similar s t) (c : Call) :
    (s.call c).1 = (t.call c).1 ∧ Similar (s.call c).2 (t.call c).2 := by
  by_cases hr : c.request = []
  · rw [call_of_nil hr, call_of_nil hr]
    exact ⟨rfl, h⟩
  · obtain ⟨e, hs, ht⟩ | ⟨name, p, q, hs, ht, hpq⟩ := h.partition c.session
    · rw [call_of_error hr hs, call_of_error hr ht]
      exact ⟨rfl, h⟩
    · rw [call_of_partition hr hs, call_of_partition hr ht, ← h.now]
      have hp := (Memory.partition_eq_ok.1 hs).2
      have hq := (Memory.partition_eq_ok.1 ht).2
      have hwell := h.left.partitions name p hp
      have hwell' := h.right.partitions name q hq
      obtain ⟨houtcome, hresembles, hevictions⟩ := hpq.act hwell hwell' c
      refine ⟨houtcome, ?_⟩
      have hafter := h.after hp hq (hwell.act c s.now) (hwell'.act c s.now) hresembles hevictions
      rw [← h.now] at hafter
      exact hafter

theorem register (h : Similar s t) (nonce : String) (connection cache : PropertyMap)
    (retention : Retention) :
    Similar { s with store := (s.store.register nonce connection cache retention).2 }
      { t with store := (t.store.register nonce connection cache retention).2 } where
  left := h.left.register nonce connection cache retention
  right := h.right.register nonce connection cache retention
  now := h.now
  registry := by simp only [Memory.register, h.registry]
  defaults := h.defaults
  evictions := h.evictions
  partitions name := by
    simp only [Memory.register_find?, ← h.registry]
    obtain ⟨hp, hq⟩ | ⟨p, q, hp, hq, hpq⟩ := h.partitions name
    · simp only [hp, hq, Option.none_or]
      split
      · exact .inr ⟨_, _, rfl, rfl, .refl s.now _⟩
      · exact .inl ⟨rfl, rfl⟩
    · simp only [hp, hq, Option.some_or]
      exact .inr ⟨p, q, rfl, rfl, hpq⟩

/-- Both register a session under one id. -/
theorem register_fst (h : Similar s t) (nonce : String) (connection cache : PropertyMap)
    (retention : Retention) :
    (s.store.register nonce connection cache retention).1 =
      (t.store.register nonce connection cache retention).1 := by
  simp only [Memory.register, h.registry]

/-- **Every operation does the same to stores that are similar.** Only how many entries a purge
removes may differ. -/
theorem step (h : Similar s t) (op : Operation) :
    (s.step op).1.uncounted = (t.step op).1.uncounted ∧ Similar (s.step op).2 (t.step op).2 := by
  -- a call concerns one partition of either store, any other operation all of them or none
  induction op using Operation.cases_call with
  | call op c hop =>
    rw [step_eq_call hop, step_eq_call hop]
    exact (h.call c).imp_left (congrArg Outcome.uncounted)
  | configure nonce connection cache =>
    simp only [Clocked.step, Memory.configure, h.defaults]
    exact ⟨congrArg Outcome.session (h.register_fst nonce connection cache _),
      h.register nonce connection cache _⟩
  | tryConfigure nonce connection cache =>
    simp only [Clocked.step, Memory.tryConfigure, h.defaults]
    cases t.store.defaults.overlay cache with
    | error e => exact ⟨rfl, h⟩
    | ok retention =>
      exact ⟨congrArg Outcome.session (h.register_fst nonce connection cache retention),
        h.register nonce connection cache retention⟩
  | purge =>
    have hcount : (s.step .purge).1.uncounted = (t.step .purge).1.uncounted := by
      simp only [Clocked.step, Outcome.uncounted]
    refine ⟨hcount, h.map (fun p hp => hp.purge s.now) (fun p hp => hp.purge t.now)
      (fun p q hpq => ?_) _ _ rfl rfl⟩
    rw [← h.now]
    exact (Partition.Resembles.purged s.now p).trans
      (hpq.trans (Partition.Resembles.purged s.now q).symm)
  | flush =>
    refine ⟨rfl, h.map (fun p hp => hp.clear) (fun p hp => hp.clear) (fun p q hpq => ?_)
      _ _ rfl rfl⟩
    exact .of_purge_eq (by simp [Partition.purge, Partition.clear, hpq.retention, hpq.lastNumber])
  | sleep ms =>
    refine ⟨rfl, h.left, h.right, congrArg (· + ms) h.now, h.registry, h.defaults, h.evictions,
      fun name => ?_⟩
    obtain hnone | ⟨p, q, hp, hq, hpq⟩ := h.partitions name
    · exact .inl hnone
    · exact .inr ⟨p, q, hp, hq, hpq.later (Nat.le_add_right s.now ms)⟩

end Similar

/-! ### Reads -/

/-- An operation reads: it removes what has expired, asks whether there is a response, or looks up one
in a partition that gives up entries by puts. -/
inductive Reads (s : Clocked) : Operation → Prop where
  | purge : s.Reads .purge
  | contains (id : SessionId) (url : Url) (request : Bytes) : s.Reads (.contains id url request)
  | get (id : SessionId) (url : Url) (request : Bytes)
      (h : ∀ name p, s.store.partition id = .ok (name, p) → p.retention.mode.ByPuts) :
      s.Reads (.get id url request)

/-- Looking up changes its partition to one that resembles it. -/
theorem similar_afterLookup (hs : s.store.WellFormed) {name : String} {p : Partition}
    {key : EntryKey} (hwell : (s.store.afterLookup s.now name p key).WellFormed)
    (hp : s.store.partitions.find? name = some p) (hmode : p.retention.mode.ByPuts) :
    Similar { s with store := s.store.afterLookup s.now name p key } s where
  left := hwell
  right := hs
  now := rfl
  registry := rfl
  defaults := rfl
  evictions := by
    simp only [Memory.afterLookup]
    cases (p.lookup s.now key).1 <;> rfl
  partitions name' := by
    simp only [Memory.afterLookup, NameMap.find?_insert]
    by_cases heq : name = name'
    · subst heq
      simp only [if_true, hp]
      exact .inr ⟨_, p, rfl, rfl, .lookup (hs.partitions name p hp).keys hmode s.now key⟩
    · simp only [if_neg heq]
      exact (Similar.refl hs).partitions name'

/-- A read leaves a store that is similar to what it was. -/
theorem Reads.similar (h : s.Reads op) (hs : s.store.WellFormed) : Similar (s.step op).2 s := by
  have hwell := wellFormed_step hs op
  cases h with
  | purge =>
    refine ⟨hwell, hs, rfl, rfl, rfl, rfl, fun name => ?_⟩
    simp only [step, Memory.purge, NameMap.find?_map]
    cases s.store.partitions.find? name with
    | none => exact .inl ⟨rfl, rfl⟩
    | some p => exact .inr ⟨_, p, rfl, rfl, .purged s.now p⟩
  | contains id url request =>
    rw [step_contains]
    exact .refl hs
  | get id url request hmode =>
    cases hget : s.store.get s.now id url request with
    | error e =>
      simp only [step, hget]
      exact .refl hs
    | ok r =>
      obtain ⟨-, name, p, hp, -, hstore⟩ := Memory.get_eq_ok hget
      simp only [step, hget, hstore] at hwell ⊢
      exact similar_afterLookup hs hwell (Memory.partition_eq_ok.1 hp).2 (hmode name p hp)

/-- The second list of operations is the first without some of its reads. With it stands what the
callers of the operations that are left were told in the run of the first. -/
inductive WithoutReads : Clocked → List Operation → List Operation → List Outcome → Prop where
  | nil (s : Clocked) : WithoutReads s [] [] []
  | keep {s : Clocked} {ops ops' : List Operation} {told : List Outcome} (op : Operation)
      (h : WithoutReads (s.step op).2 ops ops' told) :
      WithoutReads s (op :: ops) (op :: ops') ((s.step op).1 :: told)
  | drop {s : Clocked} {op : Operation} {ops ops' : List Operation} {told : List Outcome}
      (hop : s.Reads op) (h : WithoutReads (s.step op).2 ops ops' told) :
      WithoutReads s (op :: ops) ops' told

/-- A run from which reads are left out tells the callers of all other operations the same. -/
theorem WithoutReads.similar {ops ops' : List Operation} {told : List Outcome}
    (h : s.WithoutReads ops ops' told) (hst : Similar s t) :
    (t.outcomes ops').map Outcome.uncounted = told.map Outcome.uncounted ∧
      Similar (s.run ops) (t.run ops') := by
  -- the stores stay similar, be an operation done in both or in the first alone
  induction h generalizing t with
  | nil s => exact ⟨rfl, hst⟩
  | keep op _ ih =>
    obtain ⟨houtcome, hsimilar⟩ := hst.step op
    obtain ⟨htold, hrun⟩ := ih hsimilar
    refine ⟨?_, hrun⟩
    rw [outcomes, List.map_cons, List.map_cons, htold, houtcome]
  | drop hop _ ih => exact ih ((hop.similar hst.left).trans hst)

end Clocked

/-- **Reads leave no trace where entries are given up by puts.** In any run of a store that began
without sessions, leave out any purges, any questions whether there is a response, and any look-ups in
partitions that give up what was put first or what was put last. Then the callers of all other
operations are told the same, but for how many entries a purge removes. In the end the same
partitions exist, and in each the same keys are alive, with the same responses. And the store has
given up the same number of entries. -/
theorem reads_leave_no_trace (defaults : Retention) (start : Nat) (ops ops' : List Operation)
    (told : List Outcome) (h : (Clocked.fresh defaults start).WithoutReads ops ops' told) :
    let s := (Clocked.fresh defaults start).run ops
    let t := (Clocked.fresh defaults start).run ops'
    ((Clocked.fresh defaults start).outcomes ops').map Outcome.uncounted =
      told.map Outcome.uncounted ∧
    (∀ name p, s.store.partitions.find? name = some p →
      ∃ q, t.store.partitions.find? name = some q ∧ ∀ key, q.live? t.now key = p.live? s.now key) ∧
    (∀ name, s.store.partitions.find? name = none → t.store.partitions.find? name = none) ∧
    t.store.counters.evictions = s.store.counters.evictions := by
  intro s t
  have hstart : (Clocked.fresh defaults start).store.WellFormed := Memory.wellFormed_empty defaults
  obtain ⟨htold, hsimilar⟩ := h.similar (.refl hstart)
  refine ⟨htold, fun name p hp => ?_, fun name hnone => ?_, hsimilar.evictions.symm⟩
  · obtain ⟨hnone, -⟩ | ⟨p', q, hp', hq, hpq⟩ := hsimilar.partitions name
    · exact absurd (hp.symm.trans hnone) (by simp)
    · obtain rfl : p = p' := Option.some.inj (hp.symm.trans hp')
      refine ⟨q, hq, fun key => ?_⟩
      have hlive := hpq.live?_eq (hsimilar.left.partitions name p hp).keys
        (hsimilar.right.partitions name q hq).keys key
      have hnow : t.now = s.now := hsimilar.now.symm
      rw [hnow]
      exact hlive.symm
  · obtain ⟨-, hq⟩ | ⟨p', q, hp', -⟩ := hsimilar.partitions name
    · exact hq
    · exact absurd (hnone.symm.trans hp') (by simp)

/-- Room for two entries, of which the first has expired. A look-up drops it, so that the put after it
finds room; without the look-up that put drops it. A hit does not keep the second from being given
up. -/
theorem reads_leave_no_trace_expired_entry :
    let cache : PropertyMap :=
      (((∅ : PropertyMap).insert "Size" "2").insert "Timeout" "1").insert "Mode" "FIFO"
    let url : Url := ⟨"http", none, .segments [[]], none, none⟩
    let id : SessionId := ⟨"s1-a"⟩
    let start : List Operation :=
      [.configure "a" ∅ cache, .put id url [1] [1], .sleep 600, .put id url [2] [2], .sleep 600]
    let ends : List Operation :=
      [.put id url [4] [4], .purge, .contains id url [2], .get id url [3]]
    let ops := start ++ .get id url [1] :: .put id url [3] [3] :: .get id url [2] :: ends
    let ops' := start ++ .put id url [3] [3] :: ends
    let s := Clocked.fresh .standard 0
    ∃ told, s.WithoutReads ops ops' told ∧
      (s.outcomes ops').map Outcome.uncounted = told.map Outcome.uncounted ∧
      s.outcomes ops' = [.session id, .stored, .done, .stored, .done, .stored, .stored, .purged 0,
        .held false, .found (some [3])] ∧
      (s.run ops').store.counters.evictions = 1 := by
  intro cache url id start ends ops ops' s
  have hget (t : Clocked) (byte : UInt8)
      (hmode : (t.store.partition id).map (·.2.retention.mode) = .ok .fifo) :
      t.Reads (.get id url [byte]) := by
    refine .get id url [byte] fun name p hp => .inl ?_
    rw [hp] at hmode
    exact Except.ok.inj hmode
  have hwithout : s.WithoutReads ops ops' _ :=
    .keep _ (.keep _ (.keep _ (.keep _ (.keep _ (.drop (hget _ 1 (by decide +kernel))
      (.keep _ (.drop (hget _ 2 (by decide +kernel))
        (.keep _ (.keep _ (.keep _ (.keep _ (.nil _))))))))))))
  have hall := reads_leave_no_trace .standard 0 ops ops' _ hwithout
  have hs : Clocked.fresh .standard 0 = s := rfl
  simp only [hs] at hall
  obtain ⟨htold, -, -, hevictions⟩ := hall
  have hone : (s.run ops).store.counters.evictions = 1 := by decide +kernel
  exact ⟨_, hwithout, htold, by decide +kernel, hevictions.trans hone⟩

end OlapClient.Cache
