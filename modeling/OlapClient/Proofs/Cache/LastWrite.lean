import Mathlib.Data.List.Dedup
import Mathlib.Data.List.Perm.Subperm
import OlapClient.Proofs.Cache.Operation

namespace OlapClient.Cache

open Location (Url)

/-!
# The last write wins

A store in memory answers with the latest response that was put, or with nothing. A log of the puts
since the last flush says which response that is; the store itself keeps no such log.

* `Written`, `Clocked.written` — the log of a run, the latest put first.
* `latest?`, `keysPut` — the latest put of a key, and the keys that were put.
* `Partition.Follows` — a partition holds only latest puts, and all of them that have not outlived
  the timeout while its size suffices for the keys that were put.
* `Clocked.follows_step`, `Clocked.follows_run` — every step, and so every run, keeps this.
* `last_write_wins` — what a look-up after any run answers.
-/

/-! ### The log -/

/-- A put that a store has taken. -/
structure Written where
  partition : String
  key : EntryKey
  response : Bytes
  time : Nat
deriving DecidableEq, Repr

/-- The puts into one partition. -/
def putsInto (partition : String) (log : List Written) : List Written :=
  log.filter (·.partition == partition)

/-- The latest put of a key. -/
def latest? (puts : List Written) (key : EntryKey) : Option Written :=
  puts.find? (·.key == key)

/-- The keys of puts, each once. -/
def keysPut (puts : List Written) : List EntryKey :=
  (puts.map (·.key)).dedup

theorem latest?_cons_self (w : Written) (puts : List Written) :
    latest? (w :: puts) w.key = some w :=
  List.find?_cons_of_pos (by simp)

theorem latest?_cons_of_ne {w : Written} {key : EntryKey} (puts : List Written)
    (h : w.key ≠ key) : latest? (w :: puts) key = latest? puts key :=
  List.find?_cons_of_neg (by simpa using h)

theorem mem_keysPut_of_latest? {puts : List Written} {key : EntryKey} {w : Written}
    (h : latest? puts key = some w) : key ∈ keysPut puts := by
  have hkey : w.key = key := by simpa using List.find?_some h
  rw [keysPut, List.mem_dedup, ← hkey]
  exact List.mem_map_of_mem (List.mem_of_find?_eq_some h)

theorem keysPut_length_le_cons (w : Written) (puts : List Written) :
    (keysPut puts).length ≤ (keysPut (w :: puts)).length := by
  refine (List.Nodup.subperm (List.nodup_dedup _) fun key hkey => ?_).length_le
  rw [List.mem_dedup] at hkey
  rw [keysPut, List.mem_dedup, List.map_cons]
  exact List.mem_cons_of_mem _ hkey

/-! ### A partition and its puts -/

namespace Partition

/-- Two partitions that differ in order, hits and expired entries only. -/
structure Thins (p : Partition) (now : Nat) (p' : Partition) : Prop where
  retention : p'.retention = p.retention
  distinct : p.Distinct → p'.Distinct
  held : ∀ e' ∈ p'.entries, ∃ e ∈ p.entries, ∃ hits, e' = { e with hits }
  live : ∀ e ∈ p.entries, Within p.retention.timeout (now - e.storedAt) →
    ∃ e' ∈ p'.entries, e'.key = e.key

theorem purge_thins (p : Partition) (now : Nat) : p.Thins now (p.purge now) where
  retention := rfl
  distinct h := h.sublist ((purge_entries_sublist p now).map _)
  held e he := ⟨e, (purge_entries_sublist p now).subset he, e.hits, rfl⟩
  live e he hw := by
    refine ⟨e, List.mem_filter.2 ⟨he, ?_⟩, rfl⟩
    rw [Bool.not_eq_true']
    exact (expired_eq_false_iff e _ now).2 hw

theorem lookup_thins (p : Partition) (hp : p.Distinct) (now : Nat) (key : EntryKey) :
    p.Thins now (p.lookup now key).2 := by
  refine ⟨lookup_retention p now key, fun _ => ?_, fun e' he' => mem_lookup he', ?_⟩
  · obtain ⟨_, h⟩ | ⟨e, hf, _, h⟩ | ⟨e, hf, _, h⟩ := lookup_cases p now key
    · rw [h]
      exact hp
    · rw [h]
      exact hp.sublist ((removeKey_sublist key p.entries).map _)
    · rw [h]
      refine List.nodup_cons.2 ⟨?_, hp.sublist ((removeKey_sublist key p.entries).map _)⟩
      rw [List.mem_map]
      rintro ⟨x, hx, hxe⟩
      exact (mem_removeKey.1 hx).2 (hxe.trans (mem_of_find? hf).2)
  · -- an entry that the timeout allows stays, be it the one that is hit or another
    intro x hx hw
    obtain ⟨_, h⟩ | ⟨e, hf, hold, h⟩ | ⟨e, hf, _, h⟩ := lookup_cases p now key
    · rw [h]
      exact ⟨x, hx, rfl⟩
    · -- the dropped entry is the only one of its key, and it has expired
      rw [h]
      refine ⟨x, mem_removeKey.2 ⟨hx, ?_⟩, rfl⟩
      rintro rfl
      rw [find?_of_mem hp hx] at hf
      cases hf
      exact hold hw
    · rw [h]
      by_cases hxk : x.key = key
      · exact ⟨_, List.mem_cons_self, (mem_of_find? hf).2.trans hxk.symm⟩
      · exact ⟨x, List.mem_cons_of_mem _ (mem_removeKey.2 ⟨hx, hxk⟩), rfl⟩

/-- A partition holds only latest puts, each with its response and time; and all of them that the
timeout allows, if no more keys were put than the size admits. -/
structure Follows (p : Partition) (puts : List Written) (now : Nat) : Prop where
  distinct : p.Distinct
  held : ∀ e ∈ p.entries, ∃ w, latest? puts e.key = some w ∧
    w.response = e.response ∧ w.time = e.storedAt
  complete : (keysPut puts).length ≤ p.retention.size → ∀ key w, latest? puts key = some w →
    Within p.retention.timeout (now - w.time) → ∃ e ∈ p.entries, e.key = key

theorem follows_empty (retention : Retention) (now : Nat) :
    (Partition.empty retention).Follows [] now where
  distinct := List.nodup_nil
  held e he := by cases he
  complete _ key w h := by cases h

theorem follows_clear (p : Partition) (now : Nat) : p.clear.Follows [] now where
  distinct := List.nodup_nil
  held e he := by cases he
  complete _ key w h := by cases h

namespace Follows

variable {p : Partition} {puts : List Written} {now : Nat}

/-- Ages only grow, so later there is less to be complete about. -/
theorem later (h : p.Follows puts now) (ms : Nat) : p.Follows puts (now + ms) where
  distinct := h.distinct
  held := h.held
  complete hsize key w hw hin := h.complete hsize key w hw (hin.mono (by omega))

theorem thins (h : p.Follows puts now) {p' : Partition} (ht : p.Thins now p') :
    p'.Follows puts now where
  distinct := ht.distinct h.distinct
  held e' he' := by
    obtain ⟨e, he, hits, rfl⟩ := ht.held e' he'
    exact h.held e he
  complete hsize key w hw hin := by
    rw [ht.retention] at hsize hin
    obtain ⟨e, he, hkey⟩ := h.complete hsize key w hw hin
    -- the entry is as old as the put, so the timeout allows it as well
    obtain ⟨x, hx, _, hs⟩ := h.held e he
    rw [hkey, hw] at hx
    cases hx
    rw [hs] at hin
    obtain ⟨e', he', hkey'⟩ := ht.live e he hin
    exact ⟨e', he', hkey'.trans hkey⟩

/-- What a look-up finds is the latest put of the key. -/
theorem of_hit (h : p.Follows puts now) {key : EntryKey} {response : Bytes}
    (hfound : Memory.Found.response? (p.lookup now key).1 = some response) :
    ∃ w, latest? puts key = some w ∧ w.response = response ∧
      Within p.retention.timeout (now - w.time) := by
  obtain ⟨e, he, _, rfl, rfl, hw⟩ := lookup_eq_hit hfound
  obtain ⟨w, hlatest, hresponse, htime⟩ := h.held e he
  exact ⟨w, hlatest, hresponse, htime ▸ hw⟩

/-- A latest put that the timeout allows is found, if the size admits all keys that were put. -/
theorem hit (h : p.Follows puts now) {key : EntryKey} {w : Written}
    (hlatest : latest? puts key = some w) (hw : Within p.retention.timeout (now - w.time))
    (hsize : (keysPut puts).length ≤ p.retention.size) :
    Memory.Found.response? (p.lookup now key).1 = some w.response := by
  obtain ⟨e, he, rfl⟩ := h.complete hsize key w hlatest hw
  obtain ⟨x, hx, hresponse, htime⟩ := h.held e he
  rw [hlatest] at hx
  cases hx
  have hf := find?_of_mem h.distinct he
  obtain ⟨hnone, _⟩ | ⟨x, hx, hold, _⟩ | ⟨x, hx, _, heq⟩ := lookup_cases p now e.key
  · rw [hf] at hnone
    cases hnone
  · rw [hf] at hx
    cases hx
    exact absurd (htime ▸ hw) hold
  · rw [hf] at hx
    cases hx
    rw [heq, hresponse]
    rfl

/-- The keys that are held besides a new one leave room for it, if the size admits all keys that
were put. -/
theorem length_removeKey_lt (h : p.Follows puts now) {w : Written}
    (hsize : (keysPut (w :: puts)).length ≤ p.retention.size) :
    (removeKey w.key p.entries).length < p.retention.size := by
  -- the new key and those that stay are different keys that were put
  have hnodup : (w.key :: keysOf (removeKey w.key p.entries)).Nodup := by
    refine List.nodup_cons.2 ⟨?_, h.distinct.sublist ((removeKey_sublist _ _).map _)⟩
    rw [keysOf, List.mem_map]
    rintro ⟨e, he, hkey⟩
    exact (mem_removeKey.1 he).2 hkey
  have hsub : w.key :: keysOf (removeKey w.key p.entries) ⊆ keysPut (w :: puts) := by
    intro key hkey
    rw [keysPut, List.mem_dedup, List.map_cons]
    rcases List.mem_cons.1 hkey with rfl | hmem
    · exact List.mem_cons_self
    · obtain ⟨e, he, rfl⟩ := List.mem_map.1 hmem
      obtain ⟨x, hx, _⟩ := h.held e (mem_removeKey.1 he).1
      exact List.mem_cons_of_mem _ (List.mem_dedup.1 (mem_keysPut_of_latest? hx))
  have hlength := (List.Nodup.subperm hnodup hsub).length_le
  rw [List.length_cons, keysOf, List.length_map] at hlength
  omega

theorem insert (h : p.Follows puts now) (partition : String) (key : EntryKey) (response : Bytes) :
    (p.insert now key response).2.Follows (⟨partition, key, response, now⟩ :: puts) now := by
  obtain ⟨kept, heq, hsub, hroom⟩ := insert_spec p now key response
  have hmem : ∀ e ∈ kept, e ∈ p.entries ∧ e.key ≠ key :=
    fun e he => mem_removeKey.1 (hsub.subset he)
  rw [heq]
  refine ⟨List.nodup_cons.2 ⟨?_, ?_⟩, ?_, ?_⟩
  · rw [List.mem_map]
    rintro ⟨e, he, hkey⟩
    exact (hmem e he).2 hkey
  · exact h.distinct.sublist ((hsub.trans (removeKey_sublist _ _)).map _)
  · intro e he
    rcases List.mem_cons.1 he with rfl | hin
    · exact ⟨_, latest?_cons_self _ puts, rfl, rfl⟩
    · obtain ⟨w, hw, hr⟩ := h.held e (hmem e hin).1
      exact ⟨w, by rw [latest?_cons_of_ne puts (hmem e hin).2.symm]; exact hw, hr⟩
  · intro hsize key' w hw hin
    by_cases hkey : key = key'
    · exact ⟨_, List.mem_cons_self, hkey⟩
    · -- there is room for all keys that were put, so the insertion costs no entry
      rw [latest?_cons_of_ne puts hkey] at hw
      have hold := Nat.le_trans (keysPut_length_le_cons _ puts) hsize
      obtain ⟨e, he, rfl⟩ := h.complete hold key' w hw hin
      refine ⟨e, List.mem_cons_of_mem _ ?_, rfl⟩
      rw [hroom (h.length_removeKey_lt hsize)]
      exact mem_removeKey.2 ⟨he, Ne.symm hkey⟩

end Follows

end Partition

/-! ### A store and its log -/

namespace Clocked

/-- The log after an operation in a state: a put that succeeds is added, and a flush begins anew. -/
def note (s : Clocked) (log : List Written) (op : Operation) : List Written :=
  match op, (s.step op).1 with
  | .put id url request response, .stored =>
    match s.store.registry.partitionOf id with
    | .ok partition => ⟨partition, .of url request, response, s.now⟩ :: log
    | .error _ => log
  | .flush, _ => []
  | _, _ => log

/-- The log after operations. -/
def written (s : Clocked) (log : List Written) : List Operation → List Written
  | [] => log
  | op :: ops => (s.step op).2.written (s.note log op) ops

/-- Every partition follows the puts into it. Nothing was put where no partition is, under an empty
request, or at a time to come. -/
structure Follows (s : Clocked) (log : List Written) : Prop where
  partitions : ∀ name p, s.store.partitions.find? name = some p →
    p.Follows (putsInto name log) s.now
  known : ∀ w ∈ log, ∃ p, s.store.partitions.find? w.partition = some p
  past : ∀ w ∈ log, w.key.request ≠ [] ∧ w.time ≤ s.now

variable {s : Clocked} {log : List Written}

theorem follows_fresh (defaults : Retention) (now : Nat) : (fresh defaults now).Follows [] where
  partitions name p h := by
    rw [fresh, Memory.empty, NameMap.find?_empty] at h
    cases h
  known w h := by cases h
  past w h := by cases h

namespace Follows

/-- A new session's partition was there before, or nothing was put into it. -/
theorem register (h : s.Follows log) (nonce : String) (connection cache : PropertyMap)
    (retention : Retention) :
    Follows { s with store := (s.store.register nonce connection cache retention).2 } log where
  partitions name p hp := by
    rcases Memory.register_find?_eq_some hp with hold | ⟨hnone, rfl⟩
    · exact h.partitions name p hold
    · have hnil : putsInto name log = [] := by
        rw [putsInto, List.filter_eq_nil_iff]
        intro w hw heq
        obtain ⟨p', hp'⟩ := h.known w hw
        rw [eq_of_beq heq, hnone] at hp'
        cases hp'
      rw [hnil]
      exact Partition.follows_empty retention s.now
  known w hw := by
    obtain ⟨p, hp⟩ := h.known w hw
    exact ⟨p, Memory.register_find?_of_some hp⟩
  past := h.past

/-- One partition may be replaced by another that follows a longer log. -/
theorem insert (h : s.Follows log) (name : String) (p' : Partition) (new : List Written)
    (hnew : ∀ w ∈ new, w.partition = name ∧ w.key.request ≠ [] ∧ w.time ≤ s.now)
    (hp' : p'.Follows (putsInto name (new ++ log)) s.now) {store : Memory}
    (hstore : store.partitions = s.store.partitions.insert name p') :
    Follows { s with store } (new ++ log) where
  partitions name' p hp := by
    rw [hstore, NameMap.find?_insert] at hp
    split at hp
    · rename_i heq
      subst heq
      cases hp
      exact hp'
    · -- nothing new was put into another partition
      rename_i hne
      have hother : putsInto name' new = [] := by
        rw [putsInto, List.filter_eq_nil_iff]
        intro w hw heq
        exact hne ((hnew w hw).1.symm.trans (eq_of_beq heq))
      rw [putsInto, List.filter_append]
      show p.Follows (putsInto name' new ++ putsInto name' log) s.now
      rw [hother]
      exact h.partitions name' p hp
  known w hw := by
    rw [hstore]
    by_cases heq : name = w.partition
    · exact ⟨p', by rw [heq, NameMap.find?_insert_self]⟩
    · rcases List.mem_append.1 hw with hin | hin
      · exact absurd (hnew w hin).1.symm heq
      · obtain ⟨p, hp⟩ := h.known w hin
        exact ⟨p, by rw [NameMap.find?_insert_of_ne _ _ heq]; exact hp⟩
  past w hw := by
    rcases List.mem_append.1 hw with hin | hin
    · exact (hnew w hin).2
    · exact h.past w hin

end Follows

/-- Every operation keeps a store in step with its log. -/
theorem follows_step (h : s.Follows log) (op : Operation) :
    (s.step op).2.Follows (s.note log op) := by
  cases op with
  | configure nonce connection cache => exact h.register nonce connection cache _
  | tryConfigure nonce connection cache =>
    simp only [note, step, Memory.tryConfigure]
    cases s.store.defaults.overlay cache with
    | error e => exact h
    | ok retention => exact h.register nonce connection cache retention
  | get id url request =>
    simp only [note, step]
    cases hg : s.store.get s.now id url request with
    | error e => exact h
    | ok result =>
      obtain ⟨_, name, p, hp, _, hm⟩ := Memory.get_eq_ok hg
      have hf := h.partitions name p (Memory.partition_eq_ok.1 hp).2
      have hthin := Partition.lookup_thins p hf.distinct s.now (.of url request)
      -- the log stays, and the partition follows it with what the look-up has left
      refine h.insert name _ [] (by simp) (hf.thins hthin) ?_
      rw [hm]
      rfl
  | put id url request response =>
    simp only [note, step]
    cases hg : s.store.put s.now id url request response with
    | error e => exact h
    | ok store =>
      obtain ⟨hr, name, p, hp, rfl⟩ := Memory.put_eq_ok hg
      obtain ⟨hname, hpart⟩ := Memory.partition_eq_ok.1 hp
      simp only [hname]
      have hf := (h.partitions name p hpart).insert name (.of url request) response
      refine h.insert name _ [⟨name, .of url request, response, s.now⟩] ?_ ?_ rfl
      · intro w hw
        rw [List.mem_singleton] at hw
        subst hw
        exact ⟨rfl, hr, Nat.le_refl _⟩
      rw [putsInto, List.filter_append, List.filter_cons_of_pos (by simp)]
      exact hf
  | contains id url request =>
    simp only [note, step]
    split <;> exact h
  | purge =>
    refine ⟨fun name p hp => ?_, fun w hw => ?_, h.past⟩
    · simp only [step, Memory.purge, NameMap.find?_map, Option.map_eq_some_iff] at hp
      obtain ⟨p₀, hp₀, rfl⟩ := hp
      exact (h.partitions name p₀ hp₀).thins (p₀.purge_thins s.now)
    · obtain ⟨p, hp⟩ := h.known w hw
      exact ⟨p.purge s.now, by simp only [step, Memory.purge, NameMap.find?_map, hp]; rfl⟩
  | flush =>
    refine ⟨fun name p hp => ?_, fun w hw => absurd hw (by simp [note]),
      fun w hw => absurd hw (by simp [note])⟩
    simp only [step, Memory.flush, NameMap.find?_map, Option.map_eq_some_iff] at hp
    obtain ⟨p₀, _, rfl⟩ := hp
    exact p₀.follows_clear s.now
  | sleep ms =>
    refine ⟨fun name p hp => (h.partitions name p hp).later ms, h.known, fun w hw => ?_⟩
    exact ⟨(h.past w hw).1, Nat.le_trans (h.past w hw).2 (Nat.le_add_right s.now ms)⟩

/-- Every run keeps a store in step with its log. -/
theorem follows_run (h : s.Follows log) (ops : List Operation) :
    (s.run ops).Follows (s.written log ops) := by
  induction ops generalizing s log with
  | nil => exact h
  | cons op ops ih => exact ih (follows_step h op)

end Clocked

/-- **The last write wins.** After any run of a store that began without sessions, a look-up that
finds a response finds that of the latest put of its location and request into its partition since
the last flush, and the timeout allows the age of that put. Conversely such a latest put is found,
if no more keys were put into the partition since the last flush than its size admits. -/
theorem last_write_wins (defaults : Retention) (start : Nat) (ops : List Operation)
    (id : SessionId) (url : Url) (request : Bytes) :
    let s := (Clocked.fresh defaults start).run ops
    let log := (Clocked.fresh defaults start).written [] ops
    (∀ response store, s.store.get s.now id url request = .ok (some response, store) →
      ∃ name p w, s.store.partition id = .ok (name, p) ∧
        latest? (putsInto name log) (.of url request) = some w ∧ w.response = response ∧
        w.time ≤ s.now ∧ Within p.retention.timeout (s.now - w.time)) ∧
    (∀ name p w, s.store.partition id = .ok (name, p) →
      latest? (putsInto name log) (.of url request) = some w →
      Within p.retention.timeout (s.now - w.time) →
      (keysPut (putsInto name log)).length ≤ p.retention.size →
      ∃ store, s.store.get s.now id url request = .ok (some w.response, store)) := by
  intro s log
  have h : s.Follows log := Clocked.follows_run (Clocked.follows_fresh defaults start) ops
  have hmem : ∀ {name w}, latest? (putsInto name log) (.of url request) = some w →
      w ∈ log ∧ w.key = .of url request := fun hw =>
    ⟨(List.mem_filter.1 (List.mem_of_find?_eq_some hw)).1, by simpa using List.find?_some hw⟩
  constructor
  · intro response store hget
    obtain ⟨_, name, p, hp, hfound, _⟩ := Memory.get_eq_ok hget
    have hf := h.partitions name p (Memory.partition_eq_ok.1 hp).2
    obtain ⟨w, hlatest, hresponse, hw⟩ := hf.of_hit hfound.symm
    exact ⟨name, p, w, hp, hlatest, hresponse, (h.past w (hmem hlatest).1).2, hw⟩
  · intro name p w hp hlatest hw hsize
    have hf := h.partitions name p (Memory.partition_eq_ok.1 hp).2
    obtain ⟨hin, hkey⟩ := hmem hlatest
    have hr : request ≠ [] := by
      have := (h.past w hin).1
      rwa [hkey] at this
    exact ⟨_, by rw [Memory.get_of_partition hr hp, hf.hit hlatest hw hsize]⟩

/-- Two sessions of one name: the first finds what the second put after it. -/
theorem last_write_wins_shared_name :
    let cache : PropertyMap := (∅ : PropertyMap).insert "Name" "sales"
    let url : Url := ⟨"http", none, .segments [[]], none, none⟩
    let ops : List Operation :=
      [.configure "a" ∅ cache, .configure "b" ∅ cache, .put ⟨"s1-a"⟩ url [1] [2], .sleep 10,
        .put ⟨"s2-b"⟩ url [1] [3], .sleep 5]
    let s := (Clocked.fresh .standard 0).run ops
    ∃ store, s.store.get s.now ⟨"s1-a"⟩ url [1] = .ok (some [3], store) := by
  intro cache url ops s
  -- the first session's partition holds the second put alone
  have hp : s.store.partition ⟨"s1-a"⟩ =
      .ok ("named:sales", ⟨.standard, [⟨.of url [1], [3], 10, 0, 2⟩], 2⟩) := by
    decide +kernel
  refine (last_write_wins .standard 0 ops ⟨"s1-a"⟩ url [1]).2 _ _
    ⟨"named:sales", .of url [1], [3], 10⟩ hp (by decide +kernel) ?_ (by decide +kernel)
  intro ms hms
  cases hms
  decide

end OlapClient.Cache
