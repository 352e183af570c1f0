import Mathlib.Data.List.Infix
import OlapClient.Proofs.Cache.Isolation
import OlapClient.Proofs.Cache.Victim

namespace OlapClient.Cache

open Location (Url)

/-!
# Recency

The order of a partition's entries is that of their latest use, and their numbers are in the order
of their latest puts. The store keeps no history; here the history of a partition since the last
flush is written down beside the run.

* `Touch`, `Clocked.touches` — the puts and hits in a partition since the last flush.
* `recent` — the keys of a history, each once, the one that was touched last first.
* `Partition.Traces` — a partition holds what its history says: keys in the order of `recent`,
  numbers in the order of puts, and in the mode that gives up the least recently used all of the
  most recent keys.
* `Clocked.traces_step`, `Clocked.traces_run` — every step, and so every run, keeps this.
* `keeps_most_recent` — that mode keeps exactly the keys that were touched last.
-/

/-! ### Histories -/

/-- A use of a key that makes it the most recent: a put, or a look-up that found a response. -/
structure Touch where
  key : EntryKey
  isPut : Bool
deriving DecidableEq, Repr

/-- The touch that a call is, by what its caller is told. Looking up in vain and asking whether
there is a response touch nothing. -/
def Call.touch? (c : Call) : Outcome → Option Touch
  | .stored => some ⟨c.key, true⟩
  | .found (some _) => some ⟨c.key, false⟩
  | _ => none

/-- The keys of a history, one for each touch. -/
def keysTouched (log : List Touch) : List EntryKey :=
  log.map (·.key)

/-- The keys that were put, one for each put. -/
def keysOfPuts (log : List Touch) : List EntryKey :=
  keysTouched (log.filter (·.isPut))

namespace Clocked

/-- The history of a partition after an operation, the latest touch first. A flush begins it
anew. -/
def noteTouch (s : Clocked) (name : String) (log : List Touch) (op : Operation) : List Touch :=
  match op with
  | .flush => []
  | op => ((s.told name op).bind fun told => told.1.touch? told.2).toList ++ log

/-- The history of a partition after operations. -/
def touches (name : String) (s : Clocked) (log : List Touch) : List Operation → List Touch
  | [] => log
  | op :: ops => (s.step op).2.touches name (s.noteTouch name log op) ops

end Clocked

/-! ### Recent keys -/

/-- Keys without repetition, each at its first place. -/
def recent : List EntryKey → List EntryKey
  | [] => []
  | key :: keys => key :: (recent keys).filter (· != key)

variable {key : EntryKey} {keys : List EntryKey}

theorem mem_recent : key ∈ recent keys ↔ key ∈ keys := by
  induction keys with
  | nil => simp [recent]
  | cons k ks ih =>
    rw [recent, List.mem_cons, List.mem_cons, List.mem_filter, ih, bne_iff_ne]
    by_cases hk : key = k <;> simp [hk]

theorem nodup_recent (keys : List EntryKey) : (recent keys).Nodup := by
  induction keys with
  | nil => exact List.nodup_nil
  | cons k ks ih =>
    refine List.nodup_cons.2 ⟨fun hk => ?_, ih.filter _⟩
    exact bne_iff_ne.1 (List.mem_filter.1 hk).2 rfl

/-- A key stands before another if it comes first. -/
theorem pairwise_recent (keys : List EntryKey) :
    (recent keys).Pairwise fun k k' => keys.idxOf k < keys.idxOf k' := by
  induction keys with
  | nil => exact List.Pairwise.nil
  | cons k ks ih =>
    have hne : ∀ x ∈ (recent ks).filter (· != k), x ≠ k :=
      fun x hx => bne_iff_ne.1 (List.mem_filter.1 hx).2
    refine List.pairwise_cons.2 ⟨fun x hx => ?_, ?_⟩
    · rw [List.idxOf_cons_self, List.idxOf_cons_ne _ (hne x hx).symm]
      exact Nat.succ_pos _
    · refine List.Pairwise.imp_of_mem (fun hx hy hlt => ?_) (ih.filter _)
      rw [List.idxOf_cons_ne _ (hne _ hx).symm, List.idxOf_cons_ne _ (hne _ hy).symm]
      exact Nat.succ_lt_succ hlt

/-- A key among the first comes to the front of them. -/
theorem take_filter_of_mem {n : Nat} (hkeys : keys.Nodup) (h : key ∈ keys.take (n + 1)) :
    (keys.filter (· != key)).take n = (keys.take (n + 1)).filter (· != key) := by
  induction keys generalizing n with
  | nil => simp
  | cons k ks ih =>
    obtain ⟨hk, hks⟩ := List.nodup_cons.1 hkeys
    rw [List.take_succ_cons] at h ⊢
    by_cases heq : k = key
    · subst heq
      have hall (l : List EntryKey) (hl : l ⊆ ks) : l.filter (· != k) = l :=
        List.filter_eq_self.2 fun x hx => bne_iff_ne.2 fun hxk => hk (hxk ▸ hl hx)
      rw [List.filter_cons_of_neg (by simp), List.filter_cons_of_neg (by simp),
        hall ks (List.Subset.refl ks), hall _ (List.take_subset n ks)]
    · have hkeep (l : List EntryKey) :
          (k :: l).filter (· != key) = k :: l.filter (· != key) :=
        List.filter_cons_of_pos (bne_iff_ne.2 heq)
      rw [hkeep, hkeep]
      have hin := (List.mem_cons.1 h).resolve_left (Ne.symm heq)
      rcases n with - | n
      · simp at hin
      · rw [List.take_succ_cons, ih hks hin]

/-- A key that is not among the first drives the last of them out. -/
theorem take_filter_of_notMem {n : Nat} (h : key ∉ keys.take n) :
    (keys.filter (· != key)).take n = keys.take n := by
  induction keys generalizing n with
  | nil => simp
  | cons k ks ih =>
    rcases n with - | n
    · rfl
    · rw [List.take_succ_cons, List.mem_cons, not_or] at h
      have hkeep : (k :: ks).filter (· != key) = k :: ks.filter (· != key) :=
        List.filter_cons_of_pos (bne_iff_ne.2 (Ne.symm h.1))
      rw [hkeep, List.take_succ_cons, List.take_succ_cons, ih h.2]

/-- Touching a key that is among the first moves it to the front of them. -/
theorem take_recent_of_mem {n : Nat} (h : key ∈ (recent keys).take (n + 1)) :
    (recent (key :: keys)).take (n + 1) = key :: ((recent keys).take (n + 1)).filter (· != key) := by
  rw [recent, List.take_succ_cons, take_filter_of_mem (nodup_recent keys) h]

/-- Touching any other key puts it in front of them, and the last one drops out. -/
theorem take_recent_of_notMem {n : Nat} (h : key ∉ (recent keys).take (n + 1)) :
    (recent (key :: keys)).take (n + 1) = key :: (recent keys).take n := by
  rw [recent, List.take_succ_cons, take_filter_of_notMem fun hin => h ?_]
  exact List.take_subset_take_left _ (Nat.le_succ n) hin

/-! ### Partitions and their histories -/

theorem keysOf_removeKey (key : EntryKey) (entries : List Entry) :
    keysOf (removeKey key entries) = (keysOf entries).filter (· != key) := by
  rw [keysOf, removeKey, keysOf, List.filter_map]
  rfl

namespace Partition

variable {p : Partition} {log : List Touch} {now : Nat}

theorem mem_keysOf_iff : key ∈ keysOf p.entries ↔ ∃ e, p.find? key = some e := by
  constructor
  · intro hkey
    obtain ⟨e, he, rfl⟩ := List.mem_map.1 hkey
    exact Option.ne_none_iff_exists'.1 fun hnone => find?_eq_none_iff.1 hnone e he rfl
  · rintro ⟨e, hf⟩
    obtain ⟨he, rfl⟩ := mem_of_find? hf
    exact List.mem_map_of_mem he

/-- A partition holds what its history says. Keys are in the order of their latest touches. A number
tells how many puts have come after the latest put of its key. If the least recently used entry is
given up and entries do not expire, no other key is held than the most recent ones. -/
structure Traces (p : Partition) (log : List Touch) : Prop where
  wellFormed : p.WellFormed
  order : (keysOf p.entries).Sublist (recent (keysTouched log))
  numbered : ∀ e ∈ p.entries, e.key ∈ keysOfPuts log ∧
    e.number + (keysOfPuts log).idxOf e.key = p.lastNumber
  complete : p.retention.mode = .lru → p.retention.timeout = none → 1 ≤ p.retention.size →
    keysOf p.entries = (recent (keysTouched log)).take p.retention.size

theorem traces_empty (retention : Retention) : (empty retention).Traces [] where
  wellFormed := wellFormed_empty retention
  order := List.Sublist.refl []
  numbered e he := by cases he
  complete _ _ _ := by simp [empty, keysOf, keysTouched, recent]

theorem traces_clear (h : p.WellFormed) : p.clear.Traces [] where
  wellFormed := h.clear
  order := List.Sublist.refl []
  numbered e he := by cases he
  complete _ _ _ := by simp [clear, keysOf, keysTouched, recent]

/-- Without a timeout there is nothing to purge. -/
theorem purge_of_no_timeout (h : p.retention.timeout = none) (now : Nat) : p.purge now = p := by
  have hall : p.entries.filter (!p.hasExpired now ·) = p.entries := by
    apply List.filter_eq_self.2
    intro e _
    rw [hasExpired, h]
    rfl
  rw [purge, hall]

/-- The mode that gives up the least recently used entry makes room by dropping the last one. -/
theorem makeRoom_lru (hp : p.WellFormed) (hmode : p.retention.mode = .lru)
    (htimeout : p.retention.timeout = none) {n : Nat} (hsize : p.retention.size = n + 1)
    (now : Nat) : (p.makeRoom now).2.entries = p.entries.take n := by
  have hbounded : p.size ≤ n + 1 := by
    have := hp.bounded
    omega
  by_cases hfull : p.size = n + 1
  · have hcount : min (n + 1 + 1 - (n + 1)) (n + 1) = 1 := by omega
    simp only [makeRoom_of_live (purge_of_no_timeout htimeout now), hsize, hfull, hcount, evict]
    rw [hmode, evictOne_lru hp.keys, List.dropLast_eq_take]
    exact congrArg (p.entries.take ·) (by rw [size] at hfull; omega)
  · have hspare : p.size < p.retention.size := by omega
    rw [makeRoom_of_lt hspare]
    exact (List.take_of_length_le (by rw [size] at hbounded hfull; omega)).symm

namespace Traces

/-- Losing entries that have expired does no harm. -/
theorem lose (h : p.Traces log) {entries : List Entry} (hsub : entries.Sublist p.entries)
    (htimeout : p.retention.timeout ≠ none) : Traces { p with entries } log where
  wellFormed := h.wellFormed.of_sublist hsub
  order := (hsub.map _).trans h.order
  numbered e he := h.numbered e (hsub.subset he)
  complete _ hnone _ := absurd hnone htimeout

theorem purge (h : p.Traces log) (now : Nat) : (p.purge now).Traces log := by
  by_cases htimeout : p.retention.timeout = none
  · rw [purge_of_no_timeout htimeout]
    exact h
  · exact h.lose (p.purge_entries_sublist now) htimeout

/-- A hit is a touch of its key. -/
theorem lookup (h : p.Traces log) (now : Nat) (c : Call) :
    (p.lookup now c.key).2.Traces
      ((c.touch? (.found (Memory.Found.response? (p.lookup now c.key).1))).toList ++ log) := by
  have hwell := h.wellFormed.lookup now c.key
  obtain ⟨_, heq⟩ | ⟨e, _, hold, heq⟩ | ⟨e, hf, _, heq⟩ := lookup_cases p now c.key
  · rw [heq]
    exact h
  · rw [heq]
    refine h.lose (removeKey_sublist c.key p.entries) fun hnone => hold ?_
    intro ms hms
    rw [hnone] at hms
    cases hms
  · rw [heq] at hwell ⊢
    obtain ⟨he, hkey⟩ := mem_of_find? hf
    refine ⟨hwell, ?_, ?_, ?_⟩
    · show (e.key :: keysOf (removeKey c.key p.entries)).Sublist (recent (c.key :: keysTouched log))
      rw [hkey, keysOf_removeKey]
      exact (h.order.filter _).cons_cons c.key
    · -- a hit is no put, and changes no number
      intro x hx
      rcases List.mem_cons.1 hx with rfl | hin
      · exact h.numbered e he
      · exact h.numbered x (mem_removeKey.1 hin).1
    · intro hmode htimeout hsize
      have hheld := h.complete hmode htimeout hsize
      obtain ⟨n, hn⟩ : ∃ n, p.retention.size = n + 1 := ⟨_, (Nat.succ_pred_eq_of_pos hsize).symm⟩
      have hin : c.key ∈ (recent (keysTouched log)).take (n + 1) := by
        rw [← hn, ← hheld]
        exact mem_keysOf_iff.2 ⟨e, hf⟩
      show e.key :: keysOf (removeKey c.key p.entries) =
        (recent (c.key :: keysTouched log)).take p.retention.size
      rw [hkey, keysOf_removeKey, hheld, hn, take_recent_of_mem hin]

/-- A put is a touch of its key. -/
theorem insert (h : p.Traces log) (now : Nat) (key : EntryKey) (response : Bytes) :
    (p.insert now key response).2.Traces (⟨key, true⟩ :: log) := by
  have hwell := h.wellFormed.insert now key response
  obtain ⟨kept, heq, hsub, _⟩ := insert_spec p now key response
  refine ⟨hwell, ?_, ?_, ?_⟩
  · rw [heq]
    have hkept : (keysOf kept).Sublist ((keysOf p.entries).filter (· != key)) := by
      rw [← keysOf_removeKey]
      exact hsub.map _
    exact (hkept.trans (h.order.filter _)).cons_cons key
  · -- the new entry has the last number, and one more put has come after all others
    intro e he
    rw [insert_lastNumber]
    show e.key ∈ key :: keysOfPuts log ∧
      e.number + (key :: keysOfPuts log).idxOf e.key = p.lastNumber + 1
    rcases mem_insert he with rfl | ⟨hold, hne⟩
    · rw [List.idxOf_cons_self]
      exact ⟨List.mem_cons_self, rfl⟩
    · obtain ⟨hput, hnumber⟩ := h.numbered e hold
      rw [List.idxOf_cons_ne _ hne.symm]
      exact ⟨List.mem_cons_of_mem key hput, by omega⟩
  · have hretention : (p.insert now key response).2.retention = p.retention := by rw [heq]
    rw [hretention]
    intro hmode htimeout hsize
    have hheld := h.complete hmode htimeout hsize
    obtain ⟨n, hn⟩ : ∃ n, p.retention.size = n + 1 := ⟨_, (Nat.succ_pred_eq_of_pos hsize).symm⟩
    rw [hn] at hheld ⊢
    show _ = (recent (key :: keysTouched log)).take (n + 1)
    by_cases hin : key ∈ (recent (keysTouched log)).take (n + 1)
    · obtain ⟨e, hf⟩ := mem_keysOf_iff.1 (hheld ▸ hin)
      rw [take_recent_of_mem hin, ← hheld, ← keysOf_removeKey]
      simp [Partition.insert, hf, keysOf]
    · have hf : p.find? key = none := by
        apply Option.not_isSome_iff_eq_none.1
        rw [Option.isSome_iff_exists, ← mem_keysOf_iff, hheld]
        exact hin
      have hroom := makeRoom_lru h.wellFormed hmode htimeout hn now
      rw [take_recent_of_notMem hin]
      simp only [Partition.insert, hf, Option.isSome_none, Bool.false_eq_true, if_false, keysOf,
        List.map_cons, hroom, List.map_take]
      rw [← keysOf, hheld, List.take_take, Nat.min_eq_left (Nat.le_succ n)]

theorem act (h : p.Traces log) (c : Call) (now : Nat) :
    (c.act now p).partition.Traces ((c.touch? (c.act now p).outcome).toList ++ log) := by
  unfold Call.act
  cases c.demand with
  | read => exact h.lookup now c
  | keep response => exact h.insert now c.key response
  | ask => exact h

end Traces

end Partition

/-! ### Runs -/

namespace Clocked

/-- A partition holds what its history says, and one that is not there has none. -/
structure Traces (name : String) (s : Clocked) (log : List Touch) : Prop where
  store : s.store.WellFormed
  held : ∀ p, s.store.partitions.find? name = some p → p.Traces log
  missing : s.store.partitions.find? name = none → log = []

variable {s : Clocked} {name : String} {log : List Touch}

theorem traces_fresh (name : String) (defaults : Retention) (now : Nat) :
    Traces name (fresh defaults now) [] where
  store := Memory.wellFormed_empty defaults
  held p hp := by
    rw [fresh, Memory.empty, NameMap.find?_empty] at hp
    cases hp
  missing _ := rfl

namespace Traces

/-- Registering a session adds no touch, and its partition is empty if it is new. -/
theorem register (h : Traces name s log) (nonce : String) (connection cache : PropertyMap)
    (retention : Retention) :
    Traces name { s with store := (s.store.register nonce connection cache retention).2 } log where
  store := h.store.register nonce connection cache retention
  held p hp := by
    rcases Memory.register_find?_eq_some hp with hold | ⟨hnone, rfl⟩
    · exact h.held p hold
    · rw [h.missing hnone]
      exact Partition.traces_empty retention
  missing hnone := by
    rw [Memory.register_find?, Option.or_eq_none_iff] at hnone
    exact h.missing hnone.1

/-- A call is written down in the history of its partition, and in no other. -/
theorem call (h : Traces name s log) {op : Operation} {c : Call} (hop : op.call? = some c) :
    Traces name (s.step op).2
      (((s.told name op).bind fun told => told.1.touch? told.2).toList ++ log) := by
  have hstore := wellFormed_step h.store op
  rw [step_eq_call hop] at hstore
  simp only [told, hop, step_eq_call hop]
  by_cases hc : s.store.registry.partitionOf c.session = .ok name
  · rw [if_pos hc]
    obtain ⟨e, heq⟩ | ⟨name', p, hp, heq⟩ := s.call_cases c
    · rw [heq]
      exact h
    · obtain ⟨hname, hfind⟩ := Memory.partition_eq_ok.1 hp
      obtain rfl : name = name' := Except.ok.inj (hc.symm.trans hname)
      have hafter := (h.held p hfind).act c s.now
      rw [heq] at hstore ⊢
      refine ⟨hstore, fun p' hp' => ?_, fun hnone => ?_⟩
      · rw [Memory.after, NameMap.find?_insert_self] at hp'
        obtain rfl := Option.some.inj hp'
        exact hafter
      · rw [Memory.after, NameMap.find?_insert_self] at hnone
        cases hnone
  · rw [if_neg hc]
    have hsame := call_find?_of_ne hc
    exact ⟨hstore, fun p hp => h.held p (hsame ▸ hp), fun hnone => h.missing (hsame ▸ hnone)⟩

end Traces

/-- Every operation keeps a partition in step with its history. -/
theorem traces_step (h : Traces name s log) (op : Operation) :
    Traces name (s.step op).2 (s.noteTouch name log op) := by
  cases op with
  | configure nonce connection cache => exact h.register nonce connection cache _
  | tryConfigure nonce connection cache =>
    simp only [noteTouch, told, step, Memory.tryConfigure]
    cases s.store.defaults.overlay cache with
    | error e => exact h
    | ok retention => exact h.register nonce connection cache retention
  | get id url request => exact h.call rfl
  | put id url request response => exact h.call rfl
  | contains id url request => exact h.call rfl
  | purge =>
    refine ⟨wellFormed_step h.store .purge, fun p hp => ?_, fun hnone => ?_⟩
    · simp only [step, Memory.purge, NameMap.find?_map, Option.map_eq_some_iff] at hp
      obtain ⟨q, hq, rfl⟩ := hp
      exact (h.held q hq).purge s.now
    · simp only [step, Memory.purge, NameMap.find?_map, Option.map_eq_none_iff] at hnone
      exact h.missing hnone
  | flush =>
    refine ⟨wellFormed_step h.store .flush, fun p hp => ?_, fun _ => rfl⟩
    simp only [step, Memory.flush, NameMap.find?_map, Option.map_eq_some_iff] at hp
    obtain ⟨q, hq, rfl⟩ := hp
    exact Partition.traces_clear (h.store.partitions name q hq)
  | sleep ms => exact ⟨h.store, h.held, h.missing⟩

theorem traces_run (h : Traces name s log) (ops : List Operation) :
    Traces name (s.run ops) (s.touches name log ops) := by
  induction ops generalizing s log with
  | nil => exact h
  | cons op ops ih => exact ih (traces_step h op)

end Clocked

/-- **The most recent keys are kept.** After any run of a store that began without sessions, let a
partition give up the least recently used entry, keep entries without a timeout, and have a positive
size. The keys that it holds are the first ones, as many as the size admits, of the keys that were
touched since the last flush, in the same order: each of those stands once in that order, the one
that was touched last first. -/
theorem keeps_most_recent (defaults : Retention) (start : Nat) (ops : List Operation) (name : String)
    (p : Partition)
    (hp : ((Clocked.fresh defaults start).run ops).store.partitions.find? name = some p)
    (hmode : p.retention.mode = .lru) (htimeout : p.retention.timeout = none)
    (hsize : 1 ≤ p.retention.size) :
    let touched := keysTouched ((Clocked.fresh defaults start).touches name [] ops)
    keysOf p.entries = (recent touched).take p.retention.size ∧
    p.size = min p.retention.size (recent touched).length ∧
    (recent touched).Nodup ∧ (∀ key, key ∈ recent touched ↔ key ∈ touched) ∧
    (recent touched).Pairwise fun key key' => touched.idxOf key < touched.idxOf key' := by
  intro touched
  have h := (Clocked.traces_run (Clocked.traces_fresh name defaults start) ops).held p hp
  have hheld := h.complete hmode htimeout hsize
  refine ⟨hheld, ?_, nodup_recent touched, fun _ => mem_recent, pairwise_recent touched⟩
  rw [← List.length_take, ← hheld, keysOf, List.length_map, Partition.size]

/-- Room for two keys: a hit protects its key, while a look-up in vain and a question do not. -/
theorem keeps_most_recent_two :
    let cache : PropertyMap := ((∅ : PropertyMap).insert "Size" "2").insert "Timeout" "0"
    let url : Url := ⟨"http", none, .segments [[]], none, none⟩
    let id : SessionId := ⟨"s1-a"⟩
    let ops : List Operation :=
      [.configure "a" ∅ cache, .put id url [9] [9], .flush, .put id url [1] [1], .put id url [2] [2],
        .get id url [1], .contains id url [2], .get id url [9], .put id url [3] [3]]
    ∃ p, ((Clocked.fresh .standard 0).run ops).store.partitions.find? "session:s1-a" = some p ∧
      keysOf p.entries = [.of url [3], .of url [1]] ∧
      keysOf p.entries =
        (recent (keysTouched ((Clocked.fresh .standard 0).touches "session:s1-a" [] ops))).take 2 := by
  intro cache url id ops
  have hp : ((Clocked.fresh .standard 0).run ops).store.partitions.find? "session:s1-a" =
      some ⟨⟨2, none, .lru⟩, [⟨.of url [3], [3], 0, 0, 4⟩, ⟨.of url [1], [1], 0, 1, 2⟩], 4⟩ := by
    decide +kernel
  exact ⟨_, hp, rfl,
    (keeps_most_recent .standard 0 ops "session:s1-a" _ hp rfl rfl (by decide)).1⟩

end OlapClient.Cache
