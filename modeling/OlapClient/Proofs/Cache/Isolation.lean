import OlapClient.Proofs.Cache.WellFormed

namespace OlapClient.Cache

open Location (Url)

/-!
# Isolation

Nothing that the sessions of one partition do can be noticed in another.

* `Clocked.Alike` — two stores that cannot be told apart in one partition.
* `Clocked.Alike.step`, `Clocked.Foreign.alike` — every operation keeps two stores alike, and a call
  of a session of another partition may be left out of one.
* `Clocked.Thinned` — a run from which some such calls are left out.
* `Clocked.heard` — what the sessions of a partition are told in a run.
* `Registry.WellFormed.partition_eq_iff` — the sessions that have one partition.
* `Clocked.Commute`, `Clocked.commute_of_ne` — calls of sessions of different partitions may be made
  in either order.
* `partitions_isolated` — all of it about a store that began without sessions.
-/

/-! ### Calls of other partitions -/

namespace Memory

/-- A session's partition is what its name leads to. -/
theorem partition_congr {m m' : Memory} {id : SessionId} (hregistry : m.registry = m'.registry)
    (hfind : ∀ name, m.registry.partitionOf id = .ok name →
      m.partitions.find? name = m'.partitions.find? name) : m.partition id = m'.partition id := by
  unfold partition
  rw [← hregistry]
  cases hname : m.registry.partitionOf id with
  | error e => rfl
  | ok name => simp only [hfind name hname]

/-- Effects on two partitions may be had in either order. -/
theorem after_comm (m : Memory) {name name' : String} (h : name ≠ name') (e e' : Effect) :
    (m.after name e).after name' e' = (m.after name' e').after name e := by
  simp only [after, NameMap.insert_comm m.partitions e.partition e'.partition h,
    Counters.add_right_comm m.counters]

end Memory

namespace Clocked

variable {s t : Clocked} {c d : Call} {op : Operation} {name : String}

/-- A call changes no partition but that of its session. -/
theorem call_find?_of_ne (h : s.store.registry.partitionOf c.session ≠ .ok name) :
    (s.call c).2.store.partitions.find? name = s.store.partitions.find? name := by
  obtain ⟨e, heq⟩ | ⟨name', p, hp, heq⟩ := s.call_cases c
  · rw [heq]
  · have hname : name' ≠ name := by
      rintro rfl
      exact h (Memory.partition_eq_ok.1 hp).1
    rw [heq]
    exact NameMap.find?_insert_of_ne _ _ hname

/-- What a caller is told depends on nothing but the time and the partition of its session. -/
theorem call_outcome_congr (hnow : s.now = t.now)
    (hp : s.store.partition c.session = t.store.partition c.session) :
    (s.call c).1 = (t.call c).1 := by
  by_cases hr : c.request = []
  · rw [call_of_nil hr, call_of_nil hr]
  · cases hs : s.store.partition c.session with
    | error e => rw [call_of_error hr hs, call_of_error hr (hp.symm.trans hs)]
    | ok np => rw [call_of_partition hr hs, call_of_partition hr (hp.symm.trans hs), hnow]

/-! ### One partition in two stores -/

/-- Two stores have the same sessions, and one partition in common. -/
structure Alike (name : String) (s t : Clocked) : Prop where
  now : s.now = t.now
  registry : s.store.registry = t.store.registry
  defaults : s.store.defaults = t.store.defaults
  partition : s.store.partitions.find? name = t.store.partitions.find? name

namespace Alike

theorem refl (name : String) (s : Clocked) : Alike name s s :=
  ⟨rfl, rfl, rfl, rfl⟩

theorem trans {u : Clocked} (h : Alike name s t) (h' : Alike name t u) : Alike name s u :=
  ⟨h.now.trans h'.now, h.registry.trans h'.registry, h.defaults.trans h'.defaults,
    h.partition.trans h'.partition⟩

/-- The sessions of the common partition find the same under it. -/
theorem partition_session (h : Alike name s t) {id : SessionId}
    (hid : s.store.registry.partitionOf id = .ok name) :
    s.store.partition id = t.store.partition id := by
  refine Memory.partition_congr h.registry fun name' hname' => ?_
  rw [hid] at hname'
  cases hname'
  exact h.partition

theorem call (h : Alike name s t) (c : Call) : Alike name (s.call c).2 (t.call c).2 where
  now := by rw [call_now, call_now, h.now]
  registry := by rw [call_registry, call_registry, h.registry]
  defaults := by rw [call_defaults, call_defaults, h.defaults]
  partition := by
    -- a call of the common partition has one effect in both stores, any other has none on it
    by_cases hc : s.store.registry.partitionOf c.session = .ok name
    · have hsame := h.partition_session hc
      by_cases hr : c.request = []
      · rw [call_of_nil hr, call_of_nil hr]
        exact h.partition
      · cases hs : s.store.partition c.session with
        | error e =>
          rw [call_of_error hr hs, call_of_error hr (hsame.symm.trans hs)]
          exact h.partition
        | ok np =>
          obtain ⟨name', p⟩ := np
          have hname := (Memory.partition_eq_ok.1 hs).1
          rw [hc] at hname
          cases hname
          rw [call_of_partition hr hs, call_of_partition hr (hsame.symm.trans hs), h.now]
          exact (NameMap.find?_insert_self _ _ _).trans (NameMap.find?_insert_self _ _ _).symm
    · have hc' : t.store.registry.partitionOf c.session ≠ .ok name := h.registry ▸ hc
      rw [call_find?_of_ne hc, call_find?_of_ne hc', h.partition]

theorem register (h : Alike name s t) (nonce : String) (connection cache : PropertyMap)
    (retention : Retention) :
    Alike name { s with store := (s.store.register nonce connection cache retention).2 }
      { t with store := (t.store.register nonce connection cache retention).2 } where
  now := h.now
  registry := by simp only [Memory.register, h.registry]
  defaults := h.defaults
  partition := by rw [Memory.register_find?, Memory.register_find?, h.partition, h.registry]

/-- Whatever an operation is, it does the same to the common partition. -/
theorem step (h : Alike name s t) (op : Operation) : Alike name (s.step op).2 (t.step op).2 := by
  induction op using Operation.cases_call with
  | call op c hop =>
    rw [step_eq_call hop, step_eq_call hop]
    exact h.call c
  | configure nonce connection cache =>
    simp only [Clocked.step, Memory.configure, h.defaults]
    exact h.register nonce connection cache _
  | tryConfigure nonce connection cache =>
    simp only [Clocked.step, Memory.tryConfigure, h.defaults]
    cases t.store.defaults.overlay cache with
    | error e => exact h
    | ok retention => exact h.register nonce connection cache retention
  | purge =>
    refine ⟨h.now, h.registry, h.defaults, ?_⟩
    simp only [Clocked.step, Memory.purge, NameMap.find?_map, h.partition, h.now]
  | flush =>
    refine ⟨h.now, h.registry, h.defaults, ?_⟩
    simp only [Clocked.step, Memory.flush, NameMap.find?_map, h.partition]
  | sleep ms => exact ⟨congrArg (· + ms) h.now, h.registry, h.defaults, h.partition⟩

end Alike

/-! ### Runs -/

/-- An operation is a call, but not of a session of this partition. -/
def Foreign (s : Clocked) (name : String) (op : Operation) : Prop :=
  ∃ c, op.call? = some c ∧ s.store.registry.partitionOf c.session ≠ .ok name

/-- A call of another partition changes nothing in this one. -/
theorem Foreign.alike (h : s.Foreign name op) : Alike name (s.step op).2 s := by
  obtain ⟨c, hcall, hc⟩ := h
  rw [step_eq_call hcall]
  exact ⟨s.call_now c, s.call_registry c, s.call_defaults c, call_find?_of_ne hc⟩

/-- The second list of operations is the first without some of the calls of sessions of other
partitions. What partition a session has is read from the run of the first. -/
inductive Thinned (name : String) : Clocked → List Operation → List Operation → Prop where
  | nil (s : Clocked) : Thinned name s [] []
  | keep {s : Clocked} {ops ops' : List Operation} (op : Operation)
      (h : Thinned name (s.step op).2 ops ops') : Thinned name s (op :: ops) (op :: ops')
  | drop {s : Clocked} {op : Operation} {ops ops' : List Operation} (hop : s.Foreign name op)
      (h : Thinned name (s.step op).2 ops ops') : Thinned name s (op :: ops) ops'

/-- What a partition's session is told of a call, if the operation is one. -/
def told (s : Clocked) (name : String) (op : Operation) : Option (Call × Outcome) :=
  match op.call? with
  | some c =>
    if s.store.registry.partitionOf c.session = .ok name then some (c, (s.step op).1) else none
  | none => none

/-- The calls of a partition's sessions in a run, each with what its caller is told. -/
def heard (name : String) (s : Clocked) : List Operation → List (Call × Outcome)
  | [] => []
  | op :: ops => (s.told name op).toList ++ heard name (s.step op).2 ops

theorem Foreign.told (h : s.Foreign name op) : s.told name op = none := by
  obtain ⟨c, hcall, hc⟩ := h
  simp only [Clocked.told, hcall, if_neg hc]

theorem Alike.told (h : Alike name s t) (op : Operation) : s.told name op = t.told name op := by
  unfold Clocked.told
  cases hcall : op.call? with
  | none => rfl
  | some c =>
    by_cases hc : s.store.registry.partitionOf c.session = .ok name
    · have hc' : t.store.registry.partitionOf c.session = .ok name := h.registry ▸ hc
      have houtcome := call_outcome_congr h.now (h.partition_session hc)
      simp only [if_pos hc, if_pos hc', step_eq_call hcall, houtcome]
    · have hc' : t.store.registry.partitionOf c.session ≠ .ok name := h.registry ▸ hc
      simp only [if_neg hc, if_neg hc']

/-- A run from which calls of other partitions are left out is the same to this partition. -/
theorem Thinned.alike {ops ops' : List Operation} (h : Thinned name s ops ops')
    (ht : Alike name s t) :
    t.heard name ops' = s.heard name ops ∧ Alike name (s.run ops) (t.run ops') := by
  -- the stores stay alike, be an operation done in both or in the first alone
  induction h generalizing t with
  | nil s => exact ⟨rfl, ht⟩
  | keep op _ ih =>
    obtain ⟨hheard, hrun⟩ := ih (ht.step op)
    refine ⟨?_, hrun⟩
    rw [heard, heard, hheard, ht.told op]
  | drop hop _ ih =>
    obtain ⟨hheard, hrun⟩ := ih (hop.alike.trans ht)
    refine ⟨?_, hrun⟩
    rw [hheard, heard, hop.told]
    rfl

/-! ### Sessions that have one partition -/

/-- No operation takes a session away or gives it another partition. -/
theorem grows_step (s : Clocked) (op : Operation) :
    s.store.registry.Grows (s.step op).2.store.registry := by
  have hstep := s.steps op
  generalize s.step op = r at hstep ⊢
  cases hstep with
  | called hcall =>
    rw [call_registry]
    exact .refl _
  | enrolled nonce connection cache retention =>
    exact s.store.registry.register_grows nonce connection cache
  | _ => exact .refl _

theorem grows_run (s : Clocked) (ops : List Operation) :
    s.store.registry.Grows (s.run ops).store.registry := by
  induction ops generalizing s with
  | nil => exact .refl _
  | cons op ops ih => exact (s.grows_step op).trans (ih _)

end Clocked

/-- Where unnamed sessions are kept apart, two sessions have one partition if they are the same or
have the same name, and in no other case. -/
theorem Registry.WellFormed.partition_eq_iff {r : Registry} (h : r.WellFormed)
    (hsharing : r.sharing = .isolated) {x y : Session} (hx : x ∈ r.sessions)
    (hy : y ∈ r.sessions) :
    x.partition = y.partition ↔ x.id = y.id ∨ ∃ name,
      partitionName? x.cacheProperties = some name ∧
      partitionName? y.cacheProperties = some name := by
  constructor
  · intro heq
    rw [h.placed x hx, h.placed y hy, hsharing] at heq
    exact Sharing.isolated_partition_inj heq
  · rintro (hid | ⟨name, hname, hname'⟩)
    · -- an id leads to one session only
      have hfound := h.found x hx
      rw [hid, h.found y hy] at hfound
      cases hfound
      rfl
    · rw [h.placed x hx, h.placed y hy, partition_of_name hname, partition_of_name hname']

/-- Whether an operation is a call of a session. -/
def Operation.isCallOf (id : SessionId) (op : Operation) : Bool :=
  match op.call? with
  | some c => c.session == id
  | none => false

/-- Operations but for the calls of a session. -/
def withoutCalls (id : SessionId) (ops : List Operation) : List Operation :=
  ops.filter (!·.isCallOf id)

namespace Clocked

variable {s : Clocked}

/-- To leave out the calls of a session is to thin a run, for every partition but its own. -/
theorem thinned_withoutCalls (h : s.store.WellFormed) {id : SessionId} {name : String}
    {ops : List Operation} (hid : (s.run ops).store.registry.partitionOf id ≠ .ok name) :
    Thinned name s ops (withoutCalls id ops) := by
  induction ops generalizing s with
  | nil => exact .nil s
  | cons op ops ih =>
    have hrest := ih (wellFormed_step h op) hid
    cases hop : op.isCallOf id with
    | false =>
      have hkeep : withoutCalls id (op :: ops) = op :: withoutCalls id ops :=
        List.filter_cons_of_pos (by simp [hop])
      rw [hkeep]
      exact .keep op hrest
    | true =>
      have hdrop : withoutCalls id (op :: ops) = withoutCalls id ops :=
        List.filter_cons_of_neg (by simp [hop])
      -- the session cannot have the partition now and another in the end
      have hforeign : s.Foreign name op := by
        unfold Operation.isCallOf at hop
        split at hop
        · rename_i c hcall
          refine ⟨c, hcall, fun hc => hid ?_⟩
          rw [beq_iff_eq.1 hop] at hc
          exact (s.grows_run (op :: ops)).partitionOf h.registry.numbered hc
        · cases hop
      rw [hdrop]
      exact .drop hforeign hrest

/-! ### Calls in either order -/

/-- Two operations may be done in either order: both callers are told the same, and the store is
the same in the end. -/
def Commute (s : Clocked) (op op' : Operation) : Prop :=
  ((s.step op').2.step op).1 = (s.step op).1 ∧ ((s.step op).2.step op').1 = (s.step op').1 ∧
    ((s.step op).2.step op').2 = ((s.step op').2.step op).2

variable {c d : Call}

/-- A session's partition is the same after a call of another partition. -/
theorem partition_call_of_ne (h : s.store.registry.partitionOf c.session ≠
      s.store.registry.partitionOf d.session) :
    (s.call d).2.store.partition c.session = s.store.partition c.session := by
  refine Memory.partition_congr (s.call_registry d) fun name hname => ?_
  rw [call_registry] at hname
  exact call_find?_of_ne fun hd => h (hname.trans hd.symm)

theorem call_comm (h : s.store.registry.partitionOf c.session ≠
      s.store.registry.partitionOf d.session) :
    ((s.call c).2.call d).2 = ((s.call d).2.call c).2 := by
  have hc := partition_call_of_ne h
  have hd := partition_call_of_ne h.symm
  -- a call that fails does so in either order; two that do not act on different partitions
  by_cases hrc : c.request = []
  · rw [call_of_nil hrc, call_of_nil hrc]
  · by_cases hrd : d.request = []
    · rw [call_of_nil hrd, call_of_nil hrd]
    · cases hpc : s.store.partition c.session with
      | error e => rw [call_of_error hrc hpc, call_of_error hrc (hc.trans hpc)]
      | ok nc =>
        cases hpd : s.store.partition d.session with
        | error e => rw [call_of_error hrd hpd, call_of_error hrd (hd.trans hpd)]
        | ok nd =>
          obtain ⟨name, p⟩ := nc
          obtain ⟨name', p'⟩ := nd
          have hne : name ≠ name' := by
            rintro rfl
            exact h ((Memory.partition_eq_ok.1 hpc).1.trans (Memory.partition_eq_ok.1 hpd).1.symm)
          rw [call_of_partition hrd (hd.trans hpd), call_of_partition hrc (hc.trans hpc),
            call_of_partition hrc hpc, call_of_partition hrd hpd]
          exact congrArg (Clocked.mk · s.now) (s.store.after_comm hne _ _)

/-- Calls of sessions of different partitions may be made in either order. -/
theorem commute_of_ne {op op' : Operation} (hop : op.call? = some c) (hop' : op'.call? = some d)
    (h : s.store.registry.partitionOf c.session ≠ s.store.registry.partitionOf d.session) :
    s.Commute op op' := by
  unfold Commute
  simp only [step_eq_call hop, step_eq_call hop']
  exact ⟨call_outcome_congr (s.call_now d) (partition_call_of_ne h),
    call_outcome_congr (s.call_now c) (partition_call_of_ne h.symm), call_comm h⟩

end Clocked

/-- **Partitions are isolated.** In any run of a store that began without sessions, and for any
partition: if calls of sessions of other partitions are left out, the sessions of the partition are
told the same, and in the end it has the same entries in the same order, with the same hits and
numbers. Two sessions have one partition only if they are the same or have the same name, so that
nothing changes for any other session if the calls of an unnamed one are left out. Calls of sessions
of different partitions may be made in either order. -/
theorem partitions_isolated (defaults : Retention) (start : Nat) (ops : List Operation) :
    let s := Clocked.fresh defaults start
    let m := (s.run ops).store
    (∀ name ops', Clocked.Thinned name s ops ops' →
      s.heard name ops' = s.heard name ops ∧
      (s.run ops').store.partitions.find? name = m.partitions.find? name) ∧
    (∀ x ∈ m.registry.sessions, ∀ y ∈ m.registry.sessions,
      (x.partition = y.partition ↔ x.id = y.id ∨ ∃ name,
        partitionName? x.cacheProperties = some name ∧
        partitionName? y.cacheProperties = some name)) ∧
    (∀ x ∈ m.registry.sessions, ∀ y ∈ m.registry.sessions, x.id ≠ y.id →
      partitionName? y.cacheProperties = none →
      s.heard x.partition (withoutCalls y.id ops) = s.heard x.partition ops ∧
      (s.run (withoutCalls y.id ops)).store.partitions.find? x.partition =
        m.partitions.find? x.partition) ∧
    (∀ op op' c d, op.call? = some c → op'.call? = some d →
      m.registry.partitionOf c.session ≠ m.registry.partitionOf d.session →
      (s.run ops).Commute op op') := by
  intro s m
  have hstart : s.store.WellFormed := Memory.wellFormed_empty defaults
  have h : m.WellFormed := Clocked.wellFormed_run hstart ops
  have hsharing : m.registry.sharing = .isolated := (s.grows_run ops).sharing
  have hthin (name : String) (ops' : List Operation) (hthinned : Clocked.Thinned name s ops ops') :
      s.heard name ops' = s.heard name ops ∧
      (s.run ops').store.partitions.find? name = m.partitions.find? name := by
    obtain ⟨hheard, hrun⟩ := hthinned.alike (.refl name s)
    exact ⟨hheard, hrun.partition.symm⟩
  have hplaced (x : Session) (hx : x ∈ m.registry.sessions) (y : Session)
      (hy : y ∈ m.registry.sessions) := h.registry.partition_eq_iff hsharing hx hy
  refine ⟨hthin, hplaced, fun x hx y hy hid hname => ?_, fun _ _ _ _ => Clocked.commute_of_ne⟩
  refine hthin _ _ (Clocked.thinned_withoutCalls hstart fun hy' => ?_)
  -- an unnamed session has the partition of no other
  have hfound := Registry.partitionOf_of_lookup (h.registry.found y hy)
  obtain hsame | ⟨name, _, hsome⟩ :=
    (hplaced x hx y hy).1 (Except.ok.inj (hy'.symm.trans hfound))
  · exact hid hsame
  · rw [hname] at hsome
    cases hsome

/-- Two sessions with the same properties and room for one entry each: neither finds or drives out
what the other has put. -/
theorem partitions_isolated_same_properties :
    let cache : PropertyMap := (∅ : PropertyMap).insert "Size" "1"
    let url : Url := ⟨"http", none, .segments [[]], none, none⟩
    let a : SessionId := ⟨"s1-a"⟩
    let b : SessionId := ⟨"s2-b"⟩
    let ops : List Operation :=
      [.configure "a" ∅ cache, .configure "b" ∅ cache, .put a url [1] [1], .put b url [2] [2],
        .get a url [2], .get b url [1], .get a url [1]]
    let ops' : List Operation :=
      [.configure "a" ∅ cache, .configure "b" ∅ cache, .put a url [1] [1], .get a url [2],
        .get b url [1], .get a url [1]]
    let s := Clocked.fresh .standard 0
    Clocked.Thinned "session:s1-a" s ops ops' ∧
      s.heard "session:s1-a" ops' = s.heard "session:s1-a" ops ∧
      (s.heard "session:s1-a" ops).map (·.2) = [.stored, .found none, .found (some [1])] ∧
      (∃ x ∈ (s.run ops).store.registry.sessions, x.id = a ∧
        ∃ y ∈ (s.run ops).store.registry.sessions, y.id = b ∧ x.partition ≠ y.partition ∧
          s.heard x.partition (withoutCalls y.id ops) = s.heard x.partition ops) ∧
      (s.run ops).Commute (.put a url [3] [3]) (.get b url [2]) := by
  intro cache url a b ops ops' s
  have hforeign : ((s.run (ops.take 3)).Foreign "session:s1-a" (.put b url [2] [2])) :=
    ⟨_, rfl, by decide +kernel⟩
  have hthinned : Clocked.Thinned "session:s1-a" s ops ops' :=
    .keep _ (.keep _ (.keep _ (.drop hforeign (.keep _ (.keep _ (.keep _ (.nil _)))))))
  have htold : (s.heard "session:s1-a" ops).map (·.2) =
      [.stored, .found none, .found (some [1])] := by
    decide +kernel
  have hne : (s.run ops).store.registry.partitionOf a ≠ (s.run ops).store.registry.partitionOf b := by
    decide +kernel
  obtain ⟨x, hx, hxid, hxname⟩ : ∃ x ∈ (s.run ops).store.registry.sessions, x.id = a ∧
      partitionName? x.cacheProperties = none := by
    decide +kernel
  obtain ⟨y, hy, hyid, hyname⟩ : ∃ y ∈ (s.run ops).store.registry.sessions, y.id = b ∧
      partitionName? y.cacheProperties = none := by
    decide +kernel
  have hids : x.id ≠ y.id := by
    rw [hxid, hyid]
    decide
  have hall := partitions_isolated .standard 0 ops
  have hs : Clocked.fresh .standard 0 = s := rfl
  simp only [hs] at hall
  obtain ⟨hthin, hplaced, hunnamed, hcommute⟩ := hall
  refine ⟨hthinned, (hthin _ _ hthinned).1, htold, ⟨x, hx, hxid, y, hy, hyid, fun heq => ?_,
    (hunnamed x hx y hy hids hyname).1⟩, hcommute _ _ _ _ rfl rfl hne⟩
  obtain hsame | ⟨name, hsome, _⟩ := (hplaced x hx y hy).1 heq
  · exact hids hsame
  · rw [hxname] at hsome
    cases hsome

end OlapClient.Cache
