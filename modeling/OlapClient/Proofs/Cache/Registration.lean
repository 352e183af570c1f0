import OlapClient.Proofs.Cache.WellFormed

namespace OlapClient.Cache

/-!
# Registrations

What a registry tells of the sessions that are registered with it one after the other.

* `Enrolment` — what a session is registered with.
* `Registry.enrol`, `Registry.enrolAll` — one registration, and a sequence of them.
* `Registry.sessions_enrolAll`, `Registry.grows_enrolAll`, `Registry.wellFormed_enrolAll` — what a
  sequence leaves: the sessions of before, and one for each enrolment.
* `Registry.nodup_enrolAll` — no id is issued twice.
* `Sharing.partition_inj` — which sessions have one partition, however unnamed ones share.
* `registrations` — all of it about a registry that began without sessions.
-/

/-- What a session is registered with: the random text of its id, and the properties of its
connection and of its cache. -/
structure Enrolment where
  nonce : String
  connection : PropertyMap
  cache : PropertyMap

/-! ### Partitions -/

theorem partition_of_shared {shared : String} {id : SessionId} {cache : PropertyMap}
    (h : partitionName? cache = none) :
    (Sharing.shared shared).partition id cache = "shared:" ++ shared := by
  unfold Sharing.partition
  rw [h]

/-- The partition of a name is not the one that unnamed sessions share. -/
theorem named_ne_shared (name text : String) : "named:" ++ name ≠ "shared:" ++ text := by
  intro h
  have hchars := congrArg String.toList h
  simp only [String.toList_append] at hchars
  change 'n' :: _ = 's' :: _ at hchars
  cases hchars

/-- Two sessions have one partition only if they are the same, or have the same name, or have no name
and unnamed sessions share one. -/
theorem Sharing.partition_inj {sharing : Sharing} {a b : SessionId} {p q : PropertyMap}
    (h : sharing.partition a p = sharing.partition b q) :
    a = b ∨ (∃ name, partitionName? p = some name ∧ partitionName? q = some name) ∨
      (sharing ≠ .isolated ∧ partitionName? p = none ∧ partitionName? q = none) := by
  cases sharing with
  | isolated => exact (Sharing.isolated_partition_inj h).imp_right .inl
  | shared shared =>
    refine .inr ?_
    cases hp : partitionName? p with
    | none =>
      cases hq : partitionName? q with
      | none => exact .inr ⟨by simp, rfl, rfl⟩
      | some name =>
        rw [partition_of_shared hp, partition_of_name hq] at h
        exact absurd h.symm (named_ne_shared name shared)
    | some name =>
      cases hq : partitionName? q with
      | none =>
        rw [partition_of_name hp, partition_of_shared hq] at h
        exact absurd h (named_ne_shared name shared)
      | some name' =>
        rw [partition_of_name hp, partition_of_name hq] at h
        have hname := String.append_right_inj _ |>.1 h
        exact .inl ⟨name, rfl, congrArg some hname.symm⟩

namespace Registry

variable {r : Registry}

/-! ### Sequences of registrations -/

/-- Register a session. -/
def enrol (r : Registry) (e : Enrolment) : Session × Registry :=
  r.register e.nonce e.connection e.cache

/-- Register one session after the other. The sessions come in the order of their registration. -/
def enrolAll (r : Registry) : List Enrolment → List Session × Registry
  | [] => ([], r)
  | e :: es => ((r.enrol e).1 :: ((r.enrol e).2.enrolAll es).1, ((r.enrol e).2.enrolAll es).2)

theorem sharing_enrolAll (r : Registry) (es : List Enrolment) :
    (r.enrolAll es).2.sharing = r.sharing := by
  induction es generalizing r with
  | nil => rfl
  | cons e es ih => exact ih _

/-- A sequence of registrations leaves the sessions of before behind those that it makes. -/
theorem sessions_enrolAll (r : Registry) (es : List Enrolment) :
    (r.enrolAll es).2.sessions = (r.enrolAll es).1.reverse ++ r.sessions := by
  induction es generalizing r with
  | nil => rfl
  | cons e es ih =>
    simp only [enrolAll, ih, List.reverse_cons, List.append_assoc, List.singleton_append]
    rfl

theorem grows_enrolAll (r : Registry) (es : List Enrolment) : r.Grows (r.enrolAll es).2 := by
  induction es generalizing r with
  | nil => exact .refl r
  | cons e es ih => exact (r.register_grows e.nonce e.connection e.cache).trans (ih _)

theorem wellFormed_enrolAll (h : r.WellFormed) (es : List Enrolment) :
    (r.enrolAll es).2.WellFormed := by
  induction es generalizing r with
  | nil => exact h
  | cons e es ih => exact ih (h.register e.nonce e.connection e.cache)

/-- No id is issued twice, whatever the random texts are. -/
theorem nodup_enrolAll (h : r.WellFormed) (hnodup : (r.sessions.map (·.id)).Nodup)
    (es : List Enrolment) : ((r.enrolAll es).2.sessions.map (·.id)).Nodup := by
  induction es generalizing r with
  | nil => exact hnodup
  | cons e es ih =>
    refine ih (h.register e.nonce e.connection e.cache) (List.nodup_cons.2 ⟨fun hmem => ?_, hnodup⟩)
    obtain ⟨x, hx, hid⟩ := List.mem_map.1 hmem
    exact h.numbered.ne_new hx e.nonce e.connection e.cache hid.symm

/-- A session keeps what it was registered with. -/
theorem enrolled_enrolAll (r : Registry) (es : List Enrolment) {p : Enrolment × Session}
    (hp : p ∈ es.zip (r.enrolAll es).1) :
    p.2.config = NameMap.override p.1.connection p.1.cache ∧ p.2.cacheProperties = p.1.cache := by
  induction es generalizing r with
  | nil => cases hp
  | cons e es ih =>
    rcases List.mem_cons.1 hp with rfl | hlater
    · exact ⟨rfl, rfl⟩
    · exact ih _ hlater

theorem length_enrolAll (r : Registry) (es : List Enrolment) :
    (r.enrolAll es).1.length = es.length := by
  induction es generalizing r with
  | nil => rfl
  | cons e es ih => exact congrArg (· + 1) (ih _)

/-- An id that no session has is reported as never issued. -/
theorem lookup_of_unknown {id : SessionId} (h : ∀ x ∈ r.sessions, x.id ≠ id) :
    r.lookup id = .error (.uninitialized id) := by
  have hf : r.sessions.find? (·.id == id) = none := by simpa using h
  simp only [lookup, hf]

/-- Two sessions have one partition if they are the same, or have the same name, or have no name and
unnamed sessions share one, and in no other case. -/
theorem WellFormed.same_partition_iff (h : r.WellFormed) {x y : Session} (hx : x ∈ r.sessions)
    (hy : y ∈ r.sessions) :
    x.partition = y.partition ↔ x = y ∨
      (∃ name, partitionName? x.cacheProperties = some name ∧
        partitionName? y.cacheProperties = some name) ∨
      (r.sharing ≠ .isolated ∧ partitionName? x.cacheProperties = none ∧
        partitionName? y.cacheProperties = none) := by
  constructor
  · intro heq
    rw [h.placed x hx, h.placed y hy] at heq
    refine (Sharing.partition_inj heq).imp_left fun hid => ?_
    -- an id leads to one session only
    have hfound := h.found x hx
    rw [hid, h.found y hy] at hfound
    cases hfound
    rfl
  · rintro (rfl | ⟨name, hname, hname'⟩ | ⟨hshared, hnone, hnone'⟩)
    · rfl
    · rw [h.placed x hx, h.placed y hy, partition_of_name hname, partition_of_name hname']
    · rw [h.placed x hx, h.placed y hy]
      cases hsharing : r.sharing with
      | isolated => exact absurd hsharing hshared
      | shared shared => rw [partition_of_shared hnone, partition_of_shared hnone']

end Registry

/-- **Registrations.** Whatever sessions are registered with a registry that began without any, and
whatever the random texts of their ids: there is one for each enrolment, and no two have one id; a
session has the properties of its connection with those of its cache put over them; whatever is
registered later, its id leads to it and to its partition; an id that was not issued is reported as
that; and two sessions have one partition if and only if they are the same, or both have the same
name, or neither has a name and unnamed sessions share one. -/
theorem registrations (sharing : Sharing) (es later : List Enrolment) :
    let xs := ((Registry.empty sharing).enrolAll es).1
    let r := ((Registry.empty sharing).enrolAll es).2
    let r' := (r.enrolAll later).2
    xs.length = es.length ∧ (xs.map (·.id)).Nodup ∧
    (∀ p ∈ es.zip xs, p.2.cacheProperties = p.1.cache ∧ ∀ name,
      p.2.config.find? name = (p.1.cache.find? name).or (p.1.connection.find? name)) ∧
    (∀ x ∈ xs, r'.lookup x.id = .ok x ∧ r'.partitionOf x.id = .ok x.partition) ∧
    (∀ id, id ∉ xs.map (·.id) → r.lookup id = .error (.uninitialized id) ∧
      r.partitionOf id = .error (.uninitialized id)) ∧
    (∀ x ∈ xs, ∀ y ∈ xs, x.partition = y.partition ↔ x = y ∨
      (∃ name, partitionName? x.cacheProperties = some name ∧
        partitionName? y.cacheProperties = some name) ∨
      (sharing ≠ .isolated ∧ partitionName? x.cacheProperties = none ∧
        partitionName? y.cacheProperties = none)) := by
  intro xs r r'
  have hempty : (Registry.empty sharing).WellFormed := Registry.wellFormed_empty sharing
  have hwell : r.WellFormed := Registry.wellFormed_enrolAll hempty es
  have hsessions : r.sessions = xs.reverse := by
    have h := (Registry.empty sharing).sessions_enrolAll es
    rwa [Registry.empty, List.append_nil] at h
  have hmem (x : Session) : x ∈ xs ↔ x ∈ r.sessions := by rw [hsessions, List.mem_reverse]
  refine ⟨Registry.length_enrolAll _ es, ?_, fun p hp => ?_, fun x hx => ?_, fun id hid => ?_,
    fun x hx y hy => ?_⟩
  · have hnodup := Registry.nodup_enrolAll hempty List.nodup_nil es
    rwa [show ((Registry.empty sharing).enrolAll es).2.sessions = xs.reverse from hsessions,
      List.map_reverse, (List.reverse_perm _).nodup_iff] at hnodup
  · obtain ⟨hconfig, hcache⟩ := Registry.enrolled_enrolAll _ es hp
    exact ⟨hcache, fun name => by rw [hconfig, NameMap.find?_override]⟩
  · have hfound : r'.lookup x.id = .ok x :=
      (r.grows_enrolAll later).lookup hwell.numbered _ _ (hwell.found x ((hmem x).1 hx))
    exact ⟨hfound, Registry.partitionOf_of_lookup hfound⟩
  · have hnone : ∀ x ∈ r.sessions, x.id ≠ id :=
      fun x hx heq => hid (List.mem_map.2 ⟨x, (hmem x).2 hx, heq⟩)
    exact ⟨Registry.lookup_of_unknown hnone, Registry.partitionOf_of_unknown hnone⟩
  · have hsharing : r.sharing = sharing := Registry.sharing_enrolAll _ es
    rw [hwell.same_partition_iff ((hmem x).1 hx) ((hmem y).1 hy), hsharing]

/-- Three sessions whose ids have one random text. The second and third name the partition that the
first has as an unnamed one: they share one with each other, but not with the first, and are found
when a fourth is registered. -/
theorem registrations_named_like_session :
    let named (name : String) : Enrolment := ⟨"a", ∅, (∅ : PropertyMap).insert "Name" name⟩
    let es := [⟨"a", ∅, ∅⟩, named "session:s1-a", named " session:s1-a "]
    let xs := ((Registry.empty .isolated).enrolAll es).1
    let r' := (((Registry.empty .isolated).enrolAll es).2.enrolAll [named "b"]).2
    ∃ x y z, xs = [x, y, z] ∧ x.partition = "session:s1-a" ∧ (xs.map (·.id)).Nodup ∧
      x.partition ≠ y.partition ∧ y.partition = z.partition ∧ r'.lookup ⟨"s3-a"⟩ = .ok z := by
  intro named es xs r'
  obtain ⟨-, hnodup, -, hfound, -, hpartition⟩ := registrations .isolated es [named "b"]
  obtain ⟨x, y, z, hxs, hfirst, hne, hunnamed, hsecond, hthird, hid⟩ : ∃ x y z, xs = [x, y, z] ∧
      x.partition = "session:s1-a" ∧ x.id ≠ y.id ∧ partitionName? x.cacheProperties = none ∧
      partitionName? y.cacheProperties = some "session:s1-a" ∧
      partitionName? z.cacheProperties = some "session:s1-a" ∧ z.id = ⟨"s3-a"⟩ :=
    ⟨_, _, _, rfl, by decide +kernel, by decide +kernel, by decide +kernel, by decide +kernel,
      by decide +kernel, by decide +kernel⟩
  have hx : x ∈ xs := by simp [hxs]
  have hy : y ∈ xs := by simp [hxs]
  have hz : z ∈ xs := by simp [hxs]
  refine ⟨x, y, z, hxs, hfirst, hnodup, fun heq => ?_, ?_, hid ▸ (hfound z hz).1⟩
  · rcases (hpartition x hx y hy).1 heq with hsame | ⟨name, hname, -⟩ | ⟨hshared, -⟩
    · exact hne (congrArg (·.id) hsame)
    · exact absurd (hunnamed.symm.trans hname) (by simp)
    · exact hshared rfl
  · exact (hpartition y hy z hz).2 (.inr (.inl ⟨_, hsecond, hthird⟩))

end OlapClient.Cache
