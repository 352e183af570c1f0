import Std.Data.String.ToNat
import OlapClient.Cache.Session
import OlapClient.Proofs.Result
import OlapClient.Proofs.Text.Mark

namespace OlapClient.Cache

/-!
# Issued sessions

* `SessionId.issue_injective` — ids of different numbers differ, whatever the random texts are.
* `Registry.Numbered` — every id has a number that was issued. Registering keeps this.
* `Registry.lookup_register_of_ok` — a session stays what it was when others are registered.
* `Registry.Grows` — a registry after others were registered, or not.
* `Sharing.isolated_partition_inj` — which sessions have one partition.
-/

/-! ### Ids -/

theorem dash_notMem_toString (n : Nat) : '-' ∉ (toString n).toList := by
  intro h
  rw [Nat.toString_eq_ofList_toDigits, String.toList_ofList] at h
  have hdigit := Nat.isDigit_of_mem_toDigits (by decide) (by decide) h
  revert hdigit
  decide

/-- The number of an id is what stands before its first dash. -/
theorem SessionId.issue_injective {m n : Nat} {a b : String}
    (h : SessionId.issue m a = SessionId.issue n b) : m = n := by
  -- no number has a dash, so both ids have their first one where the number ends
  have htext := congrArg (fun id => id.text.toList) h
  have hdash : ("-" : String).toList = ['-'] := rfl
  simp only [SessionId.issue, String.toList_append, hdash, List.append_assoc,
    List.singleton_append, List.append_right_inj] at htext
  have hnumber := (append_mark_inj (dash_notMem_toString m) (dash_notMem_toString n) htext).1
  exact Nat.repr_injective (String.toList_injective hnumber)

namespace Registry

variable {r : Registry}

/-- Every id has a number that was issued. -/
def Numbered (r : Registry) : Prop :=
  ∀ x ∈ r.sessions, ∃ number nonce, number ≤ r.issued ∧ x.id = SessionId.issue number nonce

theorem numbered_empty (sharing : Sharing) : (Registry.empty sharing).Numbered := by
  intro x hx
  cases hx

theorem Numbered.register (h : r.Numbered) (nonce : String) (connection cache : PropertyMap) :
    (r.register nonce connection cache).2.Numbered := by
  intro x hx
  rcases List.mem_cons.1 hx with rfl | hold
  · exact ⟨r.issued + 1, nonce, Nat.le_refl _, rfl⟩
  · obtain ⟨number, text, hle, hid⟩ := h x hold
    exact ⟨number, text, Nat.le_succ_of_le hle, hid⟩

/-- A new id is that of no session before it. -/
theorem Numbered.ne_new (h : r.Numbered) {x : Session} (hx : x ∈ r.sessions) (nonce : String)
    (connection cache : PropertyMap) : (r.register nonce connection cache).1.id ≠ x.id := by
  obtain ⟨number, text, hle, hid⟩ := h x hx
  rw [hid]
  intro heq
  have := SessionId.issue_injective heq
  omega

theorem lookup_eq_ok {id : SessionId} {x : Session} :
    r.lookup id = .ok x ↔ r.sessions.find? (·.id == id) = some x := by
  unfold lookup
  split
  · rename_i y hf
    rw [hf, Except.ok.injEq, Option.some.injEq]
  · rename_i hf
    rw [hf]
    constructor <;> intro h <;> cases h

theorem mem_of_lookup {id : SessionId} {x : Session} (h : r.lookup id = .ok x) :
    x ∈ r.sessions ∧ x.id = id := by
  have hf := lookup_eq_ok.1 h
  exact ⟨List.mem_of_find?_eq_some hf, by simpa using List.find?_some hf⟩

/-- A new session is found under its id. -/
theorem lookup_register_self (r : Registry) (nonce : String) (connection cache : PropertyMap) :
    (r.register nonce connection cache).2.lookup (r.register nonce connection cache).1.id =
      .ok (r.register nonce connection cache).1 := by
  simp only [register, lookup, List.find?_cons, beq_self_eq_true]

/-- A session stays what it was when others are registered. -/
theorem lookup_register_of_ok (h : r.Numbered) {id : SessionId} {x : Session}
    (hx : r.lookup id = .ok x) (nonce : String) (connection cache : PropertyMap) :
    (r.register nonce connection cache).2.lookup id = .ok x := by
  obtain ⟨hmem, rfl⟩ := mem_of_lookup hx
  have hne := h.ne_new hmem nonce connection cache
  have hskip : ((r.register nonce connection cache).1.id == x.id) = false := by simpa using hne
  rw [lookup_eq_ok] at hx ⊢
  show List.find? _ ((r.register nonce connection cache).1 :: r.sessions) = some x
  rw [List.find?_cons, hskip]
  exact hx

/-- The second registry knows the sessions of the first, and shares in the same way. -/
structure Grows (r r' : Registry) : Prop where
  sharing : r'.sharing = r.sharing
  numbered : r.Numbered → r'.Numbered
  lookup : r.Numbered → ∀ id x, r.lookup id = .ok x → r'.lookup id = .ok x

theorem Grows.refl (r : Registry) : r.Grows r :=
  ⟨rfl, id, fun _ _ _ h => h⟩

theorem Grows.trans {r' r'' : Registry} (h : r.Grows r') (h' : r'.Grows r'') : r.Grows r'' where
  sharing := h'.sharing.trans h.sharing
  numbered hr := h'.numbered (h.numbered hr)
  lookup hr id x hx := h'.lookup (h.numbered hr) id x (h.lookup hr id x hx)

theorem partitionOf_of_lookup {id : SessionId} {x : Session} (h : r.lookup id = .ok x) :
    r.partitionOf id = .ok x.partition := by
  rw [partitionOf, h]
  rfl

theorem Grows.partitionOf {r' : Registry} (h : r.Grows r') (hr : r.Numbered) {id : SessionId}
    {name : String} (hname : r.partitionOf id = .ok name) : r'.partitionOf id = .ok name := by
  obtain ⟨x, hx, rfl⟩ := Except.map_eq_ok hname
  exact partitionOf_of_lookup (h.lookup hr id x hx)

theorem register_grows (r : Registry) (nonce : String) (connection cache : PropertyMap) :
    r.Grows (r.register nonce connection cache).2 where
  sharing := rfl
  numbered h := h.register nonce connection cache
  lookup h _ _ hx := lookup_register_of_ok h hx nonce connection cache

end Registry

/-! ### Partitions -/

theorem partition_of_name {sharing : Sharing} {id : SessionId} {cache : PropertyMap}
    {name : String} (h : partitionName? cache = some name) :
    sharing.partition id cache = "named:" ++ name := by
  unfold Sharing.partition
  rw [h]

theorem partition_of_isolated {id : SessionId} {cache : PropertyMap}
    (h : partitionName? cache = none) :
    Sharing.isolated.partition id cache = "session:" ++ id.text := by
  unfold Sharing.partition
  rw [h]

/-- The partition of a name is that of no session. -/
theorem named_ne_session (name text : String) : "named:" ++ name ≠ "session:" ++ text := by
  intro h
  have hchars := congrArg String.toList h
  simp only [String.toList_append] at hchars
  change 'n' :: _ = 's' :: _ at hchars
  cases hchars

/-- Where unnamed sessions are kept apart, two sessions have one partition only if they are the same
or have the same name. -/
theorem Sharing.isolated_partition_inj {a b : SessionId} {p q : PropertyMap}
    (h : Sharing.isolated.partition a p = Sharing.isolated.partition b q) :
    a = b ∨ ∃ name, partitionName? p = some name ∧ partitionName? q = some name := by
  cases hp : partitionName? p with
  | none =>
    cases hq : partitionName? q with
    | none =>
      rw [partition_of_isolated hp, partition_of_isolated hq] at h
      obtain ⟨text⟩ := a
      obtain ⟨text'⟩ := b
      exact .inl (congrArg SessionId.mk (String.append_right_inj _ |>.1 h))
    | some name =>
      rw [partition_of_isolated hp, partition_of_name hq] at h
      exact absurd h.symm (named_ne_session name _)
  | some name =>
    cases hq : partitionName? q with
    | none =>
      rw [partition_of_name hp, partition_of_isolated hq] at h
      exact absurd h (named_ne_session name _)
    | some name' =>
      rw [partition_of_name hp, partition_of_name hq] at h
      have := String.append_right_inj _ |>.1 h
      exact .inr ⟨name, rfl, congrArg some this.symm⟩

end OlapClient.Cache
