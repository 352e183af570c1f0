namespace OlapClient

/-!
# Results

Where the results of functions that may fail come from.

* `Except.map_eq_ok`, `Except.map_eq_error`, `Except.exists_map_eq_ok`, `Except.mapError_eq_ok`,
  `Except.mapError_eq_error`, `Except.toOption_eq_some` — a result that was changed, by what it was
  before.
* `exists_of_mapM_eq_error`, `mapM_ne_error` — a failure of a list is that of a member.
* `length_of_mapM_eq_ok` — a list has as many results as members.
* `mapM_eq_ok_of_zip`, `mapM_eq_ok_map` — the results of a list are those of its members.
* `foldlM_preserves` — what every step that succeeds preserves, all of them preserve.
* `elim_eq_ok_iff`, `elim_eq_error_iff` — a result unless something is at fault.
* `foldlM_eq_of_faults` — steps that fail by what they are given alone.
-/

variable {α β ε ε' : Type}

theorem Except.map_eq_ok {f : α → β} {x : Except ε α} {b : β} (h : x.map f = .ok b) :
    ∃ a, x = .ok a ∧ f a = b := by
  cases x with
  | error e => cases h
  | ok a => exact ⟨a, rfl, Except.ok.inj h⟩

theorem Except.map_eq_error {f : α → β} {x : Except ε α} {e : ε} (h : x.map f = .error e) :
    x = .error e := by
  cases x with
  | error e' => exact congrArg Except.error (Except.error.inj h)
  | ok a => cases h

theorem Except.exists_map_eq_ok {f : α → β} {x : Except ε α} :
    (∃ b, x.map f = .ok b) ↔ ∃ a, x = .ok a := by
  refine ⟨fun ⟨b, h⟩ => ?_, fun ⟨a, h⟩ => ⟨f a, by rw [h]; rfl⟩⟩
  obtain ⟨a, ha, -⟩ := map_eq_ok h
  exact ⟨a, ha⟩

theorem Except.mapError_eq_ok {f : ε → ε'} {x : Except ε α} {a : α}
    (h : x.mapError f = .ok a) : x = .ok a := by
  cases x with
  | error e => cases h
  | ok a' => exact congrArg Except.ok (Except.ok.inj h)

theorem Except.mapError_eq_error {f : ε → ε'} {x : Except ε α} {e' : ε'}
    (h : x.mapError f = .error e') : ∃ e, x = .error e ∧ f e = e' := by
  cases x with
  | error e => exact ⟨e, rfl, Except.error.inj h⟩
  | ok a => cases h

theorem Except.toOption_eq_some {x : Except ε α} {a : α} (h : x.toOption = some a) : x = .ok a := by
  cases x with
  | error e => cases h
  | ok a' => exact congrArg Except.ok (Option.some.inj h)

theorem Except.toOption_map (f : α → β) (x : Except ε α) :
    (x.map f).toOption = x.toOption.map f := by
  cases x <;> rfl

/-- A failure of a list is that of a member. -/
theorem exists_of_mapM_eq_error {g : α → Except ε β} {e : ε} {as : List α}
    (h : as.mapM g = .error e) : ∃ a ∈ as, g a = .error e := by
  induction as with
  | nil => cases h
  | cons a as ih =>
    rw [List.mapM_cons] at h
    cases ha : g a with
    | error e' =>
      rw [ha] at h
      cases h
      exact ⟨a, List.mem_cons_self, ha⟩
    | ok b =>
      rw [ha] at h
      cases has : as.mapM g with
      | error e' =>
        rw [has] at h
        cases h
        obtain ⟨a', ha', hfails⟩ := ih has
        exact ⟨a', List.mem_cons_of_mem a ha', hfails⟩
      | ok bs =>
        rw [has] at h
        cases h

/-- Where no member fails with an error, the list does not. -/
theorem mapM_ne_error {g : α → Except ε β} {e : ε} (hg : ∀ a, g a ≠ .error e) (as : List α) :
    as.mapM g ≠ .error e := by
  intro h
  obtain ⟨a, -, ha⟩ := exists_of_mapM_eq_error h
  exact hg a ha

/-- A list has as many results as members. -/
theorem length_of_mapM_eq_ok {g : α → Except ε β} {as : List α} {bs : List β}
    (h : as.mapM g = .ok bs) : bs.length = as.length := by
  induction as generalizing bs with
  | nil =>
    cases h
    rfl
  | cons a as ih =>
    rw [List.mapM_cons] at h
    cases ha : g a with
    | error e =>
      rw [ha] at h
      cases h
    | ok b =>
      rw [ha] at h
      cases has : as.mapM g with
      | error e =>
        rw [has] at h
        cases h
      | ok bs' =>
        rw [has] at h
        cases h
        rw [List.length_cons, List.length_cons, ih has]

/-- Where each member has a result, the list has the list of them. -/
theorem mapM_eq_ok_of_zip {g : α → Except ε β} {as : List α} {bs : List β}
    (hlength : bs.length = as.length) (hg : ∀ p ∈ as.zip bs, g p.1 = .ok p.2) :
    as.mapM g = .ok bs := by
  induction as generalizing bs with
  | nil =>
    rw [List.length_eq_zero_iff.1 hlength]
    rfl
  | cons a as ih =>
    cases bs with
    | nil => cases hlength
    | cons b bs =>
      have hhead : g a = .ok b := hg (a, b) List.mem_cons_self
      have htail := ih (Nat.succ.inj hlength) fun p hp => hg p (List.mem_cons_of_mem _ hp)
      rw [List.mapM_cons, hhead, htail]
      rfl

/-- Where no member fails, the list does not. -/
theorem mapM_eq_ok_map {g : α → Except ε β} {f : α → β} {as : List α}
    (hg : ∀ a ∈ as, g a = .ok (f a)) : as.mapM g = .ok (as.map f) := by
  refine mapM_eq_ok_of_zip (List.length_map f) fun p hp => ?_
  have hzip := List.zip_map' (f := id) (g := f) (l := as)
  rw [List.map_id] at hzip
  rw [hzip] at hp
  obtain ⟨a, ha, rfl⟩ := List.mem_map.1 hp
  exact hg a ha

/-- What every step that succeeds preserves, all of them preserve. -/
theorem foldlM_preserves {f : β → α → Except ε β} {P : β → Prop}
    (hf : ∀ b a b', f b a = .ok b' → P b → P b') {as : List α} {b b' : β}
    (h : as.foldlM f b = .ok b') (hb : P b) : P b' := by
  induction as generalizing b with
  | nil =>
    cases h
    exact hb
  | cons a as ih =>
    rw [List.foldlM_cons] at h
    cases ha : f b a with
    | error e =>
      rw [ha] at h
      cases h
    | ok b₁ =>
      rw [ha] at h
      exact ih h (hf b a b₁ ha hb)

theorem elim_eq_ok_iff {fault : Option ε} {a a' : α} :
    (fault.elim (.ok a) .error : Except ε α) = .ok a' ↔ fault = none ∧ a = a' := by
  cases fault <;> simp

theorem elim_eq_error_iff {fault : Option ε} {a : α} {e : ε} :
    (fault.elim (.ok a) .error : Except ε α) = .error e ↔ fault = some e := by
  cases fault <;> simp

/-- Steps that fail by what they are given, and not by what came of the steps before, do the same as
steps that cannot fail, unless something given is at fault. The first fault is the failure. -/
theorem foldlM_eq_of_faults {f : β → α → Except ε β} {g : β → α → β} {fault : α → Option ε}
    (hf : ∀ b a, f b a = (fault a).elim (.ok (g b a)) .error) (as : List α) (b : β) :
    as.foldlM f b = (as.findSome? fault).elim (.ok (as.foldl g b)) .error := by
  induction as generalizing b with
  | nil => rfl
  | cons a as ih =>
    rw [List.foldlM_cons, List.findSome?_cons, hf]
    cases fault a with
    | none => exact ih (g b a)
    | some e => rfl

end OlapClient
