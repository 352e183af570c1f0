import OlapClient.Proofs.Cache.Retention
import OlapClient.Proofs.Property.Lookup

namespace OlapClient.Cache

/-!
# Strict and lossy settings

Properties change settings strictly, where the first bad one is an error, or lossily, where a bad one
changes nothing. Both are told here by what is at fault with each setting, and by the values that the
properties choose.

* `Setting.alone` — the properties of one setting and no other.
* `Setting.fault?` — what is wrong with a setting, whatever the settings were before.
* `Retention.overlay_eq` — strict settings are lossy ones, unless something is at fault.
* `Retention.overlay_alone` — one setting alone is changed as it is among others.
* `Retention.overlayLossy_eq_loop` — lossy settings are those that strict ones of each setting alone
  make one after the other.
* `Retention.Choice`, `Retention.settle_eq_choose`, `Retention.overlayLossy_eq_choose` — what lossy
  settings are in the end.
* `Retention.usable`, `Retention.overlay_usable` — the properties without those that fail alone.
-/

/-- Properties of one name. -/
def single (key value : String) : PropertyMap :=
  (∅ : PropertyMap).insert key value

theorem single_find? (key value name : String) :
    (single key value).find? name = if key = name then some value else none := by
  rw [single, NameMap.find?_insert, NameMap.find?_empty]

namespace Setting

theorem key_injective {s s' : Setting} (h : s.key = s'.key) : s = s' := by
  cases s <;> cases s' <;> first | rfl | (revert h; decide)

theorem mem_all (s : Setting) : s ∈ Setting.all := by
  cases s <;> decide

/-- The properties of one setting and no other. -/
def alone (s : Setting) (p : PropertyMap) : PropertyMap :=
  match p.find? s.key with
  | none => ∅
  | some raw => single s.key raw

theorem alone_find? (s s' : Setting) (p : PropertyMap) :
    (s.alone p).find? s'.key = if s' = s then p.find? s'.key else none := by
  unfold alone
  by_cases h : s' = s
  · subst h
    cases hp : p.find? s'.key <;> simp [single_find?]
  · have hkey : s.key ≠ s'.key := fun heq => h (key_injective heq).symm
    cases hp : p.find? s.key <;> simp [single_find?, h, hkey]

/-- What is wrong with a setting in properties. It does not matter which settings a text is tried
on. -/
def fault? (s : Setting) (p : PropertyMap) : Option CacheError :=
  (p.find? s.key).bind fun raw =>
    if (Retention.standard.set? s raw).isSome then none else some (.invalidProperty s.key raw)

end Setting

namespace Retention

variable {b r r' : Retention} {p : PropertyMap} {s : Setting}

/-! ### One setting -/

/-- Whether a text is good for a setting does not depend on the settings that it changes. -/
theorem set?_isSome_congr (r r' : Retention) (s : Setting) (raw : String) :
    (r.set? s raw).isSome = (r'.set? s raw).isSome := by
  cases s with
  | size =>
    simp only [set?]
    split
    · split <;> rfl
    · rfl
  | timeout =>
    simp only [set?]
    split <;> rfl
  | mode => simp only [set?, Option.isSome_map]

/-- Change a setting, if the properties name it well. -/
def settle (p : PropertyMap) (r : Retention) (s : Setting) : Retention :=
  match overlaySetting p r s with
  | .ok r' => r'
  | .error _ => r

/-- A setting is changed unless it is at fault. -/
theorem overlaySetting_eq (p : PropertyMap) (r : Retention) (s : Setting) :
    overlaySetting p r s = (s.fault? p).elim (.ok (settle p r s)) .error := by
  unfold settle overlaySetting Setting.fault?
  cases p.find? s.key with
  | none => rfl
  | some raw =>
    rw [Option.bind_some, set?_isSome_congr standard r]
    cases hset : r.set? s raw <;> simp [hset]

theorem settle_of_fault {e : CacheError} (h : s.fault? p = some e) : settle p r s = r := by
  rw [settle, overlaySetting_eq, h]
  rfl

theorem settle_of_missing (h : p.find? s.key = none) : settle p r s = r := by
  rw [settle, overlaySetting, h]

theorem settle_congr {q : PropertyMap} (h : p.find? s.key = q.find? s.key) (r : Retention) :
    settle p r s = settle q r s := by
  simp only [settle, overlaySetting, h]

/-! ### All settings -/

/-- **Strict settings are lossy ones, unless something is at fault.** Their error is the first
fault. -/
theorem overlay_eq (b : Retention) (p : PropertyMap) :
    b.overlay p =
      (Setting.all.findSome? (Setting.fault? · p)).elim (.ok (b.overlayLossy p)) .error :=
  foldlM_eq_of_faults (overlaySetting_eq p) Setting.all b

/-- Strict settings succeed if nothing is at fault, and then are the lossy ones. -/
theorem overlay_eq_ok_iff :
    b.overlay p = .ok r ↔ (∀ s : Setting, s.fault? p = none) ∧ b.overlayLossy p = r := by
  rw [overlay_eq, elim_eq_ok_iff, List.findSome?_eq_none_iff]
  exact and_congr_left fun _ => ⟨fun h s => h s s.mem_all, fun h s _ => h s⟩

theorem exists_overlay_iff : (∃ r, b.overlay p = .ok r) ↔ ∀ s : Setting, s.fault? p = none :=
  ⟨fun ⟨_, h⟩ => (overlay_eq_ok_iff.1 h).1, fun h => ⟨_, overlay_eq_ok_iff.2 ⟨h, rfl⟩⟩⟩

/-- Their error is that of the first setting that is at fault. -/
theorem overlay_eq_error_iff {e : CacheError} :
    b.overlay p = .error e ↔ ∃ before s after, Setting.all = before ++ s :: after ∧
      s.fault? p = some e ∧ ∀ s' ∈ before, s'.fault? p = none := by
  rw [overlay_eq, elim_eq_error_iff, List.findSome?_eq_some_iff]

/-- One setting alone is changed as it is among others. -/
theorem overlay_alone (b : Retention) (p : PropertyMap) (s : Setting) :
    b.overlay (s.alone p) = overlaySetting p b s := by
  -- of the three settings only this one is named, so that the two others are left as they are
  have hself (r : Retention) : overlaySetting (s.alone p) r s = overlaySetting p r s := by
    simp only [overlaySetting, Setting.alone_find?, if_true]
  have hother (r : Retention) {s' : Setting} (h : s' ≠ s) :
      overlaySetting (s.alone p) r s' = pure r := by
    simp only [overlaySetting, Setting.alone_find?, if_neg h]
    rfl
  unfold overlay Setting.all
  cases s <;> simp only [List.foldlM_cons, List.foldlM_nil, hself, hother, ne_eq, reduceCtorEq,
    not_false_eq_true, pure_bind, bind_pure]

theorem exists_overlay_alone_iff :
    (∃ r, b.overlay (s.alone p) = .ok r) ↔ s.fault? p = none := by
  simp only [overlay_alone, overlaySetting_eq, elim_eq_ok_iff, exists_and_left, exists_eq', and_true]

theorem overlay_alone_eq_error_iff {e : CacheError} :
    b.overlay (s.alone p) = .error e ↔ s.fault? p = some e := by
  rw [overlay_alone, overlaySetting_eq, elim_eq_error_iff]

/-- Lossy settings are those that strict ones of each setting alone make one after the other, passing
over those that fail. -/
theorem overlayLossy_eq_loop (b : Retention) (p : PropertyMap) :
    b.overlayLossy p =
      Setting.all.foldl (fun r s => ((r.overlay (s.alone p)).toOption).getD r) b := by
  refine congrArg (fun f => Setting.all.foldl f b) (funext fun r => funext fun s => ?_)
  rw [overlay_alone]
  cases overlaySetting p r s <;> rfl

/-! ### What the settings are in the end -/

/-- The values that properties choose: none for a setting that they do not name, or name badly. -/
structure Choice where
  size : Option Nat
  timeout : Option (Option Nat)
  mode : Option Mode

/-- The values that properties choose. -/
def choose (p : PropertyMap) : Choice where
  size := (p.find? "Size").bind fun raw => (Decimal.word? (trim raw)).filter (· ≠ 0)
  timeout := (p.find? "Timeout").bind fun raw =>
    (Decimal.word? (trim raw)).map fun n => if n = 0 then none else some (n * 1000)
  mode := (p.find? "Mode").bind Mode.parse?

/-- Settings with the chosen value of one of them, if there is one. -/
def Choice.settle (c : Choice) (r : Retention) : Setting → Retention
  | .size => { r with size := c.size.getD r.size }
  | .timeout => { r with timeout := c.timeout.getD r.timeout }
  | .mode => { r with mode := c.mode.getD r.mode }

/-- A setting that the properties name well gets the value that they choose for it. -/
theorem settle_eq_choose (p : PropertyMap) (r : Retention) (s : Setting) :
    settle p r s = (choose p).settle r s := by
  unfold settle overlaySetting
  cases s with
  | size =>
    show _ = { r with size := Option.getD ((p.find? Setting.size.key).bind _) r.size }
    cases p.find? Setting.size.key with
    | none => rfl
    | some raw =>
      unfold set?
      cases hword : Decimal.word? (trim raw) with
      | none => simp [hword]
      | some n =>
        -- a size of zero is no choice
        by_cases hn : n = 0 <;> simp [hword, hn, Option.filter]
  | timeout =>
    show _ = { r with timeout := Option.getD ((p.find? Setting.timeout.key).bind _) r.timeout }
    cases p.find? Setting.timeout.key with
    | none => rfl
    | some raw =>
      unfold set?
      cases hword : Decimal.word? (trim raw) with
      | none => simp [hword]
      | some n =>
        -- a timeout of zero is the choice of none
        by_cases hn : n = 0 <;> simp [hword, hn, withTimeout, withoutTimeout]
  | mode =>
    show _ = { r with mode := Option.getD ((p.find? Setting.mode.key).bind _) r.mode }
    cases p.find? Setting.mode.key with
    | none => rfl
    | some raw =>
      unfold set?
      cases hmode : Mode.parse? raw <;> simp [hmode, withMode]

/-- **Lossy settings are the values that the properties choose**, and those of before where they
choose none. -/
theorem overlayLossy_eq_choose (b : Retention) (p : PropertyMap) :
    b.overlayLossy p = ⟨(choose p).size.getD b.size, (choose p).timeout.getD b.timeout,
      (choose p).mode.getD b.mode⟩ := by
  show Setting.all.foldl (settle p) b = _
  rw [funext fun r => funext (settle_eq_choose p r)]
  -- each setting has a field of its own, so that none takes back what another has put
  rfl

/-- Lossy settings chosen twice are the same. -/
theorem overlayLossy_idem (b : Retention) (p : PropertyMap) :
    (b.overlayLossy p).overlayLossy p = b.overlayLossy p := by
  -- a value that was chosen is chosen again, and one that was left is left again
  have hagain {α : Type} (chosen : Option α) (a : α) :
      chosen.getD (chosen.getD a) = chosen.getD a := by
    cases chosen <;> rfl
  simp only [overlayLossy_eq_choose, hagain]

/-- Strict settings that succeed are the lossy ones. -/
theorem overlayLossy_of_overlay (h : b.overlay p = .ok r) : b.overlayLossy p = r :=
  (overlay_eq_ok_iff.1 h).2

/-- Whether strict settings succeed does not depend on what is changed, and so they do again. -/
theorem overlay_idem (h : b.overlay p = .ok r) : r.overlay p = .ok r := by
  obtain ⟨hsound, rfl⟩ := overlay_eq_ok_iff.1 h
  exact overlay_eq_ok_iff.2 ⟨hsound, overlayLossy_idem b p⟩

/-! ### Without what fails -/

/-- The properties without those that fail when they are the only ones. -/
def usable (b : Retention) (p : PropertyMap) : PropertyMap :=
  p.filter fun key value => (b.overlay (single key value)).toBool

/-- What is usable of a setting is all of it, or nothing if it is at fault. -/
theorem usable_find? (b : Retention) (p : PropertyMap) (s : Setting) :
    (b.usable p).find? s.key = if s.fault? p = none then p.find? s.key else none := by
  rw [usable, NameMap.find?_filter]
  cases hp : p.find? s.key with
  | none => simp
  | some raw =>
    -- the entry of a setting is all that the properties of the setting alone have
    have halone : single s.key raw = s.alone p := by simp only [Setting.alone, hp]
    rw [Option.filter_some, halone, overlay_alone, overlaySetting_eq]
    cases s.fault? p <;> simp [Except.toBool]

/-- **Lossy settings are the strict ones of what is usable.** -/
theorem overlay_usable (b : Retention) (p : PropertyMap) :
    b.overlay (b.usable p) = .ok (b.overlayLossy p) := by
  have hfault (s : Setting) : s.fault? (b.usable p) = none := by
    unfold Setting.fault?
    rw [usable_find?]
    split
    · assumption
    · rfl
  have hsettle (r : Retention) (s : Setting) : settle (b.usable p) r s = settle p r s := by
    cases hs : s.fault? p with
    | none => exact settle_congr ((b.usable_find? p s).trans (if_pos hs)) r
    | some e =>
      have hmissing : (b.usable p).find? s.key = none := by simp [usable_find?, hs]
      rw [settle_of_missing hmissing, settle_of_fault hs]
  refine overlay_eq_ok_iff.2 ⟨hfault, ?_⟩
  show Setting.all.foldl (settle (b.usable p)) b = Setting.all.foldl (settle p) b
  rw [funext fun r => funext (hsettle r)]

end Retention

end OlapClient.Cache
