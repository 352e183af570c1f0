import OlapClient.Cache.Retention
import OlapClient.Proofs.Result

namespace OlapClient.Cache

/-!
# Sizes of partitions

However settings are made, a partition keeps at least one entry.

* `Retention.Made` — the settings that can be made from the standard ones.
* `Retention.overlay_size_pos`, `Retention.overlayLossy_size_pos` — properties ask for no size of
  zero.
* `Retention.Made.size_pos` — all settings that can be made have a positive size.
-/

namespace Retention

variable {r r' : Retention} {properties : PropertyMap}

/-- No setting changes a positive size to zero. -/
theorem set?_size_pos {setting : Setting} {raw : String} (h : r.set? setting raw = some r')
    (hr : 1 ≤ r.size) : 1 ≤ r'.size := by
  cases setting with
  | size =>
    simp only [set?] at h
    split at h
    · split at h
      · cases h
      · rename_i hn
        cases h
        exact Nat.pos_of_ne_zero hn
    · cases h
  | timeout =>
    simp only [set?] at h
    split at h
    · cases h
      split <;> exact hr
    · cases h
  | mode =>
    simp only [set?, Option.map_eq_some_iff] at h
    obtain ⟨mode, _, rfl⟩ := h
    exact hr

theorem overlaySetting_size_pos {setting : Setting}
    (h : overlaySetting properties r setting = .ok r') (hr : 1 ≤ r.size) : 1 ≤ r'.size := by
  simp only [overlaySetting] at h
  split at h
  · cases h
    exact hr
  · split at h
    · rename_i hset
      cases h
      exact set?_size_pos hset hr
    · cases h

/-- Properties ask for no size of zero. -/
theorem overlay_size_pos (h : r.overlay properties = .ok r') (hr : 1 ≤ r.size) : 1 ≤ r'.size :=
  foldlM_preserves (P := fun r => 1 ≤ r.size) (fun _ _ _ h => overlaySetting_size_pos h) h hr

theorem overlayLossy_size_pos (hr : 1 ≤ r.size) (properties : PropertyMap) :
    1 ≤ (r.overlayLossy properties).size := by
  refine List.foldlRecOn Setting.all _ (motive := fun r : Retention => 1 ≤ r.size) hr
    fun r hr setting _ => ?_
  split
  · rename_i hset
    exact overlaySetting_size_pos hset hr
  · exact hr

/-- The settings that can be made: the standard ones, those with another size, time or mode, and
those that properties change, strictly or not. -/
inductive Made : Retention → Prop where
  | standard : Made standard
  | withSize {r : Retention} (h : Made r) (n : Nat) : Made (r.withSize n)
  | withTimeout {r : Retention} (h : Made r) (ms : Nat) : Made (r.withTimeout ms)
  | withoutTimeout {r : Retention} (h : Made r) : Made r.withoutTimeout
  | withMode {r : Retention} (h : Made r) (mode : Mode) : Made (r.withMode mode)
  | overlay {r r' : Retention} (h : Made r) (properties : PropertyMap)
      (hr : r.overlay properties = .ok r') : Made r'
  | overlayLossy {r : Retention} (h : Made r) (properties : PropertyMap) :
      Made (r.overlayLossy properties)

/-- The settings that properties make from the standard ones. -/
theorem made_ofProperties (h : ofProperties properties = .ok r) : Made r :=
  .overlay .standard properties h

theorem Made.size_pos (h : Made r) : 1 ≤ r.size := by
  induction h with
  | standard => decide
  | withSize _ n _ => exact Nat.le_max_right n 1
  | withTimeout _ _ ih => exact ih
  | withoutTimeout _ ih => exact ih
  | withMode _ _ ih => exact ih
  | overlay _ _ hr ih => exact overlay_size_pos hr ih
  | overlayLossy _ properties ih => exact overlayLossy_size_pos ih properties

end Retention

end OlapClient.Cache
