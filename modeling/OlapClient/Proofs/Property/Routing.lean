import Mathlib.Data.List.Induction
import OlapClient.Proofs.Property.Lookup
import OlapClient.Property.Routing

namespace OlapClient

/-!
# Where properties go

* `cacheName?_eq_some` — the names of cache properties.
* `route_connection_find?`, `route_cache_find?` — the properties of a connection and of its cache,
  by those of the map that was routed.
-/

/-- The names of cache properties begin with their scope. -/
theorem cacheName?_eq_some {key name : String} :
    cacheName? key = some name ↔ key = "Cache." ++ name := by
  have hscope : ("Cache." : String).toList = cacheScope := rfl
  unfold cacheName?
  constructor
  · intro h
    split at h
    · rename_i hprefix
      obtain ⟨rest, hrest⟩ := List.isPrefixOf_iff_prefix.1 hprefix
      cases h
      refine String.toList_injective ?_
      rw [String.toList_append, hscope, String.toList_ofList, ← hrest, List.drop_left]
    · cases h
  · rintro rfl
    rw [String.toList_append, hscope, if_pos (List.isPrefixOf_iff_prefix.2 ⟨_, rfl⟩),
      List.drop_left, String.ofList_toList]

namespace Routed

/-- A property goes to the connection under its own name. -/
theorem add_connection_find? (r : Routed) (key value name : String) :
    (r.add (key, value)).connection.find? name =
      if key = name ∧ cacheName? name = none then some value else r.connection.find? name := by
  unfold add
  cases hkey : cacheName? key with
  | none =>
    dsimp only
    rw [NameMap.find?_insert]
    by_cases hname : key = name
    · rw [if_pos hname, if_pos ⟨hname, hname ▸ hkey⟩]
    · rw [if_neg hname, if_neg fun h => hname h.1]
  | some inner =>
    have hother : ¬ (key = name ∧ cacheName? name = none) := by
      rintro ⟨rfl, hnone⟩
      rw [hnone] at hkey
      cases hkey
    rw [if_neg hother]
    dsimp only
    split <;> rfl

/-- A cache property goes to the cache under the rest of its name, if there is any. -/
theorem add_cache_find? (r : Routed) (key value name : String) :
    (r.add (key, value)).cache.find? name =
      if key = "Cache." ++ name ∧ name ≠ "" then some value else r.cache.find? name := by
  unfold add
  cases hkey : cacheName? key with
  | none =>
    have hother : ¬ (key = "Cache." ++ name ∧ name ≠ "") := by
      rintro ⟨heq, _⟩
      rw [cacheName?_eq_some.2 heq] at hkey
      cases hkey
    rw [if_neg hother]
  | some inner =>
    rw [cacheName?_eq_some] at hkey
    subst hkey
    dsimp only
    simp only [String.append_right_inj]
    by_cases hempty : inner = ""
    · rw [if_pos hempty, if_neg]
      rintro ⟨rfl, hne⟩
      exact hne hempty
    · rw [if_neg hempty]
      dsimp only
      rw [NameMap.find?_insert]
      by_cases hname : inner = name
      · rw [if_pos hname, if_pos ⟨hname, hname ▸ hempty⟩]
      · rw [if_neg hname, if_neg fun h => hname h.1]

/-- The routed pairs of a list without repeated names. -/
theorem foldl_add_find? (l : List (String × String)) (hl : (l.map Prod.fst).Nodup)
    (name value : String) :
    ((l.foldl add ⟨∅, ∅⟩).connection.find? name = some value ↔
      (name, value) ∈ l ∧ cacheName? name = none) ∧
    ((l.foldl add ⟨∅, ∅⟩).cache.find? name = some value ↔
      ("Cache." ++ name, value) ∈ l ∧ name ≠ "") := by
  -- from the end, since the pair that is added last decides
  induction l using List.reverseRecOn with
  | nil => simp
  | append_singleton l p ih =>
    obtain ⟨key, v⟩ := p
    rw [List.map_append, List.nodup_append] at hl
    obtain ⟨hnodup, _, hne⟩ := hl
    have hfresh : ∀ w, (key, w) ∉ l := fun w hin =>
      hne key (List.mem_map.2 ⟨_, hin, rfl⟩) key (List.mem_singleton.2 rfl) rfl
    obtain ⟨hconnection, hcache⟩ := ih hnodup
    rw [List.foldl_append, List.foldl_cons, List.foldl_nil, add_connection_find?, add_cache_find?,
      List.mem_append, List.mem_append, List.mem_singleton, List.mem_singleton]
    constructor
    · by_cases hkey : key = name ∧ cacheName? name = none
      · obtain ⟨rfl, hnone⟩ := hkey
        simp [hfresh, hnone, eq_comm]
      · rw [if_neg hkey, hconnection]
        refine ⟨fun h => ⟨.inl h.1, h.2⟩, ?_⟩
        rintro ⟨hin | heq, hnone⟩
        · exact ⟨hin, hnone⟩
        · exact absurd ⟨(Prod.mk.inj heq).1.symm, hnone⟩ hkey
    · by_cases hkey : key = "Cache." ++ name ∧ name ≠ ""
      · obtain ⟨rfl, hempty⟩ := hkey
        simp [hfresh, hempty, eq_comm]
      · rw [if_neg hkey, hcache]
        refine ⟨fun h => ⟨.inl h.1, h.2⟩, ?_⟩
        rintro ⟨hin | heq, hempty⟩
        · exact ⟨hin, hempty⟩
        · exact absurd ⟨(Prod.mk.inj heq).1.symm, hempty⟩ hkey

end Routed

/-- The connection has every property that is no cache property. -/
theorem route_connection_find? (P : PropertyMap) (name : String) :
    (route P).connection.find? name = if cacheName? name = none then P.find? name else none := by
  have hiff := fun value => (Routed.foldl_add_find? P.toList P.nodup_toList name value).1
  refine Option.ext fun value => (hiff value).trans ?_
  rw [NameMap.mem_toList_iff]
  by_cases hnone : cacheName? name = none
  · rw [if_pos hnone]
    exact ⟨fun h => h.1, fun h => ⟨h, hnone⟩⟩
  · rw [if_neg hnone]
    exact ⟨fun h => absurd h.2 hnone, fun h => by cases h⟩

/-- The cache has every property within its scope, under the rest of its name. -/
theorem route_cache_find? (P : PropertyMap) {name : String} (h : name ≠ "") :
    (route P).cache.find? name = P.find? ("Cache." ++ name) := by
  have hiff := fun value => (Routed.foldl_add_find? P.toList P.nodup_toList name value).2
  refine Option.ext fun value => (hiff value).trans ?_
  rw [NameMap.mem_toList_iff]
  exact ⟨fun hfind => hfind.1, fun hfind => ⟨hfind, h⟩⟩

/-- No property of the cache is without a name. -/
theorem route_cache_find?_empty (P : PropertyMap) : (route P).cache.find? "" = none := by
  refine Option.eq_none_iff_forall_ne_some.2 fun value hfind => ?_
  exact ((Routed.foldl_add_find? P.toList P.nodup_toList "" value).2.1 hfind).2 rfl

end OlapClient
