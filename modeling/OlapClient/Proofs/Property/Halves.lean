import Mathlib.Data.List.Nodup
import OlapClient.Proofs.Property.Settings

namespace OlapClient

/-!
# The two halves of a property map

Routing takes a property map apart into the properties of the connection and those of its cache. The
halves can be put together again, and no other two halves make up the map.

* `withScope` — the properties of a cache under the names that they have in a connect string.
* `Routed.joined` — two halves put together.
* `Routed.Halves` — the halves of a map.
* `withScope_find?`, `Routed.joined_find?` — look-ups in these maps.
* `halves_route`, `Routed.Halves.eq_route` — routing yields halves, and there are no others.
* `route_splits_uniquely` — what routing keeps.
-/

/-- The properties of a cache under the names that they have in a connect string. -/
def withScope (cache : PropertyMap) : PropertyMap :=
  NameMap.ofPairs (cache.toList.map fun p => ("Cache." ++ p.1, p.2))

namespace Routed

/-- Two halves put together. -/
def joined (r : Routed) : PropertyMap :=
  NameMap.override r.connection (withScope r.cache)

/-- The halves of a map: no name of the connection begins with the scope of the cache, no name of the
cache is empty, and together, with the scope before each name of the cache, they are the map without
the property that has no name in the scope. -/
structure Halves (r : Routed) (P : PropertyMap) : Prop where
  connection_names : ∀ name ∈ r.connection, ∀ rest, name ≠ "Cache." ++ rest
  cache_names : "" ∉ r.cache
  disjoint : ∀ name ∈ r.connection, name ∉ withScope r.cache
  joined_eq : r.joined = P.erase "Cache."

end Routed

/-! ### Look-ups -/

theorem cacheName?_scope (name : String) : cacheName? ("Cache." ++ name) = some name :=
  cacheName?_eq_some.2 rfl

theorem cacheName?_eq_none {name : String} :
    cacheName? name = none ↔ ∀ rest, name ≠ "Cache." ++ rest := by
  rw [Option.eq_none_iff_forall_ne_some]
  exact forall_congr' fun rest => not_congr cacheName?_eq_some

/-- A name that begins with the scope in other letters is no name of a cache property. -/
theorem cacheName?_of_other_case {scope : String} (hscope : eqIgnoringCase scope "Cache." = true)
    (hne : scope ≠ "Cache.") (rest : String) : cacheName? (scope ++ rest) = none := by
  rw [cacheName?_eq_none]
  intro name heq
  rw [eqIgnoringCase, beq_iff_eq, lowerString, lowerString, String.ofList_inj] at hscope
  have hlength : scope.toList.length = ("Cache." : String).toList.length := by
    simpa using congrArg List.length hscope
  have hlist := congrArg String.toList heq
  rw [String.toList_append, String.toList_append] at hlist
  exact hne (String.toList_injective (List.append_inj hlist hlength).1)

/-- With its scope, a cache has the properties whose names lie in it. -/
theorem withScope_find? (cache : PropertyMap) (name : String) :
    (withScope cache).find? name = (cacheName? name).bind cache.find? := by
  have hnodup : ((cache.toList.map fun p => ("Cache." ++ p.1, p.2)).map Prod.fst).Nodup := by
    have hscope : ((cache.toList.map fun p => ("Cache." ++ p.1, p.2)).map Prod.fst) =
        (cache.toList.map Prod.fst).map ("Cache." ++ ·) := by
      rw [List.map_map, List.map_map]
      rfl
    rw [hscope]
    refine List.Nodup.map (fun x y heq => ?_) cache.nodup_toList
    exact (String.append_right_inj "Cache.").1 heq
  refine Option.ext fun value => ?_
  rw [withScope, NameMap.find?_ofPairs hnodup, List.mem_map, Option.bind_eq_some_iff]
  constructor
  · rintro ⟨⟨inner, v⟩, hin, heq⟩
    cases heq
    exact ⟨inner, cacheName?_scope inner, NameMap.mem_toList_iff.1 hin⟩
  · rintro ⟨inner, hname, hfind⟩
    exact ⟨(inner, value), NameMap.mem_toList_iff.2 hfind, by rw [cacheName?_eq_some.1 hname]⟩

namespace Routed

theorem joined_find? (r : Routed) (name : String) :
    r.joined.find? name = ((cacheName? name).bind r.cache.find?).or (r.connection.find? name) := by
  rw [joined, NameMap.find?_override, withScope_find?]

end Routed

/-! ### Halves -/

/-- Put together, the routed halves are the map without the property that has no name. -/
theorem joined_route (P : PropertyMap) : (route P).joined = P.erase "Cache." := by
  refine NameMap.ext_find? fun name => ?_
  rw [Routed.joined_find?, route_connection_find?]
  cases hname : cacheName? name with
  | none =>
    have hne : "Cache." ≠ name := fun heq =>
      cacheName?_eq_none.1 hname "" (by rw [← heq, String.append_empty])
    rw [NameMap.find?_erase_of_ne P hne]
    rfl
  | some inner =>
    obtain rfl := cacheName?_eq_some.1 hname
    rw [if_neg (by simp), Option.or_none, Option.bind_some]
    by_cases hempty : inner = ""
    · rw [hempty, String.append_empty, NameMap.find?_erase_self, route_cache_find?_empty]
    · have hne : "Cache." ≠ "Cache." ++ inner := fun heq =>
        hempty (String.append_eq_left_iff.1 heq.symm)
      rw [NameMap.find?_erase_of_ne P hne, route_cache_find? P hempty]

theorem halves_route (P : PropertyMap) : (route P).Halves P := by
  have hnames : ∀ name ∈ (route P).connection, cacheName? name = none := by
    intro name hin
    obtain ⟨value, hvalue⟩ := NameMap.mem_iff_find?.1 hin
    rw [route_connection_find?] at hvalue
    by_contra hscope
    rw [if_neg hscope] at hvalue
    cases hvalue
  refine ⟨fun name hin => cacheName?_eq_none.1 (hnames name hin), ?_, fun name hin => ?_,
    joined_route P⟩
  · rw [NameMap.notMem_iff_find?, route_cache_find?_empty]
  · rw [NameMap.notMem_iff_find?, withScope_find?, hnames name hin]
    rfl

/-- A map has no other halves than those that it is routed to. -/
theorem Routed.Halves.eq_route {r : Routed} {P : PropertyMap} (h : r.Halves P) : r = route P := by
  -- each half is seen in the map that both make up
  have hjoined (name : String) : r.joined.find? name = (route P).joined.find? name := by
    rw [h.joined_eq, joined_route]
  have hconnection : r.connection = (route P).connection := by
    refine NameMap.ext_find? fun name => ?_
    cases hname : cacheName? name with
    | none =>
      have hfind := hjoined name
      rwa [joined_find?, joined_find?, hname, Option.bind_none, Option.bind_none, Option.none_or,
        Option.none_or] at hfind
    | some inner =>
      have hnone : name ∉ r.connection := fun hin =>
        h.connection_names name hin inner (cacheName?_eq_some.1 hname)
      rw [NameMap.notMem_iff_find?.1 hnone, route_connection_find?, if_neg (by simp [hname])]
  have hcache : r.cache = (route P).cache := by
    refine NameMap.ext_find? fun name => ?_
    by_cases hempty : name = ""
    · rw [hempty, route_cache_find?_empty, NameMap.notMem_iff_find?.1 h.cache_names]
    · have hfind := hjoined ("Cache." ++ name)
      rw [joined_find?, joined_find?, cacheName?_scope, Option.bind_some, Option.bind_some,
        hconnection] at hfind
      have hnone : (route P).connection.find? ("Cache." ++ name) = none := by
        rw [route_connection_find?, if_neg (by simp [cacheName?_scope])]
      rwa [hnone, Option.or_none, Option.or_none] at hfind
  cases r
  cases hroute : route P
  rw [hroute] at hconnection hcache
  cases hconnection
  cases hcache
  rfl

/-! ### What routing keeps -/

/-- The settings of a connection are those of the whole map: none of them is read from a property of
the cache. -/
theorem Settings.ofProperties_route (P : PropertyMap) :
    ofProperties (route P).connection = ofProperties P := by
  have hvalue (key : String) (hkey : cacheName? key = none) :
      value? (route P).connection key = value? P key :=
    value?_route P hkey
  have hserver : readServer (route P).connection = readServer P := by
    rw [readServer, readServer, hvalue "Server" (by decide)]
  have htimeout : readTimeout (route P).connection = readTimeout P := by
    rw [readTimeout, readTimeout, hvalue "Timeout" (by decide)]
  have hpassword : (route P).connection.find? "Password" = P.find? "Password" := by
    rw [route_connection_find?, if_pos (by decide)]
  simp only [ofProperties, hserver, htimeout, hpassword, hvalue "Catalog" (by decide),
    hvalue "DataSource" (by decide), hvalue "User" (by decide), hvalue "Cache" (by decide)]

/-- **Routing loses and mixes nothing.** The halves that a map is routed to are its only halves. They
and the property without a name make up the map again. The name of the cache itself, and names that
begin with its scope in other letters, stay with the connection, and the settings of a connection are
the same, or fail alike, whether they are read from the whole map or from its half. -/
theorem route_splits_uniquely (P : PropertyMap) :
    (∀ r : Routed, r.Halves P ↔ r = route P) ∧
      P = (P.find? "Cache.").elim (route P).joined ((route P).joined.insert "Cache." ·) ∧
      (route P).connection.find? "Cache" = P.find? "Cache" ∧
      (∀ scope rest, eqIgnoringCase scope "Cache." = true → scope ≠ "Cache." →
        (route P).connection.find? (scope ++ rest) = P.find? (scope ++ rest)) ∧
      Settings.ofProperties (route P).connection = Settings.ofProperties P := by
  refine ⟨fun r => ⟨fun h => h.eq_route, fun h => h ▸ halves_route P⟩, ?_, ?_,
    fun scope rest hscope hne => ?_, Settings.ofProperties_route P⟩
  · rw [joined_route]
    refine NameMap.ext_find? fun name => ?_
    by_cases hname : "Cache." = name
    · subst hname
      cases hvalue : P.find? "Cache." with
      | none => exact (NameMap.find?_erase_self P _).symm
      | some value => exact (NameMap.find?_insert_self _ _ _).symm
    · cases P.find? "Cache." with
      | none => exact (NameMap.find?_erase_of_ne P hname).symm
      | some value =>
        rw [Option.elim_some, NameMap.find?_insert_of_ne _ _ hname, NameMap.find?_erase_of_ne P hname]
  · rw [route_connection_find?, if_pos (by decide)]
  · rw [route_connection_find?, if_pos (cacheName?_of_other_case hscope hne rest)]

/-- One scope is taken off, the name in other letters stays, and the property without a name is
dropped. -/
example :
    let r := route (NameMap.ofPairs [("Cache.Cache.X", "1"), ("Cache.X", "2"), ("cache.X", "3"),
      ("Cache", "4"), ("Cache.", "5")])
    r.cache = NameMap.ofPairs [("Cache.X", "1"), ("X", "2")] ∧
      r.connection = NameMap.ofPairs [("Cache", "4"), ("cache.X", "3")] := by
  decide +kernel

end OlapClient
