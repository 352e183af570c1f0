import OlapClient.Proofs.Property.Routing
import OlapClient.Property.Settings

namespace OlapClient

/-!
# What settings come from

* `Settings.ofProperties_eq_ok` — the properties that the settings are read from.
* `Settings.ofProperties_congr` — maps that agree but for the kind of cache give the same settings
  but for that.
* `Settings.value?_route` — routing leaves the properties of a connection as they are.
* `PropertyMap.withoutCache`, `Settings.ofProperties_withoutCache` — leaving out what concerns a
  cache changes nothing else.
-/

namespace Settings

variable {P Q : PropertyMap} {s : Settings}

/-- Settings that could be read have the values of their properties. -/
theorem ofProperties_eq_ok (h : ofProperties P = .ok s) :
    readServer P = .ok s.server ∧ readTimeout P = .ok s.timeout ∧
      s = ⟨s.server, value? P "Catalog", value? P "DataSource", value? P "User",
        P.find? "Password", s.timeout, value? P "Cache"⟩ := by
  unfold ofProperties at h
  split at h
  · cases h
  · rename_i server hserver
    split at h
    · cases h
    · rename_i timeout htimeout
      cases h
      exact ⟨hserver, htimeout, rfl⟩

/-- Maps that agree but for the kind of cache give the same settings but for that. -/
theorem ofProperties_congr (hagree : ∀ name, name ≠ "Cache" → Q.find? name = P.find? name)
    (h : ofProperties P = .ok s) : ofProperties Q = .ok { s with cache := value? Q "Cache" } := by
  have hvalue : ∀ name, name ≠ "Cache" → value? Q name = value? P name := by
    intro name hname
    unfold value?
    rw [hagree name hname]
  obtain ⟨hserver, htimeout, hs⟩ := ofProperties_eq_ok h
  have hserver' : readServer Q = .ok s.server := by
    rw [← hserver, readServer, readServer, hvalue "Server" (by decide)]
  have htimeout' : readTimeout Q = .ok s.timeout := by
    rw [← htimeout, readTimeout, readTimeout, hvalue "Timeout" (by decide)]
  rw [ofProperties, hserver', htimeout']
  simp only [hvalue "Catalog" (by decide), hvalue "DataSource" (by decide),
    hvalue "User" (by decide), hagree "Password" (by decide)]
  rw [hs]

/-- Routing leaves the properties of a connection as they are. -/
theorem value?_route (P : PropertyMap) {key : String} (h : cacheName? key = none) :
    value? (route P).connection key = value? P key := by
  rw [value?, value?, route_connection_find?, if_pos h]

end Settings

/-! ### Properties without those of a cache -/

/-- The properties without those that name and configure a cache. -/
def PropertyMap.withoutCache (P : PropertyMap) : PropertyMap :=
  P.filter fun name _ => name != "Cache" && (cacheName? name).isNone

theorem route_withoutCache_find? (P : PropertyMap) (name : String) :
    (route P.withoutCache).connection.find? name =
      if name = "Cache" then none else (route P).connection.find? name := by
  rw [route_connection_find?, route_connection_find?, PropertyMap.withoutCache,
    NameMap.find?_filter]
  by_cases hname : name = "Cache"
  · rw [if_pos hname, hname]
    cases P.find? "Cache" <;> simp
  · rw [if_neg hname]
    by_cases hscope : cacheName? name = none
    · rw [if_pos hscope, if_pos hscope]
      cases P.find? name <;> simp [hname, hscope]
    · rw [if_neg hscope, if_neg hscope]

/-- Without the properties of a cache the settings are the same, but that no kind of cache is
named. -/
theorem Settings.ofProperties_withoutCache {P : PropertyMap} {s : Settings}
    (h : ofProperties (route P).connection = .ok s) :
    ofProperties (route P.withoutCache).connection = .ok { s with cache := none } := by
  have hcache : value? (route P.withoutCache).connection "Cache" = none := by
    rw [value?, route_withoutCache_find?, if_pos rfl, Option.bind_none]
  rw [← hcache]
  refine ofProperties_congr (fun name hname => ?_) h
  rw [route_withoutCache_find?, if_neg hname]

end OlapClient
