import OlapClient.Property.NameMap

namespace OlapClient

/-!
# Routing of properties

Properties whose name begins with `Cache.` belong to the cache, under the rest of their name. All
others, the bare `Cache` among them, belong to the connection.
-/

/-- The properties of a connection and those of its cache. -/
structure Routed where
  connection : PropertyMap
  cache : PropertyMap

/-- The beginning of the names of cache properties. -/
def cacheScope : List Char :=
  ['C', 'a', 'c', 'h', 'e', '.']

/-- The name of a cache property within its cache, if the name is that of one. -/
def cacheName? (name : String) : Option String :=
  if cacheScope.isPrefixOf name.toList then
    some (String.ofList (name.toList.drop cacheScope.length))
  else none

/-- Route one property. A cache property without a name of its own goes nowhere. -/
def Routed.add (r : Routed) (p : String × String) : Routed :=
  match cacheName? p.1 with
  | none => { r with connection := r.connection.insert p.1 p.2 }
  | some name => if name = "" then r else { r with cache := r.cache.insert name p.2 }

/-- Route the properties of a map. -/
def route (properties : PropertyMap) : Routed :=
  properties.toList.foldl Routed.add ⟨∅, ∅⟩

end OlapClient
