import Std.Data.ExtTreeMap

namespace OlapClient

/-!
# Maps by name

* `NameMap` — a finite map from names, ordered by name. Two maps with the same look-ups are equal.
* `PropertyMap` — a map from names to texts.
* `NameMap.ofPairs` — inserting pairs from left to right, so that the last of a name counts.
-/

/-- A finite map from names, in the order of their characters. -/
abbrev NameMap (α : Type) := Std.ExtTreeMap String α compare

/-- The properties of a connection. -/
abbrev PropertyMap := NameMap String

namespace NameMap

variable {α : Type}

/-- The map that pairs spell when they are inserted from left to right. -/
def ofPairs (pairs : List (String × α)) : NameMap α :=
  pairs.foldl (fun m p => m.insert p.1 p.2) ∅

/-- The first map with every entry of the second put in. -/
def override (m n : NameMap α) : NameMap α :=
  n.toList.foldl (fun m p => m.insert p.1 p.2) m

/-- The entry of a name. -/
def find? (m : NameMap α) (name : String) : Option α :=
  m[name]?

end NameMap

end OlapClient
