import OlapClient.Profile.Set
import OlapClient.Toml.Document

namespace OlapClient

open Toml (Entries Node)

/-!
# Documents of profiles

A set of profiles is saved as a TOML document: the name of the default profile, and one table
`profiles.NAME` per profile, whose entries are its properties.

* `ProfileSet.write` — the document of a set.
* `ProfileSet.read` — the set of a document. Entries that it does not know do not matter.
-/

namespace ProfileSet

/-! ### Writing -/

/-- The line of an entry. -/
def writeEntry (p : String × String) : List Char :=
  Toml.writeKey p.1 ++ " = ".toList ++ Toml.writeString p.2 ++ ['\n']

/-- The table of a profile. -/
def writeProfile (p : String × PropertyMap) : List Char :=
  "[profiles.".toList ++ Toml.writeKey p.1 ++ "]\n".toList ++ p.2.toList.flatMap writeEntry

/-- The tables of all profiles, with an empty line between any two. -/
def writeProfiles (profiles : List (String × PropertyMap)) : List Char :=
  if profiles = [] then "[profiles]\n".toList
  else List.intercalate ['\n'] (profiles.map writeProfile)

/-- The line that names the default profile, and an empty one. -/
def writeDefault : Option String → List Char
  | none => []
  | some name => writeEntry ("default_profile", name) ++ ['\n']

/-- The document of a set. -/
def write (s : ProfileSet) : String :=
  String.ofList (writeDefault s.default ++ writeProfiles s.profiles.toList)

/-! ### Reading -/

/-- The property that a date stands for where a profile should be. -/
def momentKey : String := "$__toml_private_datetime"

/-- The text of a property. -/
def readText : Node → Option String
  | .string s => some s
  | _ => none

/-- The properties of a profile, all of which are texts. -/
def readProperties : Node → Option PropertyMap
  | .table _ entries =>
    (entries.mapM fun (e : String × Node) => (readText e.2).map fun s => (e.1, s)).map
      NameMap.ofPairs
  | .moment m => some (NameMap.ofPairs [(momentKey, m.text)])
  | _ => none

/-- The profiles of the table that holds them, which may be missing. -/
def readProfiles : Option Node → Option (NameMap PropertyMap)
  | none => some ∅
  | some (.table _ entries) =>
    (entries.mapM fun (e : String × Node) => (readProperties e.2).map fun m => (e.1, m)).map
      NameMap.ofPairs
  | some _ => none

/-- The name of the default profile, which may be missing. -/
def readDefault : Option Node → Option (Option String)
  | none => some none
  | some node => (readText node).map some

/-- The set of a tree. -/
def ofEntries? (es : Entries) : Option ProfileSet :=
  match readDefault (es.find? "default_profile"), readProfiles (es.find? "profiles") with
  | some default, some profiles => some ⟨default, profiles⟩
  | _, _ => none

/-- The set of a document. -/
def read (text : String) : Except ProfileError ProfileSet :=
  match (Toml.readDocument text.toList).bind ofEntries? with
  | some s => .ok s
  | none => .error .malformed

end ProfileSet

end OlapClient
