import OlapClient.Files.Tree
import OlapClient.Property.NameMap

namespace OlapClient

/-!
# Profiles

* `ProfileSet` — property maps saved under names, of which one may be the default.
* `ProfileSet.resolve` — the profile of a name, or the default one.
* `ProfileSet.set`, `ProfileSet.remove` — changing a set. The default goes with its profile.
* `ProfileError` — why a profile or a file of profiles cannot be used.
-/

/-- Why the file of profiles cannot be read. -/
inductive ReadFailure where
  | file (e : FileError)
  | notText
deriving DecidableEq, Repr

/-- The wording of the reason. -/
def ReadFailure.message : ReadFailure → String
  | .file e => e.message
  | .notText => "stream did not contain valid UTF-8"

/-- Why a profile or a file of profiles cannot be used. -/
inductive ProfileError where
  | unreadable (path : String) (reason : ReadFailure)
  | unwritable (path : String) (reason : FileError)
  /-- The file is no document of profiles. -/
  | malformed
  | notFound (name : String)
  | noDefault
deriving DecidableEq, Repr

/-- What is said of a file that is no document of profiles. -/
def malformedReason : String := "not a document of profiles"

/-- The report of a bad profile or file of profiles. -/
def ProfileError.message : ProfileError → String
  | .unreadable path reason => "failed to read config file '" ++ path ++ "': " ++ reason.message
  | .unwritable path reason => "failed to write config file '" ++ path ++ "': " ++ reason.message
  | .malformed => "failed to parse config: " ++ malformedReason
  | .notFound name => "profile '" ++ name ++ "' not found"
  | .noDefault => "no default profile configured; pass a profile name or set default_profile"

/-- The report of a failure, followed by that of its cause in the file system. -/
def ProfileError.reports (e : ProfileError) : List String :=
  e.message :: match e with
    | .unreadable _ reason => [reason.message]
    | .unwritable _ reason => [reason.message]
    | _ => []

/-- Property maps saved under names, of which one may be named as the default. -/
structure ProfileSet where
  default : Option String
  profiles : NameMap PropertyMap

namespace ProfileSet

/-- The set without profiles. -/
def empty : ProfileSet :=
  ⟨none, ∅⟩

/-- The profile of a name. -/
def find? (s : ProfileSet) (name : String) : Option PropertyMap :=
  s.profiles.find? name

/-- The profile of a name, or the default one if no name is given. -/
def resolve (s : ProfileSet) (name : Option String) : Except ProfileError PropertyMap :=
  match name <|> s.default with
  | none => .error .noDefault
  | some name =>
    match s.find? name with
    | some properties => .ok properties
    | none => .error (.notFound name)

/-- Add or replace a profile. -/
def set (s : ProfileSet) (name : String) (properties : PropertyMap) : ProfileSet :=
  { s with profiles := s.profiles.insert name properties }

/-- Name another default, or none. -/
def withDefault (s : ProfileSet) (name : Option String) : ProfileSet :=
  { s with default := name }

/-- Remove a profile. If it was the default there is none afterwards. -/
def remove (s : ProfileSet) (name : String) : Option PropertyMap × ProfileSet :=
  match s.find? name with
  | none => (none, s)
  | some properties =>
    (some properties,
      { default := if s.default = some name then none else s.default
        profiles := s.profiles.erase name })

/-- The names of the profiles, in order. -/
def names (s : ProfileSet) : List String :=
  s.profiles.toList.map (·.1)

end ProfileSet

end OlapClient
