import OlapClient.Machine
import OlapClient.Profile.Document

namespace OlapClient

/-!
# The file of profiles

* `Environment.profilePath` — where the user's file of profiles lies.
* `ProfileSet.load`, `ProfileSet.loadUser` — reading a file of profiles.
* `ProfileSet.save` — writing one, with the directories above it.
-/

/-- What a user's environment says about where files lie. -/
structure Environment where
  /-- The directory of this program's files. -/
  configDirectory : Option String := none
  /-- The directory of all programs' files. -/
  sharedDirectory : Option String := none
  home : Option String := none
deriving DecidableEq, Repr

namespace Environment

/-- The text of a path with a name put after it. -/
def below (text name : String) : String :=
  ((WrittenPath.ofString text).child name).text

/-- The directory of all programs' files: the one named, if it is absolute, else one in the home. -/
def sharedPath (e : Environment) : Option String :=
  (e.sharedDirectory.filter fun text => (WrittenPath.ofString text).isAbsolute)
    <|> (e.home.map fun home => below home ".config")

/-- The directory of this program's files: the one named, if it is not empty, else one among those
of all programs. -/
def configPath (e : Environment) : Option String :=
  (e.configDirectory.filter (· ≠ "")) <|> (e.sharedPath.map fun shared => below shared "xmla")

/-- The user's file of profiles. -/
def profilePath (e : Environment) : Option String :=
  e.configPath.map fun directory => below directory "config.toml"

end Environment

namespace ProfileSet

/-- Read a file of profiles. -/
def load (m : Machine) (path : String) : Except ProfileError ProfileSet :=
  match m.read path with
  | .error e => .error (.unreadable path (.file e))
  | .ok content =>
    match Utf8.string? content with
    | none => .error (.unreadable path .notText)
    | some text => read text

/-- Read the user's file of profiles. Without one there are no profiles. -/
def loadUser (m : Machine) (path : Option String) : Except ProfileError ProfileSet :=
  match path with
  | none => .ok empty
  | some path => if m.isFile path then load m path else .ok empty

/-- Write a file of profiles. Its directory is created if it is missing, and stays if the file then
cannot be written. -/
def save (s : ProfileSet) (m : Machine) (path : String) : Except ProfileError Unit × Machine :=
  let above := ((WrittenPath.ofString path).parent?.map (·.text)).getD ""
  match m.makeDirectories above with
  | (.error e, m) => (.error (.unwritable above e), m)
  | (.ok _, m) =>
    match m.write path (Utf8.encodeString s.write) with
    | .error e => (.error (.unwritable path e), m)
    | .ok m => (.ok (), m)

end ProfileSet

end OlapClient
