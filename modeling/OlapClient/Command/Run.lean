import OlapClient.Command.Basic
import OlapClient.Report.Table

namespace OlapClient

open Cache (Vault)
open Exchange (Call)
open Report (JsonValue line)
open Rowset (Table)

/-!
# Running commands

* `CommandContext.run` — what a command prints, or why it fails, and the state it leaves.
* `CommandContext.query`, `CommandContext.discover`, `CommandContext.inspect`,
  `CommandContext.runProfiles` — the single commands.
-/

namespace CommandContext

/-! ### Requests -/

/-- A table as the options want it. -/
def printTable (s : CommandContext) (t : Table) : String :=
  if s.options.json then Report.jsonTable t else Report.textTable t

/-- Open the connection that the options name. -/
def connection (s : CommandContext) (v : Vault) : Except Failure Connection × Vault :=
  match s.properties v.machine with
  | .error e => (.error e, v)
  | .ok properties =>
    let (result, v') := Connection.start v properties none
    (result.mapError fun e => (Failure.ofConnection e).within "failed to open connection", v')

/-- A request on a connection, repeated some more times after it succeeds. The last table counts. -/
def repeatRequest (c : Connection) (r : Soap.Request) (v : Vault) :
    Nat → Call (Except Failure Table × Vault)
  | 0 => (c.request v r).map fun p => (p.1.mapError .ofConnection, p.2)
  | n + 1 =>
    (c.request v r).bind fun p =>
      match p.1 with
      | .error e => .done (.error (.ofConnection e), p.2)
      | .ok _ => repeatRequest c r p.2 n

/-- Run a request some times and print its table. -/
def request (s : CommandContext) (v : Vault) (r : Soap.Request) (more : Nat) :
    Call (Except Failure String × Vault) :=
  match s.connection v with
  | (.error e, v') => .done (.error e, v')
  | (.ok c, v') => (repeatRequest c r v' more).map fun p => (p.1.map s.printTable, p.2)

/-- The statement of a query. -/
def statement (s : CommandContext) (given : Option String) : Except Failure String :=
  let text : Except Failure String := match given.filter (· ≠ "-") with
    | some text => .ok text
    | none =>
      match Utf8.string? s.input with
      | some text => .ok text
      | none =>
        .error ⟨["failed to read statement from stdin", "stream did not contain valid UTF-8"]⟩
  match text with
  | .error e => .error e
  | .ok text =>
    match nonBlank? text with
    | some statement => .ok statement
    | none => .error (.say "empty MDX statement")

/-- Run a statement. -/
def query (s : CommandContext) (v : Vault) (given : Option String) (repeats : Nat) :
    Call (Except Failure String × Vault) :=
  match s.statement given with
  | .error e => .done (.error e, v)
  | .ok statement => s.request v (.execute statement) (repeats - 1)

/-- Ask what the server offers. -/
def discover (s : CommandContext) (v : Vault) (type : String) (restrictions : Soap.Pairs) :
    Call (Except Failure String × Vault) :=
  s.request v (.discover type restrictions) 0

/-! ### Connect strings -/

/-- The properties to inspect: those of the text given, else those that the options name. -/
def inspected (s : CommandContext) (m : Machine) (text : Option String) :
    Except Failure PropertyMap :=
  match text with
  | none => s.properties m
  | some text =>
    if s.options.connect.isSome then
      .error (.say "give the connect string either as an argument or with --connect")
    else parse text

/-- A heading with a rule under it. -/
def heading (title : String) : String :=
  line title ++ line (Report.rule 40)

/-- The lines of a property map. -/
def propertyLines (m : PropertyMap) : String :=
  String.join (m.toList.map fun p => line ("  " ++ p.1 ++ ": " ++ p.2))

/-- What is wrong with the properties of a connection. -/
def problem? (connection : PropertyMap) : Option String :=
  match Settings.ofProperties connection with
  | .ok _ => none
  | .error e => some e.message

/-- How properties are routed, as text. -/
def routedText (r : Routed) : String :=
  line "" ++ heading "Connection properties"
    ++ propertyLines (Report.masked r.connection)
    ++ line "" ++ heading "Cache properties"
    ++ (if r.cache.isEmpty then line "  (none)" else propertyLines r.cache)
    ++ line ""
    ++ match problem? r.connection with
      | none => line "✓ valid"
      | some e => line ("✗ " ++ e)

/-- How properties are routed, as an object. -/
def routedJson (r : Routed) : String :=
  let error := problem? r.connection
  line (JsonValue.object
    ([("connection", Report.jsonProperties (Report.masked r.connection)),
      ("cache", Report.jsonProperties r.cache), ("valid", .bool error.isNone)]
      ++ error.toList.map fun e => ("error", .string e))).pretty

/-- Show how a connect string is routed. -/
def inspect (s : CommandContext) (m : Machine) (text : Option String) : Except Failure String :=
  (s.inspected m text).map fun properties =>
    let r := route properties
    if s.options.json then routedJson r else routedText r

/-! ### Profiles -/

/-- The file of profiles. -/
def requirePath (s : CommandContext) : Except Failure String :=
  match s.profilePath with
  | some path => .ok path
  | none => .error (.say "cannot determine the config directory")

/-- The connect string of a profile as it is shown. -/
def shownString (properties : PropertyMap) : String :=
  ConnectString.render (Report.masked properties)

/-- The line of a profile in a list; a star marks the default. -/
def profileLine (set : ProfileSet) (p : String × PropertyMap) : String :=
  let mark := if set.default = some p.1 then "*" else " "
  line (mark ++ " " ++ p.1 ++ " " ++ shownString p.2)

/-- A profile in a list, as an object. -/
def profileJson (set : ProfileSet) (p : String × PropertyMap) : JsonValue :=
  .object [("name", .string p.1), ("default", .bool (set.default == some p.1)),
    ("connect_string", .string (shownString p.2))]

/-- The list of all profiles. -/
def printProfiles (s : CommandContext) (set : ProfileSet) : String :=
  let profiles := set.profiles.toList
  if s.options.json then line (JsonValue.array (profiles.map (profileJson set))).pretty
  else if profiles = [] then line "No profiles saved."
  else heading "Profiles" ++ String.join (profiles.map (profileLine set))

/-- List all profiles. -/
def listProfiles (s : CommandContext) (m : Machine) : Except Failure String :=
  (s.profiles m).map s.printProfiles

/-- Show a profile, or the default one. -/
def displayProfile (s : CommandContext) (m : Machine) (name : Option String) :
    Except Failure String :=
  match s.profiles m with
  | .error e => .error e
  | .ok set =>
    match set.resolve name with
    | .error e => .error (.ofProfile e)
    | .ok properties =>
      .ok (line (if s.options.json then
        (Report.jsonProperties (Report.masked properties)).pretty
      else shownString properties))

/-- Save a set and say so, unless the output is to be JSON. -/
def store (s : CommandContext) (m : Machine) (path : String) (set : ProfileSet) (report : String) :
    Except Failure String × Machine :=
  match set.save m path with
  | (.error e, m') => (.error (.ofProfile e), m')
  | (.ok _, m') => (.ok (if s.options.json then "" else line report), m')

/-- The set with a profile saved. It becomes the default if it is told to or if there is none. -/
def withProfile (set : ProfileSet) (name : String) (properties : PropertyMap) (asDefault : Bool) :
    ProfileSet :=
  let set := set.set name properties
  if asDefault ∨ set.default = none then set.withDefault (some name) else set

/-- Save a connect string as a profile. -/
def saveProfile (s : CommandContext) (m : Machine) (name text : String) (asDefault : Bool) :
    Except Failure String × Machine :=
  let change : Except Failure (String × ProfileSet) := do
    if trim name = "" then throw (.say "profile name is empty")
    let properties ← parse text
    let path ← s.requirePath
    let set ← s.profiles m
    return (path, withProfile set name properties asDefault)
  match change with
  | .error e => (.error e, m)
  | .ok (path, set) => s.store m path set ("✓ Saved profile " ++ name)

/-- Remove a profile. -/
def removeProfile (s : CommandContext) (m : Machine) (name : String) :
    Except Failure String × Machine :=
  let change : Except Failure (String × ProfileSet) := do
    let path ← s.requirePath
    let set ← s.profiles m
    match set.remove name with
    | (none, _) => throw (.say ("profile not found: " ++ name))
    | (some _, set) => return (path, set)
  match change with
  | .error e => (.error e, m)
  | .ok (path, set) => s.store m path set ("✓ Removed profile " ++ name)

/-- Print where the profiles are saved. -/
def printPath (s : CommandContext) : Except Failure String :=
  s.requirePath.map fun path =>
    line (if s.options.json then (JsonValue.object [("path", .string path)]).compact else path)

/-- Run a command on profiles. -/
def runProfiles (s : CommandContext) (m : Machine) :
    ProfileCommand → Except Failure String × Machine
  | .list => (s.listProfiles m, m)
  | .display name => (s.displayProfile m name, m)
  | .save name text asDefault => s.saveProfile m name text asDefault
  | .remove name => s.removeProfile m name
  | .path => (s.printPath, m)

/-! ### All commands -/

/-- Run a command: what it prints or why it fails, and the state it leaves. -/
def run (s : CommandContext) (v : Vault) : Command → Call (Except Failure String × Vault)
  | .query given repeats => s.query v given repeats
  | .discover type restrictions => s.discover v type restrictions
  | .inspect text => .done (s.inspect v.machine text, v)
  | .profiles command =>
    let (result, machine) := s.runProfiles v.machine command
    .done (result, { v with machine })

end CommandContext

end OlapClient
