import OlapClient.Connection.Basic
import OlapClient.Profile.File

namespace OlapClient

/-!
# Commands

* `Command` — what the program can be told to do.
* `Options` — what applies to every command.
* `Failure` — why a command fails, from the outermost report to the cause.
* `CommandContext.properties` — the properties of the connection that the options name.
-/

/-- What can be done with profiles. -/
inductive ProfileCommand where
  | list
  | display (name : Option String)
  | save (name text : String) (asDefault : Bool)
  | remove (name : String)
  | path
deriving DecidableEq, Repr

/-- What the program can be told to do. -/
inductive Command where
  /-- Run a statement, several times. Without one, or if it is a hyphen, it is read from the
  input. -/
  | query (statement : Option String) (repeats : Nat)
  | discover (type : String) (restrictions : Soap.Pairs)
  /-- Show how a connect string is routed. -/
  | inspect (text : Option String)
  | profiles (command : ProfileCommand)
deriving DecidableEq, Repr

/-- What applies to every command. -/
structure Options where
  verbose : Bool := false
  json : Bool := false
  connect : Option String := none
  profile : Option String := none
  logFile : Option String := none
deriving DecidableEq, Repr

/-- Why a command fails: reports from the outermost one to the cause. -/
structure Failure where
  reports : List String
deriving DecidableEq, Repr

namespace Failure

/-- A failure with a report of its own. -/
def say (report : String) : Failure :=
  ⟨[report]⟩

/-- A failure with a report of what was being done. -/
def within (report : String) (f : Failure) : Failure :=
  ⟨report :: f.reports⟩

/-- The failure of a connection. -/
def ofConnection (e : ConnectionError) : Failure :=
  ⟨e.reports⟩

/-- The failure to read a connect string. -/
def ofConnectString (e : ConnectString.Error) : Failure :=
  within "invalid connect string" ⟨[e.message]⟩

/-- The failure of an operation on profiles. -/
def ofProfile (e : ProfileError) : Failure :=
  ⟨e.reports⟩

/-- The failure to load profiles. -/
def ofLoading (e : ProfileError) : Failure :=
  within "failed to load profiles" (ofProfile e)

end Failure

/-- What a command can see besides files and network: its options, where the user's profiles lie,
and its input. -/
structure CommandContext where
  options : Options
  profilePath : Option String
  input : Bytes

namespace CommandContext

/-- The properties of a connect string. -/
def parse (text : String) : Except Failure PropertyMap :=
  (ConnectString.parse text).mapError .ofConnectString

/-- The user's profiles. -/
def profiles (s : CommandContext) (m : Machine) : Except Failure ProfileSet :=
  (ProfileSet.loadUser m s.profilePath).mapError .ofLoading

/-- The properties of the connection that the options name: those of the connect string, else those
of a profile, else those of the default profile. -/
def properties (s : CommandContext) (m : Machine) : Except Failure PropertyMap :=
  match s.options.connect, s.options.profile with
  | some _, some _ => .error (.say "--connect and --profile cannot be used together")
  | some text, none => parse text
  | none, profile =>
    match s.profiles m with
    | .error e => .error e
    | .ok set =>
      (set.resolve profile).mapError fun e =>
        (Failure.ofProfile e).within "no connection given: pass --connect or --profile"

end CommandContext

end OlapClient
