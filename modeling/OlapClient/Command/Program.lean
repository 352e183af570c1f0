import OlapClient.Command.Arguments
import OlapClient.Command.Run

namespace OlapClient

open Cache (Vault)
open Exchange (Call)

/-!
# The program

* `Invocation` — what a run of the program is given.
* `Outcome` — what it prints, and its exit code.
* `Invocation.run` — a whole run: reading the command line, opening the log, running the command.
* `Invocation.readsInput`, `Invocation.files`, `Invocation.recording?` — what a run may read, for
  whoever has to fetch it.
-/

/-- What a run of the program is given: words, environment and input. -/
structure Invocation where
  words : List String
  connect : Option String := none
  profile : Option String := none
  environment : Environment
  input : Bytes

/-- What a run of the program prints, and its exit code. -/
structure Outcome where
  code : Nat
  output : String
  errors : String
deriving DecidableEq, Repr

/-- The version of the program. -/
def version : String := "0.0.0"

/-- The name of the program, or of one of its commands. -/
def programName (words : List String) : String :=
  String.intercalate "-" ("xmla" :: words)

/-- How the program is to be called. -/
def usageText : String :=
  String.intercalate "\n"
    [ "Usage: xmla [OPTIONS] <COMMAND>", "",
      "Commands: query, discover, parse-connect, profiles", "",
      "Options: -v --verbose, --json, -c --connect STRING, -p --profile NAME, --log-file FILE", "" ]

/-- The outcome of a command line without a command to run. -/
def Outcome.ofStop : Arguments.Stop → Outcome
  | .help => ⟨0, usageText, ""⟩
  | .version words => ⟨0, programName words ++ " " ++ version ++ "\n", ""⟩
  | .usage => ⟨2, "", "error: bad command line\n\n" ++ usageText⟩

/-- The text of a failure: its outermost report, and below it the causes. -/
def Failure.text (f : Failure) : String :=
  match f.reports with
  | [] => ""
  | report :: causes =>
    "Error: " ++ report ++ "\n"
      ++ (if causes = [] then "" else "\nCaused by:\n")
      ++ String.join (causes.map fun cause => "    " ++ cause ++ "\n")

/-- The outcome of a command. -/
def Outcome.ofResult : Except Failure String → Outcome
  | .ok output => ⟨0, output, ""⟩
  | .error e => ⟨1, "", e.text⟩

/-- The file that a log is written to: one of that name in its directory, which is the current one
if none is named. -/
def logPath (text : String) : WrittenPath :=
  let path := WrittenPath.ofString text
  let directory := (path.parent?.filter (!·.isEmpty)).getD (.ofString ".")
  directory.child (path.lastName?.getD "xmla.log")

/-- Open a log: an existing file is left as it is, and a missing directory is created. -/
def openLog (fs : Files) (path : WrittenPath) : Except FileError Files :=
  match fs.touch path with
  | .ok fs' => .ok fs'
  | .error _ =>
    match fs.makeDirectories (path.parent?.getD path) with
    | (.error e, _) => .error e
    | (.ok _, fs') => fs'.touch path

/-- The outcome of a run whose log cannot be opened. -/
def Outcome.withoutLog (e : FileError) : Outcome :=
  ⟨101, "", "failed to create initial log file: " ++ e.message ++ "\n"⟩

/-- The machine after the log was opened, if one is wanted. -/
def withLog (m : Machine) : Option String → Except FileError Machine
  | none => .ok m
  | some text => (openLog m.files (logPath text)).map m.withFiles

/-- A whole run of the program, and the files it leaves. -/
def Invocation.run (i : Invocation) (m : Machine) : Call (Outcome × Machine) :=
  match Arguments.read i.words i.connect i.profile with
  | .error stop => .done (.ofStop stop, m)
  | .ok (options, command) =>
    match withLog m options.logFile with
    | .error e => .done (.withoutLog e, m)
    | .ok m' =>
      let context : CommandContext := ⟨options, i.environment.profilePath, i.input⟩
      (context.run (Vault.empty m') command).map fun p => (.ofResult p.1, p.2.machine)

/-! ### What a run may read -/

/-- Whether a command reads its statement from the input. -/
def Command.readsInput : Command → Bool
  | .query given _ => (given.filter (· ≠ "-")).isNone
  | _ => false

/-- The request that a command sends. What it reads from the input is given. -/
def CommandContext.request? (s : CommandContext) : Command → Option Soap.Request
  | .query given _ => (s.statement given).toOption.map .execute
  | .discover type restrictions => some (.discover type restrictions)
  | _ => none

/-- The recording that may answer a request. -/
def CommandContext.recording? (s : CommandContext) (v : Vault) (r : Soap.Request) :
    Option WrittenPath :=
  match s.connection v with
  | (.error _, _) => none
  | (.ok c, v') => do
    let b ← c.binding
    let request ← (c.envelope r).toOption
    match ← v'.store? b.store with
    | .memory _ => none
    | .replay store => store.entryFile? b.session c.settings.server request

namespace Invocation

/-- The options and the command, if the command line has them. -/
def command? (i : Invocation) : Option (Options × Command) :=
  (Arguments.read i.words i.connect i.profile).toOption

/-- Whether a run reads its input. -/
def readsInput (i : Invocation) : Bool :=
  (i.command?.map fun p => p.2.readsInput).getD false

/-- The paths of the profiles and of the log. -/
def files (i : Invocation) : List WrittenPath :=
  (i.environment.profilePath.map .ofString).toList
    ++ ((i.command?.bind fun p => p.1.logFile).map logPath).toList

/-- The recording that a run may read. -/
def recording? (i : Invocation) (m : Machine) : Option WrittenPath := do
  let (options, command) ← i.command?
  let context : CommandContext := ⟨options, i.environment.profilePath, i.input⟩
  let request ← context.request? command
  context.recording? (Vault.empty m) request

end Invocation

end OlapClient
