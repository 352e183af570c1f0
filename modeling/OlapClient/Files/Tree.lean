import Std.Data.ExtTreeMap
import OlapClient.Files.WrittenPath

namespace OlapClient

/-!
# Trees of files

* `Path` — the names that lead to a file, from the outermost directory.
* `FileError` — why an operation on files fails, with the system's wording.
* `Files` — a tree of directories and files, seen from a current directory.
* `Files.walk` — following names; `Files.locate` — where a written path leads.
* `Files.read`, `Files.write`, `Files.makeDirectories`, … — the operations on written paths.

A tree holds directories and regular files. It has no symbolic links, which a path would follow, and
no pipes, sockets or devices. Names are texts, and every directory may be read and changed.
-/

/-- The names that lead to a file or directory, from the outermost one. -/
abbrev Path := List String

/-- Why an operation on files fails. -/
inductive FileError where
  | notFound
  | exists
  | notDirectory
  | isDirectory
  | nameTooLong
  /-- A name with a null character. -/
  | nullInName
  /-- A failure that the storage words itself. -/
  | other (text : String)
deriving DecidableEq, Repr

/-- The system's wording of a failure. -/
def FileError.message : FileError → String
  | .notFound => "No such file or directory (os error 2)"
  | .exists => "File exists (os error 17)"
  | .notDirectory => "Not a directory (os error 20)"
  | .isDirectory => "Is a directory (os error 21)"
  | .nameTooLong => "File name too long (os error 36)"
  | .nullInName => "file name contained an unexpected NUL byte"
  | .other text => text

/-- What stands at a path: a directory or a regular file. Links and special files are left out. -/
inductive FileNode where
  | directory
  | file (content : Bytes)
deriving DecidableEq, Repr

/-- The directories and regular files below an outermost directory, by path, and the directory that
relative paths start at. Without links, no two paths lead to one node. -/
structure Files where
  nodes : Std.ExtTreeMap Path FileNode compare
  current : Path := []

namespace Files

/-- The tree that holds nothing. -/
def empty : Files :=
  ⟨∅, []⟩

/-- What stands at a path. The outermost directory always exists. -/
def node? (fs : Files) (path : Path) : Option FileNode :=
  if path = [] then some .directory else fs.nodes[path]?

/-- Whether a directory stands at a path. -/
def isDirectoryAt (fs : Files) (path : Path) : Bool :=
  match fs.node? path with
  | some .directory => true
  | _ => false

/-- Put a node where the directory above exists. -/
def place (fs : Files) (path : Path) (node : FileNode) : Files :=
  { fs with nodes := fs.nodes.insert path node }

/-- Take away the node at a path. -/
def erase (fs : Files) (path : Path) : Files :=
  { fs with nodes := fs.nodes.erase path }

/-- The names in a directory, in order. -/
def names (fs : Files) (directory : Path) : List String :=
  fs.nodes.toList.filterMap fun p =>
    if p.1.dropLast = directory then p.1.getLast? else none

/-! ### Following paths -/

/-- The longest name that the system takes, in bytes. -/
def longestName : Nat := 255

/-- The longest path that the system takes, in bytes. -/
def longestPath : Nat := 4095

/-- Whether the system takes a path at all. -/
def check (p : WrittenPath) : Except FileError Unit :=
  if p.parts.any fun part => part.toList.contains (Char.ofNat 0) then .error .nullInName
  else if p.isEmpty then .error .notFound
  else if longestPath < p.size then .error .nameTooLong
  else .ok ()

/-- Go from a directory to a name in it. -/
def enter (fs : Files) (at_ : Path) (name : String) : Except FileError Path :=
  if name = "." then .ok at_
  else if name = ".." then .ok at_.dropLast
  else if longestName < Utf8.size name.toList then .error .nameTooLong
  else
    match fs.node? (at_ ++ [name]) with
    | none => .error .notFound
    | some _ => .ok (at_ ++ [name])

/-- Follow names, each of which needs a directory to start from. -/
def walk (fs : Files) (at_ : Path) : List String → Except FileError Path
  | [] => .ok at_
  | name :: rest =>
    if fs.isDirectoryAt at_ then
      match fs.enter at_ name with
      | .error e => .error e
      | .ok next => fs.walk next rest
    else .error .notDirectory

/-- Where a written path starts. -/
def start (fs : Files) (p : WrittenPath) : Path :=
  if p.isAbsolute then [] else fs.current

/-- The names of a written path. A slash at its end asks for a directory, as a point would. -/
def steps (p : WrittenPath) : List String :=
  if p.endsInSlash then p.names ++ ["."] else p.names

/-- Where a written path leads, or why it leads nowhere. -/
def locate (fs : Files) (p : WrittenPath) : Except FileError Path :=
  match check p with
  | .error e => .error e
  | .ok _ => fs.walk (fs.start p) (steps p)

/-- What a written path leads to. -/
def find (fs : Files) (p : WrittenPath) : Except FileError FileNode :=
  match fs.locate p with
  | .error e => .error e
  | .ok path => ((fs.node? path).map .ok).getD (.error .notFound)

/-! ### Reading -/

/-- Whether a written path leads to a directory. -/
def isDirectory (fs : Files) (p : WrittenPath) : Bool :=
  match fs.find p with
  | .ok .directory => true
  | _ => false

/-- Whether a written path leads to a file. -/
def isFile (fs : Files) (p : WrittenPath) : Bool :=
  match fs.find p with
  | .ok (.file _) => true
  | _ => false

/-- The names in a directory. -/
def list (fs : Files) (p : WrittenPath) : Except FileError (List String) :=
  match fs.locate p with
  | .error e => .error e
  | .ok path => if fs.isDirectoryAt path then .ok (fs.names path) else .error .notDirectory

/-- The content of a file. -/
def read (fs : Files) (p : WrittenPath) : Except FileError Bytes :=
  match fs.find p with
  | .error e => .error e
  | .ok .directory => .error .isDirectory
  | .ok (.file content) => .ok content

/-! ### Writing -/

/-- The place of a file that is to be written: that of a file, or one without a node in a directory.
A path that can only lead to a directory is none, once the directory before its last name is
there. -/
def target (fs : Files) (p : WrittenPath) : Except FileError Path :=
  match check p with
  | .error e => .error e
  | .ok _ =>
    match p.names.getLast? with
    | none => .error .isDirectory
    | some last =>
      match fs.walk (fs.start p) p.names.dropLast with
      | .error e => .error e
      | .ok above =>
        if !fs.isDirectoryAt above then .error .notDirectory
        else if p.endsInSlash then .error .isDirectory
        else
          match fs.enter above last with
          | .error .notFound => .ok (above ++ [last])
          | .error e => .error e
          | .ok path => if fs.isDirectoryAt path then .error .isDirectory else .ok path

/-- Write a file, which may be there already. -/
def write (fs : Files) (p : WrittenPath) (content : Bytes) : Except FileError Files :=
  (fs.target p).map fun path => fs.place path (.file content)

/-- Make sure that there is a file. One that is there stays as it is. -/
def touch (fs : Files) (p : WrittenPath) : Except FileError Files :=
  (fs.target p).map fun path =>
    match fs.node? path with
    | some _ => fs
    | none => fs.place path (.file [])

/-- Follow names, creating the directories that are missing; `fresh` says that some already were. A
failure keeps what was created before it. -/
def createAlong (fs : Files) (fresh : Bool) (at_ : Path) :
    List String → Except FileError Unit × Files
  | [] => (.ok (), fs)
  | name :: rest =>
    match fs.enter at_ name with
    | .error .notFound =>
      (fs.place (at_ ++ [name]) .directory).createAlong true (at_ ++ [name]) rest
    | .error e => (.error e, fs)
    | .ok next =>
      if fs.isDirectoryAt next then fs.createAlong fresh next rest
      else (.error (if rest = [] ∨ fresh then .exists else .notDirectory), fs)

/-- A tree that holds a directory and those above it, seen from that directory. -/
def seenFrom (current : Path) : Files :=
  { (empty.createAlong false [] current).2 with current }

/-- Create the directories above the last name of a path that ends in a point, which then has to be
there. -/
def createBefore (fs : Files) (p : WrittenPath) : Except FileError Unit × Files :=
  let names := p.names.filter (· ≠ ".")
  match fs.walk (fs.start p) p.names with
  | .ok _ => (.ok (), fs)
  | .error .notFound =>
    match fs.createAlong false (fs.start p) names.dropLast with
    | (.error e, fs') => (.error e, fs')
    | (.ok _, fs') => ((fs'.walk (fs'.start p) p.names).map fun _ => (), fs')
  | .error e => (.error e, fs)

/-- Create the directory that a path leads to, and those above it. A path that cannot be followed is
refused before anything is created. -/
def makeDirectories (fs : Files) (p : WrittenPath) : Except FileError Unit × Files :=
  if p.parent?.isNone then (.ok (), fs)
  else
    match check p with
    | .error e => (.error e, fs)
    | .ok _ =>
      if p.endsInPoint then fs.createBefore p
      else fs.createAlong false (fs.start p) (p.names.filter (· ≠ "."))

/-- Remove a file. -/
def remove (fs : Files) (p : WrittenPath) : Except FileError Files :=
  match fs.locate p with
  | .error e => .error e
  | .ok path => if fs.isDirectoryAt path then .error .isDirectory else .ok (fs.erase path)

/-- Move a file onto another path, whose file it replaces. -/
def rename (fs : Files) (source target : WrittenPath) : Except FileError Files :=
  match fs.read source, fs.locate source with
  | .ok content, .ok path => (fs.write target content).map fun fs' => fs'.erase path
  | .error e, _ => .error e
  | _, .error e => .error e

/-- Remove whatever stands at a path and below it. -/
def removeAll (fs : Files) (path : Path) : Files :=
  { fs with nodes := fs.nodes.filter fun p _ => !path.isPrefixOf p }

end Files

end OlapClient
