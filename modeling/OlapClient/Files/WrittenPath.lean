import OlapClient.Text.Split
import OlapClient.Text.Utf8

namespace OlapClient

/-!
# Written paths

A path is written with slashes between its parts. Parts that are empty or a single point lead
nowhere, and two points lead to the directory above, whatever that is when the path is followed.

* `WrittenPath` — a path as it is written.
* `WrittenPath.names` — the parts that a path leads through.
* `WrittenPath.child` — the path with a name put after it.
* `WrittenPath.parent?`, `WrittenPath.lastName?` — the path above, and the name below it.
-/

/-- A path as it is written: the parts between its slashes. -/
structure WrittenPath where
  parts : List String
deriving DecidableEq, Repr

namespace WrittenPath

/-- The path that a text writes. -/
def ofString (text : String) : WrittenPath :=
  ⟨(splitAt (· == '/') text.toList).map String.ofList⟩

/-- The text of a path. -/
def text (p : WrittenPath) : String :=
  String.intercalate "/" p.parts

/-- How many bytes the text of a path takes. -/
def size (p : WrittenPath) : Nat :=
  total (p.parts.map fun part => Utf8.size part.toList + 1) - 1

/-- Whether nothing is written. -/
def isEmpty (p : WrittenPath) : Bool :=
  p.parts.all (· == "") && p.parts.length ≤ 1

/-- Whether a path starts at the outermost directory. -/
def isAbsolute (p : WrittenPath) : Bool :=
  p.parts.head? == some "" && 1 < p.parts.length

/-- The parts that are not empty. -/
def names (p : WrittenPath) : List String :=
  p.parts.filter (· ≠ "")

/-- Whether a slash is the last that is written. -/
def endsInSlash (p : WrittenPath) : Bool :=
  p.parts.getLast? == some "" && 1 < p.parts.length

/-- A path with a name put after it. -/
def child (p : WrittenPath) (name : String) : WrittenPath :=
  if p.parts.getLast? = some "" then ⟨p.parts.dropLast ++ [name]⟩ else ⟨p.parts ++ [name]⟩

/-- Whether a part leads nowhere. -/
def isIdle (part : String) : Bool :=
  part == "" || part == "."

/-- Parts without those at the end that lead nowhere. A point that begins a path is kept. -/
def withoutIdleEnd (parts : List String) : List String :=
  match trimEndBy isIdle parts with
  | [] => if parts.head? = some "." then ["."] else []
  | kept => kept

/-- The path of parts that are left of a path. -/
def remainder (p : WrittenPath) (parts : List String) : WrittenPath :=
  match withoutIdleEnd parts with
  | [] => if p.isAbsolute then ⟨["", ""]⟩ else ⟨[""]⟩
  | kept => ⟨kept⟩

/-- The path above, unless there is none. -/
def parent? (p : WrittenPath) : Option WrittenPath :=
  match withoutIdleEnd p.parts with
  | [] => none
  | kept => some (p.remainder kept.dropLast)

/-- The last name, unless the path leads up or nowhere in the end. -/
def lastName? (p : WrittenPath) : Option String :=
  (withoutIdleEnd p.parts).getLast?.filter fun name => name ≠ "." ∧ name ≠ ".."

/-- Whether a path ends in a single point after other parts, and so leads to what stands there only
if that is a directory. -/
def endsInPoint (p : WrittenPath) : Bool :=
  p.names.getLast? == some "."

end WrittenPath

end OlapClient
