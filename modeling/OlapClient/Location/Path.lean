import OlapClient.Location.Percent
import OlapClient.Text.Blank
import OlapClient.Text.Split

namespace OlapClient.Location

/-!
# Paths of locations

* `SchemeKind` — the kinds of schemes, which differ in their rules.
* `Path` — the path of a location.
* `parseSegments` — the segments of a written path. Two points remove the segment before them,
  unless that looks like a drive.
* `parseFilePath` — the segments of a file's path, which may begin with a drive.
-/

/-- The kinds of schemes, which differ in their rules for authority and path. -/
inductive SchemeKind where
  | file
  /-- A scheme whose locations always have a host. -/
  | special
  | other
deriving DecidableEq, Repr

/-- A slash; in special schemes a backslash is one too. -/
def isSlash (kind : SchemeKind) (c : Char) : Bool :=
  c == '/' || (c == '\\' && kind != .other)

/-- The path of a location: opaque text, or segments with a slash before each. -/
inductive Path where
  | opaqueText (text : List Char)
  | segments (parts : List (List Char))
deriving DecidableEq, Repr

/-- The text of a path. -/
def Path.text : Path → List Char
  | .opaqueText text => text
  | .segments parts => parts.flatMap ('/' :: ·)

/-! ### Characters that do not count -/

/-- A control character or a space, which do not count at the ends of a location. -/
def isEdge (c : Char) : Bool :=
  c.toNat ≤ 0x20

/-- A tab or a line break, which do not count as characters of a location. -/
def isIgnored (c : Char) : Bool :=
  c == '\t' || c == '\n' || c == '\r'

/-- The characters of a text that count. -/
def significant (cs : List Char) : List Char :=
  cs.filter (!isIgnored ·)

/-! ### Segments -/

/-- A segment that stands for its own directory. -/
def isSingleDot (segment : List Char) : Bool :=
  String.ofList (segment.map lowerAscii) ∈ [".", "%2e"]

/-- A segment that stands for the directory above. -/
def isDoubleDot (segment : List Char) : Bool :=
  String.ofList (segment.map lowerAscii) ∈ ["..", ".%2e", "%2e.", "%2e%2e"]

/-- A segment that names a drive. -/
def isDrive (segment : List Char) : Bool :=
  match segment with
  | [letter, mark] => isAsciiLetter letter && (mark == ':' || mark == '|')
  | _ => false

/-- A segment that looks like a drive, perhaps with a path in it. -/
def isDriveLike (segment : List Char) : Bool :=
  isDrive (segment.take 2) && (segment.drop 2).head?.all (· == '\\')

/-- The segments of the directory above, latest first. What looks like a drive has none. -/
def parentOf : List (List Char) → List (List Char)
  | [] => []
  | last :: before => if isDriveLike last then last :: before else before

/-- Add a segment to a path, whose segments are given latest first; `final` says that no slash
follows it. -/
def addSegment (parts : List (List Char)) (segment : List Char) (final : Bool) :
    List (List Char) :=
  if isDoubleDot segment then (if final then [[]] else []) ++ parentOf parts
  else if isSingleDot segment then (if final then [[]] else []) ++ parts
  else segment :: parts

/-- Add raw segments to a path, from left to right. -/
def addSegments (parts : List (List Char)) : List (List Char) → List (List Char)
  | [] => parts
  | segment :: more =>
    addSegments (addSegment parts (encode pathSet segment) (more == [])) more

/-- A text without the slash that it may begin with. -/
def withoutSlash (kind : SchemeKind) (cs : List Char) : List Char :=
  match cs with
  | [] => []
  | c :: rest => if isSlash kind c then rest else c :: rest

/-- The segments of a path. The slash before the first segment is optional. -/
def parseSegments (kind : SchemeKind) (cs : List Char) : List (List Char) :=
  (addSegments [] (splitAt (isSlash kind) (withoutSlash kind cs))).reverse

/-! ### Files -/

/-- The path of a file, as far as it is read. Segments are latest first. -/
structure FilePath where
  parts : List (List Char) := []
  /-- Whether the first segment was a drive; then no host counts. -/
  onDrive : Bool := false
deriving DecidableEq, Repr

/-- A drive and what follows it in one segment, which a tab or line break parts from it. -/
def brokenDrive? (segment : List Char) : Option (List Char × List Char) :=
  match segment.dropWhile isIgnored with
  | [] => none
  | letter :: after =>
    match after.dropWhile isIgnored with
    | ':' :: rest =>
      if isAsciiLetter letter ∧ rest.head?.any isIgnored ∧ significant rest ≠ [] then
        some ([letter, ':'], significant rest)
      else none
    | _ => none

namespace FilePath

/-- Add a raw segment, in which tabs and line breaks are left. A drive comes first and is written
with a colon. -/
def add (p : FilePath) (raw : List Char) (final : Bool) : FilePath :=
  let segment := encode pathSet (significant raw)
  match (if p.parts = [] then brokenDrive? raw else none) with
  | some (drive, rest) => { p with parts := [encode pathSet rest, drive] }
  | none =>
    if p.parts = [] ∧ isDrive segment then ⟨[segment.take 1 ++ [':']], true⟩
    else { p with parts := addSegment p.parts segment final }

/-- Add raw segments, from left to right. -/
def addAll (p : FilePath) : List (List Char) → FilePath
  | [] => p
  | raw :: more => addAll (p.add raw (more == [])) more

/-- The segments from the first one on, without the empty ones that they begin with. One stays if
there is no other. -/
def segments (p : FilePath) : List (List Char) :=
  match p.parts.reverse.dropWhile (· == []) with
  | [] => [[]]
  | parts => parts

end FilePath

/-- The path of a file, in which tabs and line breaks are left. -/
def parseFilePath (cs : List Char) : FilePath :=
  FilePath.addAll ⟨[], false⟩ (splitAt (isSlash .file) cs)

end OlapClient.Location
