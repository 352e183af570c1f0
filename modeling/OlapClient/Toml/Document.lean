import OlapClient.Toml.Node
import OlapClient.Toml.Quoted

namespace OlapClient.Toml

/-!
# Reading TOML documents

* `readKey`, `readValue` — a dotted key and a value, each with what follows it.
* `Draft` — a document that is being read, and the table that entries go to.
* `readDocument` — the tree of a document.
-/

/-- How many arrays and braces may stand in each other, and how many parts a key may have. -/
def depthLimit : Nat := 79

/-- What follows the blanks at the beginning of a text. -/
def skipSpace (cs : List Char) : List Char :=
  cs.dropWhile isSpace

/-- What follows a comment that stands at the beginning of a text. -/
def skipComment : List Char → List Char
  | '#' :: rest => rest.dropWhile isText
  | cs => cs

/-- What follows the end of a line, before which blanks and a comment may stand. -/
def readLineEnd (cs : List Char) : Option (List Char) :=
  match skipComment (skipSpace cs) with
  | [] => some []
  | '\n' :: rest => some rest
  | _ => none

/-! ### Keys -/

/-- Read a part of a key. -/
def readKeyPart : List Char → Option (String × List Char)
  | '"' :: rest => (readQuoted rest).map fun p => (String.ofList p.1, p.2)
  | '\'' :: rest => (readLiteral rest).map fun p => (String.ofList p.1, p.2)
  | cs =>
    let bare := cs.takeWhile isBareKey
    if bare = [] then none else some (String.ofList bare, cs.dropWhile isBareKey)

/-- Read the parts of a key, between which points stand, up to a number of them. -/
def readKeyParts : Nat → List Char → Option (List String × List Char)
  | 0, _ => none
  | limit + 1, cs =>
    match readKeyPart (skipSpace cs) with
    | none => none
    | some (part, rest) =>
      match skipSpace rest with
      | '.' :: more => (readKeyParts limit more).map fun p => (part :: p.1, p.2)
      | rest => some ([part], rest)

/-- Read a dotted key. -/
def readKey (cs : List Char) : Option (List String × List Char) :=
  readKeyParts depthLimit cs

/-! ### Values -/

/-- What follows blanks, line breaks and comments. -/
def skipBreaks (cs : List Char) : List Char :=
  match cs with
  | [] => []
  | c :: rest =>
    if isSpace c || c == '\n' then skipBreaks rest
    else if c = '#' then
      have := length_dropWhile_le isText rest
      skipBreaks (rest.dropWhile isText)
    else cs
termination_by cs.length

/-- Read the elements of an array, up to a number of them, from behind its bracket or behind a
comma. -/
def readItems (value : List Char → Option (Node × List Char)) :
    Nat → List Char → Option (List Node × List Char)
  | 0, _ => none
  | limit + 1, cs =>
    match skipBreaks cs with
    | ']' :: rest => some ([], rest)
    | start =>
      match value start with
      | none => none
      | some (node, rest) =>
        match skipBreaks rest with
        | ']' :: rest => some ([node], rest)
        | ',' :: rest => (readItems value limit rest).map fun p => (node :: p.1, p.2)
        | _ => none

/-- Read a dotted key and its value. -/
def readEntry (value : List Char → Option (Node × List Char)) (cs : List Char) :
    Option ((List String × Node) × List Char) :=
  match readKey cs with
  | some (key, '=' :: rest) =>
    (value (skipSpace rest)).map fun p => ((key, p.1), p.2)
  | _ => none

/-- Put an entry under a dotted key. -/
def putEntry (es : Entries) (key : List String) (node : Node) : Option Entries :=
  match key.getLast? with
  | none => none
  | some last => putKey es key.dropLast last node

/-- Read the entries of a table in braces, up to a number of them, from behind its brace or behind a
comma. -/
def readBraces (value : List Char → Option (Node × List Char)) :
    Nat → Entries → List Char → Option (Entries × List Char)
  | 0, _, _ => none
  | limit + 1, es, cs =>
    match readEntry value cs with
    | none => none
    | some ((key, node), rest) =>
      match putEntry es key node with
      | none => none
      | some es' =>
        match skipSpace rest with
        | '\x7d' :: rest => some (es', rest)
        | ',' :: rest => readBraces value limit es' rest
        | _ => none

/-- Read a table in braces, from behind its brace. -/
def readInline (value : List Char → Option (Node × List Char)) (limit : Nat) (cs : List Char) :
    Option (Node × List Char) :=
  match skipSpace cs with
  | '\x7d' :: rest => some (.table .braces [], rest)
  | _ => (readBraces value limit [] cs).map fun p => (.table .braces p.1, p.2)

/-- Read a value that holds no others. -/
def readSimple (cs : List Char) : Option (Node × List Char) :=
  match cs with
  | 't' :: 'r' :: 'u' :: 'e' :: rest => some (.boolean true, rest)
  | 'f' :: 'a' :: 'l' :: 's' :: 'e' :: rest => some (.boolean false, rest)
  | _ =>
    match readString cs with
    | some (s, rest) => some (.string (String.ofList s), rest)
    | none =>
      match readMoment cs with
      | some (m, rest) => some (.moment m, rest)
      | none => (readNumber cs).map fun p => (.number p.1, p.2)

/-- Read a value, in which arrays and braces may be nested to a depth and hold up to a number of
values each. -/
def readValue (limit : Nat) : Nat → List Char → Option (Node × List Char)
  | 0, cs => readSimple cs
  | depth + 1, cs =>
    match cs with
    | '[' :: rest =>
      (readItems (readValue limit depth) limit rest).map fun p => (.array p.1, p.2)
    | '\x7b' :: rest => readInline (readValue limit depth) limit rest
    | _ => readSimple cs

/-! ### Documents -/

/-- A document that is being read, and the path of the table that entries go to. -/
structure Draft where
  root : Entries := []
  current : List String := []

namespace Draft

/-- Put an entry into the current table. -/
def put (d : Draft) (key : List String) (node : Node) : Option Draft :=
  (within (fun es => putEntry es key node) d.root d.current).map fun root => { d with root }

/-- Go on with another table. -/
def enter (change : Entries → List String → Option Entries) (d : Draft) (path : List String) :
    Option Draft :=
  (change d.root path).map fun root => ⟨root, path⟩

/-- Read a header, from behind its brackets, which close with the same number of brackets. -/
def readHeader (change : Entries → List String → Option Entries) (closing : List Char) (d : Draft)
    (cs : List Char) : Option (Draft × List Char) := do
  let (path, rest) ← readKey cs
  if closing.isPrefixOf rest then
    let rest ← readLineEnd (rest.drop closing.length)
    let d ← d.enter change path
    return (d, rest)
  else none

/-- Read a line with an entry. -/
def readEntryLine (limit : Nat) (d : Draft) (cs : List Char) : Option (Draft × List Char) := do
  let ((key, node), rest) ← readEntry (readValue limit depthLimit) cs
  let rest ← readLineEnd rest
  let d ← d.put key node
  return (d, rest)

/-- Read a line that is not empty: a header, an entry, or nothing but a comment. -/
def readLine (limit : Nat) (d : Draft) (cs : List Char) : Option (Draft × List Char) :=
  match cs with
  | '[' :: '[' :: rest => d.readHeader openElement [']', ']'] rest
  | '[' :: rest => d.readHeader openTable [']'] rest
  | '#' :: _ => (readLineEnd cs).map (d, ·)
  | '\n' :: rest => some (d, rest)
  | _ => d.readEntryLine limit cs

/-- Read lines, up to a number of them, whose values hold up to a number of values each. -/
def readLines (limit : Nat) : Nat → Draft → List Char → Option Draft
  | 0, _, _ => none
  | lines + 1, d, cs =>
    match skipSpace cs with
    | [] => some d
    | start =>
      match d.readLine limit start with
      | none => none
      | some (d', rest) => readLines limit lines d' rest

end Draft

/-- A text in which every carriage return before a line feed is left out. -/
def joinBreaks : List Char → List Char
  | '\r' :: '\n' :: rest => '\n' :: joinBreaks rest
  | c :: rest => c :: joinBreaks rest
  | [] => []

/-- A text without the mark of its byte order. -/
def withoutMark : List Char → List Char
  | '\uFEFF' :: rest => rest
  | cs => cs

/-- The tree of a document, if it is one. A document has no more lines or values than characters,
but for an empty line at its end. -/
def readDocument (cs : List Char) : Option Entries :=
  let text := joinBreaks (withoutMark cs)
  let limit := text.length + 1
  (Draft.readLines limit limit {} text).map (·.root)

end OlapClient.Toml
