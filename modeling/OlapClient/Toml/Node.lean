import OlapClient.Toml.Moment
import OlapClient.Toml.Number

namespace OlapClient.Toml

/-!
# Trees of TOML documents

* `Node` — a value, a table, or an array of tables.
* `putKey` — the entry of a dotted key in a table.
* `openTable`, `openElement` — what the headers `[a.b]` and `[[a.b]]` do to a document.
* `within` — changing the table that a header opened.

A table is defined once: by a header, by dotted keys, or in braces. Each operation fails where it
would define something again.
-/

/-- How a table came to be. -/
inductive Origin where
  /-- By a header of its own. -/
  | header
  /-- By the header of a table within it. -/
  | implied
  /-- By a dotted key. -/
  | dotted
  /-- In braces; such a table cannot be added to. -/
  | braces
deriving DecidableEq, Repr

/-- What stands under a key. -/
inductive Node where
  | string (s : String)
  | number (n : Number)
  | boolean (b : Bool)
  | moment (m : Moment)
  | array (items : List Node)
  | table (origin : Origin) (entries : List (String × Node))
  /-- An array of tables, the latest first. -/
  | tables (items : List (List (String × Node)))

/-- The entries of a table, the latest first. -/
abbrev Entries := List (String × Node)

namespace Entries

/-- The entry of a key. -/
def find? (es : Entries) (key : String) : Option Node :=
  es.lookup key

/-- The entries with the node of a key replaced. -/
def replace (key : String) (node : Node) : Entries → Entries
  | [] => []
  | e :: es => if e.1 = key then (key, node) :: es else e :: replace key node es

/-- The entries with one replaced, or added if it is new. -/
def put (es : Entries) (key : String) (node : Node) : Entries :=
  if (es.find? key).isSome then es.replace key node else (key, node) :: es

end Entries

/-- Change the latest of a list. -/
def changeLatest {α : Type} (f : α → Option α) : List α → Option (List α)
  | [] => none
  | latest :: before => (f latest).map (· :: before)

/-- Put an entry under a dotted key, given as the keys that lead to it and the last. The tables on
the way may not have a header, and the innermost must be one that dotted keys made. -/
def putKey (es : Entries) (path : List String) (key : String) (node : Node) : Option Entries :=
  match path with
  | [] => if (es.find? key).isSome then none else some (es.put key node)
  | p :: ps =>
    match es.find? p with
    | none => (putKey [] ps key node).map fun es' => es.put p (.table .dotted es')
    | some (.table .dotted old) =>
      (putKey old ps key node).map fun es' => es.put p (.table .dotted es')
    | some (.table .implied old) =>
      if ps = [] then none
      else (putKey old ps key node).map fun es' => es.put p (.table .implied es')
    | some (.tables items) =>
      if ps = [] then none
      else (changeLatest (fun old => putKey old ps key node) items).map fun items' =>
        es.put p (.tables items')
    | some _ => none

/-- Change the table at a path. Tables that are missing on the way are implied, and of an array of
tables the latest is meant. -/
def within (f : Entries → Option Entries) (es : Entries) (path : List String) : Option Entries :=
  match path with
  | [] => f es
  | p :: ps =>
    match es.find? p with
    | none => (within f [] ps).map fun es' => es.put p (.table .implied es')
    | some (.table origin old) =>
      if origin = .braces then none
      else (within f old ps).map fun es' => es.put p (.table origin es')
    | some (.tables items) =>
      (changeLatest (fun old => within f old ps) items).map fun items' => es.put p (.tables items')
    | some _ => none

/-- Open the table of a key in its parent: a new one, or one that was only implied. -/
def openLast (key : String) (es : Entries) : Option Entries :=
  match es.find? key with
  | none => some (es.put key (.table .header []))
  | some (.table .implied old) => some (es.put key (.table .header old))
  | some _ => none

/-- Add an element to the array of tables of a key in its parent. -/
def addLast (key : String) (es : Entries) : Option Entries :=
  match es.find? key with
  | none => some (es.put key (.tables [[]]))
  | some (.tables items) => some (es.put key (.tables ([] :: items)))
  | some _ => none

/-- What the header of a table does to a document. -/
def openTable (es : Entries) (path : List String) : Option Entries :=
  match path.getLast? with
  | none => none
  | some key => within (openLast key) es path.dropLast

/-- What the header of an element of an array of tables does to a document. -/
def openElement (es : Entries) (path : List String) : Option Entries :=
  match path.getLast? with
  | none => none
  | some key => within (addLast key) es path.dropLast

end OlapClient.Toml
