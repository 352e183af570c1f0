import OlapClient.Rowset.Table
import OlapClient.Markup.ElementName
import OlapClient.Soap.Fault

namespace OlapClient.Rowset

open Markup

/-!
# Tables in responses

A response holds a table as `row` elements, whose children are cells named after their column. A
schema before the rows may declare the columns and their types; without one, the columns are those
that the cells name, in order of first appearance.

* `Column` — the element name, label and kind of a column.
* `Progress.step` — what one markup event adds to the table.
* `decode` — the table of a response body.
-/

/-- A column: the name of its cell elements, its label and its kind. -/
structure Column where
  element : String
  label : String
  kind : Kind
deriving DecidableEq, Repr

/-- Why a response body holds no table. -/
inductive DecodeError where
  | fault (f : Soap.Fault)
  | unreadable (e : SyntaxError)
  | badText (e : TextError)
  /-- A schema declares a column without a name. -/
  | unnamedColumn
  | noRowset
  /-- A cell that is no value of its column's kind. -/
  | badCell (raw label : String) (kind : Kind)
deriving DecidableEq, Repr

/-- What is wrong with a body that carries no fault. -/
def DecodeError.message : DecodeError → String
  | .fault f => f.message
  | .unreadable e => e.message
  | .badText e => e.message
  | .unnamedColumn => "schema element without a name"
  | .noRowset => "response contains no rowset"
  | .badCell raw label kind =>
    "value '" ++ raw ++ "' in column '" ++ label ++ "' is not a valid " ++ kind.label

/-! ### Reading events -/

/-- The cells of a row as element name and text, the latest first. -/
abbrev RawRow := List (String × String)

/-- Where among rows and cells the reader stands. In a cell, `nested` counts the elements that are
open inside it; their text is no part of the cell. -/
inductive Place where
  | outside
  | row (cells : RawRow)
  | cell (cells : RawRow) (name text : String) (nested : Nat)
deriving DecidableEq, Repr

/-- Inside a schema: how many elements are open inside it, and whether the latest type that began
is that of the rows. -/
structure SchemaScope where
  inner : Nat := 0
  inRowType : Bool := false
deriving DecidableEq, Repr

/-- What has been read of a table. The rows stand in reverse, the latest first. -/
structure Progress where
  declared : List Column := []
  schema : Option SchemaScope := none
  rows : List RawRow := []
  seen : List String := []
  place : Place := .outside
  sawRoot : Bool := false
deriving DecidableEq, Repr

/-- The column that a schema element declares. Its label is its `field` attribute, or its name with
escaped characters put back. -/
def Column.ofDeclaration (tag : Tag) : Option Column :=
  match tag.attribute? "name" with
  | none => none
  | some element =>
    some ⟨element, (tag.attribute? "field").getD (unescapeNameString element),
      ((tag.attribute? "type").map Kind.ofType).getD .text⟩

/-- The column of cells that no schema declares. -/
def Column.ofElement (element : String) : Column :=
  ⟨element, unescapeNameString element, .text⟩

namespace Progress

/-- Declare a column. -/
def declare (p : Progress) (tag : Tag) : Except DecodeError Progress :=
  match Column.ofDeclaration tag with
  | none => .error .unnamedColumn
  | some column => .ok { p with declared := p.declared ++ [column] }

/-- Note that a cell names a column. -/
def note (p : Progress) (name : String) : Progress :=
  if name ∈ p.seen then p else { p with seen := p.seen ++ [name] }

/-- A start tag. -/
def onStart (p : Progress) (tag : Tag) : Except DecodeError Progress :=
  let name := tag.localName
  match p.schema with
  | some scope =>
    let scope := { scope with inner := scope.inner + 1 }
    if name = "complexType" then
      let inRowType := tag.attribute? "name" == some "row"
      .ok { p with schema := some { scope with inRowType := inRowType } }
    else
      let p := { p with schema := some scope }
      if name = "element" ∧ scope.inRowType then p.declare tag else .ok p
  | none =>
    if name = "schema" then .ok { p with schema := some {} }
    else
      match p.place with
      | .cell cells cell text nested => .ok { p with place := .cell cells cell text (nested + 1) }
      | .row cells => .ok { p with place := .cell cells name "" 0 }
      | .outside =>
        if name = "row" then .ok { p with place := .row [] }
        else if name = "root" then .ok { p with sawRoot := true }
        else .ok p

/-- An empty tag. -/
def onEmpty (p : Progress) (tag : Tag) : Except DecodeError Progress :=
  let name := tag.localName
  match p.schema with
  | some scope => if name = "element" ∧ scope.inRowType then p.declare tag else .ok p
  | none =>
    match p.place with
    | .row cells => .ok { p.note name with place := .row ((name, "") :: cells) }
    | .outside =>
      if name = "row" then .ok { p with rows := [] :: p.rows }
      else if name = "root" then .ok { p with sawRoot := true }
      else .ok p
    | .cell .. => .ok (if name = "root" then { p with sawRoot := true } else p)

/-- A run of text or a CDATA section, read only where it belongs to a cell. -/
def onText (p : Progress) (text : Except DecodeError String) : Except DecodeError Progress :=
  match p.place with
  | .cell cells name before 0 =>
    match text with
    | .error e => .error e
    | .ok s => .ok { p with place := .cell cells name (before ++ s) 0 }
  | _ => .ok p

/-- An end tag. -/
def onClose (p : Progress) : Progress :=
  match p.schema with
  | some ⟨inner + 1, inRowType⟩ => { p with schema := some ⟨inner, inRowType⟩ }
  | some ⟨0, _⟩ => { p with schema := none }
  | none =>
    match p.place with
    | .cell cells name text (nested + 1) => { p with place := .cell cells name text nested }
    | .cell cells name text 0 => { p.note name with place := .row ((name, text) :: cells) }
    | .row cells => { p with rows := cells :: p.rows, place := .outside }
    | .outside => p

/-- Take one event. -/
def step (p : Progress) : Event → Except DecodeError Progress
  | .start tag => p.onStart tag
  | .empty tag => p.onEmpty tag
  | .text raw => p.onText ((characters raw).mapError .badText)
  | .cdata raw => p.onText (.ok (Utf8.lossyString raw))
  | .close _ => .ok p.onClose
  | _ => .ok p

/-- Take all events of a document. -/
def run (p : Progress) : List Event → Except DecodeError Progress
  | [] => .ok p
  | e :: es =>
    match p.step e with
    | .error e => .error e
    | .ok p' => p'.run es

/-- Events in two parts are taken one part after the other. -/
theorem run_append_eq (p : Progress) (es fs : List Event) :
    p.run (es ++ fs) = (p.run es).bind fun q => q.run fs := by
  induction es generalizing p with
  | nil => rfl
  | cons e es ih =>
    cases hstep : p.step e with
    | error err => simp only [List.cons_append, run, hstep, Except.bind]
    | ok q => simp only [List.cons_append, run, hstep, ih]

/-- The columns: those declared, or those seen. -/
def columns (p : Progress) : List Column :=
  if p.declared = [] then p.seen.map Column.ofElement else p.declared

end Progress

/-! ### Typing cells -/

/-- The cell of a row in a column; absent if the row has no element of that name, and of several
the last. -/
def Column.cell (column : Column) (row : RawRow) : Except DecodeError Cell :=
  match row.lookup column.element with
  | none => .ok .null
  | some raw =>
    match column.kind.read raw with
    | some cell => .ok cell
    | none => .error (.badCell raw column.label column.kind)

/-- The cells of a row. -/
def cellsOf (columns : List Column) (row : RawRow) : Except DecodeError (List Cell) :=
  columns.mapM (·.cell row)

/-- The table of what has been read. -/
def Progress.table (p : Progress) : Except DecodeError Table :=
  if !p.sawRoot ∧ p.rows = [] ∧ p.declared = [] then .error .noRowset
  else
    match p.rows.reverse.mapM (cellsOf p.columns) with
    | .error e => .error e
    | .ok rows => .ok (Table.ofRows (p.columns.map (·.label)) rows)

/-- The table of a response body. A fault in place of a result comes first. -/
def decode (body : Bytes) : Except DecodeError Table :=
  match Soap.fault? body with
  | some f => .error (.fault f)
  | none =>
    let reading := Markup.read body
    match Progress.run {} reading.events with
    | .error e => .error e
    | .ok p =>
      match reading.failure with
      | some e => .error (.unreadable e)
      | none => p.table

end OlapClient.Rowset
