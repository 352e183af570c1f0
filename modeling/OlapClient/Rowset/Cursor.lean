import OlapClient.Number.Power
import OlapClient.Rowset.Table

namespace OlapClient.Rowset

/-!
# Cursors

A cursor walks the rows of a table. Its position is `-1` before the first row, `0` to `n - 1` on a
row, and `n` after the last.

* `Cursor` — a table, a position, and whether the cell read last was absent.
* `Cursor.next`, `Cursor.previous`, `Cursor.absolute`, `Cursor.relative`, … — moving.
* `Cursor.locate` — the cell of the current row in a column.
* `Cursor.string`, `Cursor.bool`, `Cursor.integer`, … — reading a cell as a type.
-/

/-- A column by its number, counted from one, or by its exact label. -/
inductive ColumnRef where
  | index (n : Nat)
  | name (s : String)
deriving DecidableEq, Repr

/-- A column by a signed number; a negative one is like zero, which names no column. -/
def ColumnRef.ofInt (n : Int) : ColumnRef :=
  .index n.toNat

/-- Why a call on a cursor fails. -/
inductive CursorError where
  | columnNotFound (name : String)
  | columnOutOfRange (index count : Nat)
  | noCurrentRow
  /-- A cell that cannot be read as the type `target`. -/
  | unreadable (value column target : String)
  | unsupported (operation : String)
deriving DecidableEq, Repr

/-- The report of a failed call. -/
def CursorError.message : CursorError → String
  | .columnNotFound name => "column not found: " ++ name
  | .columnOutOfRange index count =>
    "column index " ++ toString index ++ " out of range (1..=" ++ toString count ++ ")"
  | .noCurrentRow => "cursor is not positioned on a row"
  | .unreadable value column target =>
    "cannot read '" ++ value ++ "' in column '" ++ column ++ "' as " ++ target
  | .unsupported operation => "operation not supported: " ++ operation

/-- A table with a position in it. -/
structure Cursor where
  table : Table
  position : Int
  lastNull : Bool

/-- The integer of 64 bits nearest to an integer. -/
def saturate (n : Int) : Int :=
  max (-9223372036854775808) (min n 9223372036854775807)

namespace Cursor

/-- A cursor before the first row of a table. -/
def ofTable (table : Table) : Cursor :=
  ⟨table, -1, false⟩

/-- The number of rows. -/
def size (c : Cursor) : Nat :=
  c.table.rows.length

/-- The number of rows, as a position. -/
def count (c : Cursor) : Int :=
  c.size

/-! ### Moving -/

/-- Move to a row; stay if there is no such row. -/
def moveTo (c : Cursor) (target : Int) : Bool × Cursor :=
  if 0 ≤ target ∧ target < c.count then (true, { c with position := target }) else (false, c)

/-- Move one row on, at most past the last. -/
def next (c : Cursor) : Bool × Cursor :=
  let position := if c.position < c.count then c.position + 1 else c.position
  (position < c.count, { c with position := position })

/-- Move one row back, at most before the first. -/
def previous (c : Cursor) : Bool × Cursor :=
  let position := if 0 ≤ c.position then c.position - 1 else c.position
  (0 ≤ position, { c with position := position })

/-- Move to a row counted from one. -/
def absolute (c : Cursor) (row : Int64) : Bool × Cursor :=
  c.moveTo (saturate (row.toInt - 1))

/-- Move by `delta - 1` rows, so that a `delta` of one asks whether the cursor is on a row. -/
def relative (c : Cursor) (delta : Int64) : Bool × Cursor :=
  c.moveTo (saturate (saturate (c.position + delta.toInt) - 1))

/-- Move to the first row. -/
def first (c : Cursor) : Bool × Cursor :=
  c.moveTo 0

/-- Move to the last row. -/
def last (c : Cursor) : Bool × Cursor :=
  c.moveTo (c.count - 1)

/-- Move before the first row. -/
def beforeFirst (c : Cursor) : Cursor :=
  { c with position := -1 }

/-- Move after the last row. -/
def afterLast (c : Cursor) : Cursor :=
  { c with position := c.count }

/-- Whether the cursor is before the first row. -/
def isBeforeFirst (c : Cursor) : Bool :=
  c.position < 0

/-- Whether the cursor is after the last row. -/
def isAfterLast (c : Cursor) : Bool :=
  c.count ≤ c.position

/-- Whether the cursor is on the first row. -/
def isFirst (c : Cursor) : Bool :=
  c.size != 0 && c.position == 0

/-- Whether the cursor is on the last row. -/
def isLast (c : Cursor) : Bool :=
  c.size != 0 && c.position == c.count - 1

/-- The number of the row, counted from one: zero before the first row. -/
def row (c : Cursor) : Nat :=
  (c.position + 1).toNat

/-! ### Finding a cell -/

/-- The number, counted from one, of the first column with this label. -/
def findColumn (c : Cursor) (name : String) : Except CursorError Nat :=
  match c.table.columns.findIdx? (· == name) with
  | some i => .ok (i + 1)
  | none => .error (.columnNotFound name)

/-- The place of a column, counted from zero. -/
def columnIndex (c : Cursor) : ColumnRef → Except CursorError Nat
  | .index n =>
    if 1 ≤ n ∧ n ≤ c.table.columns.length then .ok (n - 1)
    else .error (.columnOutOfRange n c.table.columns.length)
  | .name s => (c.findColumn s).map (· - 1)

/-- The current row. -/
def current? (c : Cursor) : Option (List Cell) :=
  if 0 ≤ c.position then c.table.rows[c.position.toNat]? else none

/-- The label of a column and its cell in the current row. A wrong column is reported before a
missing row. -/
def locate (c : Cursor) (column : ColumnRef) : Except CursorError (String × Cell) :=
  match c.columnIndex column with
  | .error e => .error e
  | .ok i =>
    match c.current? with
    | none => .error .noCurrentRow
    | some row => .ok (c.table.columns.getD i "", row.getD i .null)

/-- Read a cell in some way, and note whether it is absent. -/
def access {α : Type} (c : Cursor) (column : ColumnRef)
    (view : String → Cell → Except CursorError α) : Except CursorError α × Cursor :=
  match c.locate column with
  | .error e => (.error e, c)
  | .ok (label, cell) => (view label cell, { c with lastNull := cell.isNull })

end Cursor

/-! ### Reading a cell as a type -/

/-- A number as cells hold it. -/
inductive Number where
  | int (n : Int64)
  | double (x : Binary)
deriving DecidableEq

namespace Number

/-- The number of a text: whole if it can be, else finite with a fraction. -/
def parse? (s : String) : Option Number :=
  let t := trim s
  match Decimal.int64? t with
  | some n => some (.int n)
  | none => ((Binary.parse? t.toList).filter Binary.isFinite).map .double

/-- The whole part, if it is an integer of 64 bits. -/
def toInt64? : Number → Option Int64
  | .int n => some n
  | .double x => x.toInt64?

/-- The nearest double. -/
def toDouble : Number → Binary
  | .int n => BinaryFormat.double.ofInt n.toInt
  | .double x => x

end Number

/-- A signed integer type: its name and its width in bits. -/
structure IntegerType where
  name : String
  width : Nat
deriving DecidableEq, Repr

namespace IntegerType

/-- Integers of 8 bits. -/
def byte : IntegerType := ⟨"byte", 8⟩

/-- Integers of 16 bits. -/
def short : IntegerType := ⟨"short", 16⟩

/-- Integers of 32 bits. -/
def int : IntegerType := ⟨"int", 32⟩

/-- Integers of 64 bits. -/
def long : IntegerType := ⟨"long", 64⟩

/-- Whether an integer belongs to the type. -/
def fits (t : IntegerType) (n : Int) : Bool :=
  -(twoTo (t.width - 1) : Int) ≤ n && n < (twoTo (t.width - 1) : Int)

end IntegerType

namespace Cell

/-- The cell unless it is absent. -/
def object? (cell : Cell) : Option Cell :=
  if cell.isNull then none else some cell

/-- The text of the cell unless it is absent. -/
def string? (cell : Cell) : Option String :=
  if cell.isNull then none else some cell.display

/-- The truth of a cell: a number other than zero, or the word `true`. An absent cell is false. -/
def isTrue : Cell → Bool
  | .null => false
  | .bool b => b
  | .int n => n != 0
  | .double x => !x.isZero
  | .text s => eqIgnoringCase (trim s) "true"

/-- The number that a cell is or spells. -/
def number? : Cell → Option Number
  | .int n => some (.int n)
  | .double x => some (.double x)
  | .text s => Number.parse? s
  | .null | .bool _ => none

/-- The cell as an integer of a type: its whole part, zero for an absent cell. -/
def integer (t : IntegerType) (label : String) (cell : Cell) : Except CursorError Int :=
  if cell.isNull then .ok 0
  else
    match cell.number? with
    | none => .error (.unreadable cell.display label t.name)
    | some n =>
      match n.toInt64? with
      | none => .error (.unreadable cell.display label t.name)
      | some i =>
        if t.fits i.toInt then .ok i.toInt else .error (.unreadable cell.display label t.name)

/-- The cell as a number with a fraction, zero for an absent cell. `target` names the type that is
asked for. -/
def real (target label : String) (cell : Cell) : Except CursorError Binary :=
  if cell.isNull then .ok (BinaryFormat.double.zero false)
  else
    match cell.number? with
    | none => .error (.unreadable cell.display label target)
    | some n => .ok n.toDouble

end Cell

namespace Cursor

/-- The cell itself. -/
def object (c : Cursor) (column : ColumnRef) : Except CursorError (Option Cell) × Cursor :=
  c.access column fun _ cell => .ok cell.object?

/-- The cell as text. -/
def string (c : Cursor) (column : ColumnRef) : Except CursorError (Option String) × Cursor :=
  c.access column fun _ cell => .ok cell.string?

/-- The cell as a truth value. -/
def bool (c : Cursor) (column : ColumnRef) : Except CursorError Bool × Cursor :=
  c.access column fun _ cell => .ok cell.isTrue

/-- The cell as an integer of a type. -/
def integer (c : Cursor) (t : IntegerType) (column : ColumnRef) : Except CursorError Int × Cursor :=
  c.access column (Cell.integer t)

/-- The cell as a double. -/
def double (c : Cursor) (column : ColumnRef) : Except CursorError Binary × Cursor :=
  c.access column (Cell.real "double")

/-- The cell as a number of single precision. -/
def single (c : Cursor) (column : ColumnRef) : Except CursorError Binary × Cursor :=
  c.access column fun label cell => (cell.real "float" label).map BinaryFormat.single.ofBinary

/-- Changing a table is not supported. -/
def mutate (operation : String) : Except CursorError Unit :=
  .error (.unsupported operation)

end Cursor

end OlapClient.Rowset
