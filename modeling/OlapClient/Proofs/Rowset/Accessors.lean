import OlapClient.Proofs.Result
import OlapClient.Proofs.Rowset.Navigation

namespace OlapClient.Rowset

/-!
# Reading the cells of a table

Besides moving, a cursor reads cells as one type or another, finds columns by their labels, and
refuses to change anything. Reading notes whether the cell was absent. Here calls of all kinds follow
one another in any order, and it is told what each finds and what it leaves behind.

* `Access`, `Answer`, `Cursor.ask` — the ways to read a cell, as data, and what is read.
* `CursorCall`, `Cursor.call`, `Cursor.calls` — calls on a cursor, one and many.
* `Cursor.located` — finding a cell with every index checked; `Cursor.located_eq` — no check fails.
* `Cursor.columnIndex_of_findColumn` — a column by its label is that of the number found for it.
* `Cursor.call_keeps` — nothing but a move changes the position, and nothing the table.
* `Cursor.addressed?`, `Cursor.trail` — the cell that a call reads, and those that calls read.
* `Cursor.lastNull_calls` — what is noted is about the last of them.
* `cells_read_safely` — the whole of it, of every cursor of a table that calls lead to.
-/

/-! ### Calls -/

/-- A way to read a cell. -/
inductive Access where
  | object
  | string
  | bool
  | integer (t : IntegerType)
  | double
  | single
deriving DecidableEq

/-- What is read of a cell. -/
inductive Answer where
  | object (cell : Option Cell)
  | string (text : Option String)
  | bool (b : Bool)
  | integer (n : Int)
  | real (x : Binary)
deriving DecidableEq

/-- A call on a cursor: a move, reading a cell, finding a column, or a change that is refused. -/
inductive CursorCall where
  | move (m : Move)
  | read (a : Access) (column : ColumnRef)
  | find (name : String)
  | change (operation : String)
deriving DecidableEq

/-- What a call gives back. -/
inductive CursorReply where
  | moved (report : Option Bool)
  | read (answer : Except CursorError Answer)
  | found (number : Except CursorError Nat)
  | changed (result : Except CursorError Unit)

/-- What is read of a cell with the label of its column. -/
def Access.view : Access → String → Cell → Except CursorError Answer
  | .object, _, cell => .ok (.object cell.object?)
  | .string, _, cell => .ok (.string cell.string?)
  | .bool, _, cell => .ok (.bool cell.isTrue)
  | .integer t, label, cell => (cell.integer t label).map .integer
  | .double, label, cell => (cell.real "double" label).map .real
  | .single, label, cell =>
    ((cell.real "float" label).map BinaryFormat.single.ofBinary).map .real

namespace Cursor

/-- Read a cell. -/
def ask (c : Cursor) (column : ColumnRef) : Access → Except CursorError Answer × Cursor
  | .object => ((c.object column).1.map .object, (c.object column).2)
  | .string => ((c.string column).1.map .string, (c.string column).2)
  | .bool => ((c.bool column).1.map .bool, (c.bool column).2)
  | .integer t => ((c.integer t column).1.map .integer, (c.integer t column).2)
  | .double => ((c.double column).1.map .real, (c.double column).2)
  | .single => ((c.single column).1.map .real, (c.single column).2)

/-- Make a call. -/
def call (c : Cursor) : CursorCall → CursorReply × Cursor
  | .move m => (.moved (c.make m).1, (c.make m).2)
  | .read a column => (.read (c.ask column a).1, (c.ask column a).2)
  | .find name => (.found (c.findColumn name), c)
  | .change operation => (.changed (mutate operation), c)

/-- Make calls one after the other: what they give back, and the cursor after them. -/
def calls (c : Cursor) : List CursorCall → List CursorReply × Cursor
  | [] => ([], c)
  | call :: rest =>
    let later := calls (c.call call).2 rest
    ((c.call call).1 :: later.1, later.2)

/-- Find a cell by indices that are checked. The outer result is missing if a column or a cell is
where there is none. -/
def located (c : Cursor) (column : ColumnRef) : Option (Except CursorError (String × Cell)) :=
  match c.columnIndex column with
  | .error e => some (.error e)
  | .ok i =>
    match c.current? with
    | none => some (.error .noCurrentRow)
    | some row =>
      c.table.columns[i]?.bind fun label => row[i]?.map fun cell => .ok (label, cell)

/-- The cell that a call reads, if its column and the current row are there. -/
def addressed? (c : Cursor) : CursorCall → Option Cell
  | .read _ column =>
    (c.columnIndex column).toOption.bind fun i => c.current?.bind fun row => row[i]?
  | _ => none

/-- The cells that calls read, in the order in which they are read. -/
def trail (c : Cursor) : List CursorCall → List Cell
  | [] => []
  | call :: rest => (c.addressed? call).toList ++ trail (c.call call).2 rest

variable {c : Cursor} {column : ColumnRef} {name : String} {i : Nat}

/-! ### Finding a column -/

/-- The number that is found for a label is that of the first column with it. -/
theorem findColumn_eq_ok_iff {number : Nat} :
    c.findColumn name = .ok number ↔
      ∃ i, number = i + 1 ∧ c.table.columns[i]? = some name ∧
        ∀ j < i, c.table.columns[j]? ≠ some name := by
  unfold findColumn
  cases hplace : c.table.columns.findIdx? (· == name) with
  | none =>
    have hnone := List.findIdx?_eq_none_iff.1 hplace
    refine ⟨fun h => (by cases h), ?_⟩
    rintro ⟨i, -, hi, -⟩
    have := hnone name (List.mem_of_getElem? hi)
    simp at this
  | some i =>
    obtain ⟨hlength, hlabel, hbefore⟩ := List.findIdx?_eq_some_iff_getElem.1 hplace
    have hfirst : c.table.columns[i]? = some name ∧
        ∀ j < i, c.table.columns[j]? ≠ some name := by
      refine ⟨?_, fun j hj => ?_⟩
      · rw [List.getElem?_eq_getElem hlength]
        exact congrArg some (by simpa using hlabel)
      · rw [List.getElem?_eq_getElem (Nat.lt_trans hj hlength)]
        have := hbefore j hj
        simpa using this
    constructor
    · intro h
      cases h
      exact ⟨i, rfl, hfirst⟩
    · rintro ⟨i', rfl, hi', hbefore'⟩
      -- neither of two first ones is before the other
      have hsame : i = i' := by
        rcases Nat.lt_trichotomy i i' with hlt | heq | hgt
        · exact absurd hfirst.1 (hbefore' i hlt)
        · exact heq
        · exact absurd hi' (hfirst.2 i' hgt)
      rw [hsame]

/-- A label that no column has is reported. -/
theorem findColumn_of_not_mem (h : name ∉ c.table.columns) :
    c.findColumn name = .error (.columnNotFound name) := by
  have hnone : c.table.columns.findIdx? (· == name) = none := by
    rw [List.findIdx?_eq_none_iff]
    intro label hlabel
    rw [beq_eq_false_iff_ne]
    rintro rfl
    exact h hlabel
  rw [findColumn, hnone]

theorem columnIndex_index (c : Cursor) (n : Nat) :
    c.columnIndex (.index n) =
      if 1 ≤ n ∧ n ≤ c.table.columns.length then .ok (n - 1)
      else .error (.columnOutOfRange n c.table.columns.length) :=
  rfl

theorem columnIndex_label (c : Cursor) (name : String) :
    c.columnIndex (.name name) = (c.findColumn name).map (· - 1) :=
  rfl

/-- A column by its label is the one of the number that is found for the label. -/
theorem columnIndex_of_findColumn {number : Nat} (h : c.findColumn name = .ok number) :
    c.columnIndex (.name name) = c.columnIndex (.index number) := by
  obtain ⟨i, rfl, hlabel, -⟩ := findColumn_eq_ok_iff.1 h
  obtain ⟨hlength, -⟩ := List.getElem?_eq_some_iff.1 hlabel
  rw [columnIndex_label, h, columnIndex_index, if_pos ⟨Nat.le_add_left 1 i, hlength⟩]
  rfl

/-- A column that is found is one of the table. -/
theorem lt_of_columnIndex (h : c.columnIndex column = .ok i) : i < c.table.columns.length := by
  cases column with
  | index n =>
    rw [columnIndex_index] at h
    split at h
    · cases h
      omega
    · cases h
  | name s =>
    rw [columnIndex_label] at h
    obtain ⟨number, hnumber, rfl⟩ := Except.map_eq_ok h
    obtain ⟨i, rfl, hlabel, -⟩ := findColumn_eq_ok_iff.1 hnumber
    exact (List.getElem?_eq_some_iff.1 hlabel).1

/-! ### Reading a cell -/

theorem map_access {α β : Type} (c : Cursor) (column : ColumnRef)
    (view : String → Cell → Except CursorError α) (f : α → β) :
    ((c.access column view).1.map f, (c.access column view).2) =
      c.access column fun label cell => (view label cell).map f := by
  unfold access
  cases c.locate column <;> rfl

/-- All ways to read a cell find it alike. -/
theorem ask_eq (c : Cursor) (column : ColumnRef) (a : Access) :
    c.ask column a = c.access column a.view := by
  cases a <;> exact map_access c column _ _

/-- The current row is one of the table. -/
theorem mem_of_current? {row : List Cell} (h : c.current? = some row) : row ∈ c.table.rows := by
  unfold current? at h
  split at h
  · exact List.mem_of_getElem? h
  · cases h

/-- What there is of a column and a row that are found. -/
theorem locate_eq_ok {row : List Cell} (hcolumn : c.columnIndex column = .ok i)
    (hrow : c.current? = some row) :
    ∃ label cell, c.table.columns[i]? = some label ∧ row[i]? = some cell ∧
      c.locate column = .ok (label, cell) := by
  have hlabel := lt_of_columnIndex hcolumn
  have hcell : i < row.length := by
    rw [c.table.width_eq row (mem_of_current? hrow)]
    exact hlabel
  refine ⟨_, _, List.getElem?_eq_getElem hlabel, List.getElem?_eq_getElem hcell, ?_⟩
  unfold locate
  rw [hcolumn, hrow]
  simp only [List.getD_eq_getElem?_getD, List.getElem?_eq_getElem hlabel,
    List.getElem?_eq_getElem hcell, Option.getD_some]

/-- No index is out of bounds. -/
theorem located_eq (c : Cursor) (column : ColumnRef) :
    c.located column = some (c.locate column) := by
  unfold located
  cases hcolumn : c.columnIndex column with
  | error e => rw [locate, hcolumn]
  | ok i =>
    cases hrow : c.current? with
    | none => rw [locate, hcolumn, hrow]
    | some row =>
      obtain ⟨label, cell, hlabel, hcell, hlocate⟩ := locate_eq_ok hcolumn hrow
      simp only [hlabel, hcell, hlocate, Option.bind_some, Option.map_some]

/-- Reading in some way notes whether the cell is absent, also if it cannot be read so. -/
theorem ask_of_found {row : List Cell} (hcolumn : c.columnIndex column = .ok i)
    (hrow : c.current? = some row) (a : Access) :
    ∃ label cell, c.table.columns[i]? = some label ∧ row[i]? = some cell ∧
      c.ask column a = (a.view label cell, { c with lastNull := cell.isNull }) := by
  obtain ⟨label, cell, hlabel, hcell, hlocate⟩ := locate_eq_ok hcolumn hrow
  refine ⟨label, cell, hlabel, hcell, ?_⟩
  rw [ask_eq, access, hlocate]

theorem ask_of_locate_error {e : CursorError} (h : c.locate column = .error e) (a : Access) :
    c.ask column a = (.error e, c) := by
  rw [ask_eq, access, h]

/-- A wrong column is reported, whether or not there is a row. -/
theorem ask_of_no_column {e : CursorError} (h : c.columnIndex column = .error e) (a : Access) :
    c.ask column a = (.error e, c) := by
  apply ask_of_locate_error
  rw [locate, h]

theorem ask_of_no_row (hcolumn : c.columnIndex column = .ok i) (hrow : c.current? = none)
    (a : Access) : c.ask column a = (.error .noCurrentRow, c) := by
  apply ask_of_locate_error
  rw [locate, hcolumn, hrow]

theorem real_eq_error {target label : String} {cell : Cell} {e : CursorError}
    (h : cell.real target label = .error e) : e = .unreadable cell.display label target := by
  unfold Cell.real at h
  split at h
  · cases h
  · split at h
    · exact (Except.error.inj h).symm
    · cases h

theorem integer_eq_error {t : IntegerType} {label : String} {cell : Cell} {e : CursorError}
    (h : cell.integer t label = .error e) : e = .unreadable cell.display label t.name := by
  unfold Cell.integer at h
  split at h
  · cases h
  · split at h
    · exact (Except.error.inj h).symm
    · split at h
      · exact (Except.error.inj h).symm
      · split at h
        · cases h
        · exact (Except.error.inj h).symm

/-- A cell that is found and cannot be read is reported with its text. -/
theorem view_eq_error {a : Access} {label : String} {cell : Cell} {e : CursorError}
    (h : a.view label cell = .error e) : ∃ target, e = .unreadable cell.display label target := by
  cases a with
  | object => cases h
  | string => cases h
  | bool => cases h
  | integer t => exact ⟨t.name, integer_eq_error (Except.map_eq_error h)⟩
  | double => exact ⟨"double", real_eq_error (Except.map_eq_error h)⟩
  | single => exact ⟨"float", real_eq_error (Except.map_eq_error (Except.map_eq_error h))⟩

/-! ### What calls leave behind -/

/-- A move changes nothing but the position. -/
theorem make_placed (c : Cursor) (m : Move) : (c.make m).2 = c.placed (c.make m).2.position := by
  have hjump : ∀ target, (c.moveTo target).2 = c.placed (c.moveTo target).2.position := by
    intro target
    unfold moveTo
    split <;> rfl
  cases m with
  | next => rfl
  | previous => rfl
  | absolute row => exact hjump _
  | relative delta => exact hjump _
  | first => exact hjump _
  | last => exact hjump _
  | beforeFirst => rfl
  | afterLast => rfl

/-- Nothing but a move changes the position, and nothing the table. -/
theorem call_keeps (c : Cursor) (call : CursorCall) :
    (c.call call).2.table = c.table ∧
      ((∀ m, call ≠ .move m) → (c.call call).2.position = c.position) := by
  cases call with
  | move m =>
    refine ⟨?_, fun h => absurd rfl (h m)⟩
    rw [Cursor.call, make_placed]
    rfl
  | read a column =>
    rw [Cursor.call, ask_eq]
    obtain ⟨htable, hposition⟩ := access_cursor c column a.view
    exact ⟨htable, fun _ => hposition⟩
  | find name => exact ⟨rfl, fun _ => rfl⟩
  | change operation => exact ⟨rfl, fun _ => rfl⟩

/-- What is noted after a call is about the cell that it read, if it read one. -/
theorem lastNull_call (c : Cursor) (call : CursorCall) :
    (c.call call).2.lastNull = ((c.addressed? call).map Cell.isNull).getD c.lastNull := by
  cases call with
  | move m =>
    rw [Cursor.call, make_placed]
    rfl
  | read a column =>
    rw [Cursor.call, addressed?]
    cases hcolumn : c.columnIndex column with
    | error e =>
      rw [ask_of_no_column hcolumn]
      rfl
    | ok i =>
      cases hrow : c.current? with
      | none =>
        rw [ask_of_no_row hcolumn hrow]
        rfl
      | some row =>
        obtain ⟨label, cell, -, hcell, hask⟩ := ask_of_found hcolumn hrow a
        rw [hask]
        simp only [Except.toOption, Option.bind_some, hcell, Option.map_some, Option.getD_some]
  | find name => rfl
  | change operation => rfl

/-- The table stays the same under any calls. -/
theorem calls_table (c : Cursor) (calls : List CursorCall) : (c.calls calls).2.table = c.table := by
  induction calls generalizing c with
  | nil => rfl
  | cons call rest ih =>
    rw [Cursor.calls, ih]
    exact (c.call_keeps call).1

/-- What is noted after calls is about the last cell that they read. -/
theorem lastNull_calls (c : Cursor) (calls : List CursorCall) :
    (c.calls calls).2.lastNull = ((c.trail calls).getLast?.map Cell.isNull).getD c.lastNull := by
  induction calls generalizing c with
  | nil => rfl
  | cons call rest ih =>
    rw [Cursor.calls, ih, lastNull_call, trail, List.getLast?_append]
    cases (trail (c.call call).2 rest).getLast? with
    | none => cases c.addressed? call <;> rfl
    | some cell => rfl

end Cursor

/-! ### The whole -/

/-- What calls on a cursor find, and what they leave behind. -/
structure Cursor.ReadsSafely (c : Cursor) : Prop where
  /-- No column and no cell is looked up where there is none. -/
  inBounds : ∀ column, c.located column = some (c.locate column)
  /-- The number of a label is that of the first column with it. -/
  firstOfLabel : ∀ name number, c.findColumn name = .ok number ↔
    ∃ i, number = i + 1 ∧ c.table.columns[i]? = some name ∧ ∀ j < i, c.table.columns[j]? ≠ some name
  /-- Reading by a label is reading by the number that is found for it. -/
  byLabel : ∀ name number a, c.findColumn name = .ok number →
    c.ask (.name name) a = c.ask (.index number) a
  /-- A wrong label is reported, on a row or not, and leaves everything as it is. -/
  wrongLabel : ∀ name a, name ∉ c.table.columns →
    c.findColumn name = .error (.columnNotFound name) ∧
      c.ask (.name name) a = (.error (.columnNotFound name), c)
  /-- So is a wrong number. -/
  wrongNumber : ∀ n a, ¬ (1 ≤ n ∧ n ≤ c.table.columns.length) →
    c.ask (.index n) a = (.error (.columnOutOfRange n c.table.columns.length), c)
  /-- A missing row is reported if there is nothing wrong with the column. -/
  noRow : ∀ column i a, c.columnIndex column = .ok i → c.current? = none →
    c.ask column a = (.error .noCurrentRow, c)
  /-- Else the cell of the column is read, and nothing changes but what is noted. -/
  found : ∀ column i row a, c.columnIndex column = .ok i → c.current? = some row →
    ∃ label cell, c.table.columns[i]? = some label ∧ row[i]? = some cell ∧
      c.ask column a = (a.view label cell, { c with lastNull := cell.isNull })
  /-- A cell that is found fails to be read for no other reason than its text. -/
  unreadable : ∀ (a : Access) label cell e, a.view label cell = .error e →
    ∃ target, e = .unreadable cell.display label target
  /-- Changes are refused. -/
  refused : ∀ operation,
    c.call (.change operation) = (.changed (.error (.unsupported operation)), c)
  /-- Only moves change the position. -/
  standsStill : ∀ call, (∀ m, call ≠ .move m) → (c.call call).2.position = c.position

theorem Cursor.readsSafely (c : Cursor) : c.ReadsSafely where
  inBounds := c.located_eq
  firstOfLabel _ _ := findColumn_eq_ok_iff
  byLabel name number a h := by
    rw [ask_eq, ask_eq, access, access, locate, locate, columnIndex_of_findColumn h]
  wrongLabel name a h := by
    have hfind := findColumn_of_not_mem h
    refine ⟨hfind, ask_of_no_column ?_ a⟩
    rw [columnIndex_label, hfind]
    rfl
  wrongNumber n a h := ask_of_no_column ((c.columnIndex_index n).trans (if_neg h)) a
  noRow _ _ a hcolumn hrow := ask_of_no_row hcolumn hrow a
  found _ _ _ a hcolumn hrow := ask_of_found hcolumn hrow a
  unreadable _ _ _ _ h := view_eq_error h
  refused _ := rfl
  standsStill call h := (c.call_keeps call).2 h

/-- **Cells are read safely.** Whatever the columns and rows that a table is made of, and whatever
calls were made on a new cursor of it: the table is the same, every call finds and leaves behind what
it should, and what is noted is whether the last cell that was found is absent, whether or not it
could be read as it was asked for. -/
theorem cells_read_safely (columns : List String) (rows : List (List Cell))
    (calls : List CursorCall) :
    let start := Cursor.ofTable (Table.ofRows columns rows)
    let c := (start.calls calls).2
    c.table = Table.ofRows columns rows ∧ c.ReadsSafely ∧
      (c.lastNull = true ↔ (start.trail calls).getLast? = some .null) := by
  intro start c
  refine ⟨start.calls_table calls, c.readsSafely, ?_⟩
  have hnoted : c.lastNull = _ := start.lastNull_calls calls
  rw [hnoted]
  cases (start.trail calls).getLast? with
  | none => simp [start, Cursor.ofTable]
  | some cell => cases cell <;> simp [Cell.isNull]

/-- The row is too short for its third column, but the first one is read after that, and is not
absent, though it is no number. -/
example : ((Cursor.ofTable (Table.ofRows ["A", "A", "B"] [[.text "x", .int 1]])).calls
    [.move .next, .read .object (.name "B"), .read .double (.name "A")]).2.lastNull = false := by
  decide +kernel

end OlapClient.Rowset
