import OlapClient.Property.NameMap
import OlapClient.Report.Json
import OlapClient.Rowset.Table
import OlapClient.Text.Blank

namespace OlapClient.Report

open Rowset (Cell Table)

/-!
# Reports of tables and properties

* `textTable` — a table for the terminal, with aligned columns.
* `jsonTable` — a table as an array of objects.
* `jsonProperties` — a property map as an object.
* `masked` — a property map whose passwords are hidden.
-/

/-- A line of text with its line break. -/
def line (s : String) : String :=
  s ++ "\n"

/-- A horizontal rule. -/
def rule (width : Nat) : String :=
  String.ofList (List.replicate width '─')

/-- A text filled up with blanks. -/
def padRight (width : Nat) (s : String) : String :=
  String.ofList (s.toList ++ List.replicate (width - s.toList.length) ' ')

/-- A text without trailing blanks. -/
def trimEnd (s : String) : String :=
  String.ofList (trimEndBy isBlank s.toList)

/-- The width of a column: that of its label or its widest text, in characters. -/
def columnWidth (label : String) (texts : List String) : Nat :=
  texts.foldl (fun width s => max width s.toList.length) label.toList.length

/-- The widths of all columns. -/
def columnWidths (labels : List String) (rows : List (List String)) : List Nat :=
  labels.mapIdx fun i label => columnWidth label (rows.map fun row => row.getD i "")

/-- Texts side by side, each as wide as its column. -/
def sideBySide (widths : List Nat) (texts : List String) : String :=
  String.intercalate "  " (List.zipWith padRight widths texts)

/-- A table for the terminal: labels, a rule, the rows, and their number. -/
def textTable (t : Table) : String :=
  let rows := t.rows.map fun row => row.map Cell.display
  let widths := columnWidths t.columns rows
  line (sideBySide widths t.columns)
    ++ line (rule (total widths + 2 * (widths.length - 1)))
    ++ String.join (rows.map fun row => line (trimEnd (sideBySide widths row)))
    ++ line ""
    ++ line (toString rows.length ++ " row(s)")

/-- A cell. Numbers without a decimal text are written as null. -/
def jsonCell : Cell → JsonValue
  | .null => .null
  | .bool b => .bool b
  | .int n => .int n.toInt
  | .double x => .double x
  | .text s => .string s

/-- A row as an object, its members in the order of their labels. Of columns with the same label
the last counts. -/
def jsonRow (labels : List String) (row : List Cell) : JsonValue :=
  .object (NameMap.ofPairs (labels.zip (row.map jsonCell))).toList

/-- A table as an array of objects. -/
def jsonTable (t : Table) : String :=
  line (JsonValue.array (t.rows.map (jsonRow t.columns))).pretty

/-- A property map as an object. -/
def jsonProperties (m : PropertyMap) : JsonValue :=
  .object (m.toList.map fun p => (p.1, .string p.2))

/-- What is shown of a password. -/
def hidden : String := "********"

/-- What is shown of a property. -/
def shown (key value : String) : String :=
  if eqIgnoringCase key "password" then hidden else value

/-- A property map as it is shown. -/
def masked (m : PropertyMap) : PropertyMap :=
  NameMap.ofPairs (m.toList.map fun p => (p.1, shown p.1 p.2))

end OlapClient.Report
