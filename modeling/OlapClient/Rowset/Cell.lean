import OlapClient.Number.Shortest

namespace OlapClient.Rowset

/-!
# Cells

* `Cell` — the value of one column in one row.
* `Kind` — how the cells of a column are typed, `Kind.ofType` reads it off a schema type.
* `Kind.read` — the cell of a text in a column of a kind.
* `Cell.display` — the text that shows a cell.
-/

/-- The value of one column in one row. An absent cell is neither zero nor an empty text. -/
inductive Cell where
  | null
  | bool (b : Bool)
  | int (n : Int64)
  | double (x : Binary)
  | text (s : String)
deriving DecidableEq

namespace Cell

/-- Whether the cell is absent. -/
def isNull : Cell → Bool
  | .null => true
  | _ => false

/-- The text that shows a cell; an absent one shows nothing. -/
def display : Cell → String
  | .null => ""
  | .bool true => "true"
  | .bool false => "false"
  | .int n => toString n.toInt
  | .double x => DecimalStyle.plain.text x
  | .text s => s

end Cell

/-- How the cells of a column are typed. -/
inductive Kind where
  | int
  | double
  | bool
  | text
deriving DecidableEq, Repr

namespace Kind

/-- The name of a kind. -/
def label : Kind → String
  | .int => "Int"
  | .double => "Double"
  | .bool => "Bool"
  | .text => "Text"

/-- The schema types of whole numbers. -/
def intTypes : List String :=
  ["int", "integer", "long", "short", "byte", "unsignedInt", "unsignedLong", "unsignedShort",
    "unsignedByte", "nonNegativeInteger", "positiveInteger", "negativeInteger",
    "nonPositiveInteger"]

/-- The schema types of numbers with a fraction. -/
def doubleTypes : List String :=
  ["double", "float", "decimal"]

/-- What follows the last colon of a text, or all of it. -/
def afterLastColon (cs : List Char) : List Char :=
  (cs.reverse.takeWhile (· != ':')).reverse

/-- The kind of a schema type, whose prefix does not matter. A type that is not known is text. -/
def ofType (typeName : String) : Kind :=
  let name := String.ofList (afterLastColon typeName.toList)
  if name ∈ intTypes then .int
  else if name ∈ doubleTypes then .double
  else if name = "boolean" then .bool
  else .text

/-- The number of a text: the schema spellings of the infinities, or decimal text. -/
def readDouble (t : String) : Option Binary :=
  if t = "INF" then some (.infinite false)
  else if t = "-INF" then some (.infinite true)
  else Binary.parse? t.toList

/-- The truth value of a text. -/
def readBool (t : String) : Option Bool :=
  if t = "true" ∨ t = "1" then some true
  else if t = "false" ∨ t = "0" then some false
  else none

/-- The cell of a text in a column of this kind, if there is one. A blank text is an absent cell,
except in a column of text. -/
def read (kind : Kind) (raw : String) : Option Cell :=
  let t := trim raw
  match kind with
  | .text => some (.text raw)
  | .int => if t = "" then some .null else (Decimal.int64? t).map .int
  | .double => if t = "" then some .null else (readDouble t).map .double
  | .bool => if t = "" then some .null else (readBool t).map .bool

end Kind

end OlapClient.Rowset
