import OlapClient.Bytes
import OlapClient.Number.Shortest

namespace OlapClient.Report

/-!
# JSON output

* `JsonValue` — a value to be written; members are written in the order in which they are given.
* `JsonValue.pretty` — one item per line, indented by two blanks per level.
* `JsonValue.compact` — all on one line, without blanks.
-/

/-- A value to be written. -/
inductive JsonValue where
  | null
  | bool (b : Bool)
  | int (n : Int)
  | double (x : Binary)
  | string (s : String)
  | array (items : List JsonValue)
  | object (members : List (String × JsonValue))

/-! ### Text -/

/-- A character within quotes. -/
def jsonChar (c : Char) : List Char :=
  if c = '"' then ['\\', '"']
  else if c = '\\' then ['\\', '\\']
  else if c = '\x08' then ['\\', 'b']
  else if c = '\t' then ['\\', 't']
  else if c = '\n' then ['\\', 'n']
  else if c = '\x0c' then ['\\', 'f']
  else if c = '\r' then ['\\', 'r']
  else if c.toNat < 0x20 then
    ['\\', 'u', '0', '0', hexDigit (c.toNat / 16), hexDigit (c.toNat % 16)]
  else [c]

/-- A text in quotes. -/
def jsonString (s : String) : List Char :=
  '"' :: s.toList.flatMap jsonChar ++ ['"']

/-- A truth value. -/
def jsonBool (b : Bool) : List Char :=
  if b then "true".toList else "false".toList

/-! ### Layout -/

/-- How items are laid out: what begins each line at a depth, and what parts a name from its
value. -/
structure Layout where
  line : Nat → List Char
  colon : List Char

/-- One item per line, indented by two blanks per level. -/
def Layout.pretty : Layout where
  line depth := '\n' :: List.replicate (2 * depth) ' '
  colon := [':', ' ']

/-- All on one line. -/
def Layout.compact : Layout where
  line _ := []
  colon := [':']

/-- Items between brackets. No line is begun if there are none. -/
def Layout.enclose (layout : Layout) (depth : Nat) (opening closing : Char)
    (items : List (List Char)) : List Char :=
  match items with
  | [] => [opening, closing]
  | _ =>
    opening :: List.intercalate [','] (items.map fun item => layout.line (depth + 1) ++ item)
      ++ layout.line depth ++ [closing]

mutual

/-- The text of a value at a depth. -/
def JsonValue.write (layout : Layout) (depth : Nat) : JsonValue → List Char
  | .null => "null".toList
  | .bool b => jsonBool b
  | .int n => (toString n).toList
  | .double x => (DecimalStyle.json.text x).toList
  | .string s => jsonString s
  | .array items => layout.enclose depth '[' ']' (writeItems layout (depth + 1) items)
  | .object members =>
    layout.enclose depth '\x7b' '\x7d' (writeMembers layout (depth + 1) members)

/-- The texts of the items of an array. -/
def writeItems (layout : Layout) (depth : Nat) : List JsonValue → List (List Char)
  | [] => []
  | item :: rest => item.write layout depth :: writeItems layout depth rest

/-- The texts of the members of an object. -/
def writeMembers (layout : Layout) (depth : Nat) :
    List (String × JsonValue) → List (List Char)
  | [] => []
  | (name, value) :: rest =>
    (jsonString name ++ layout.colon ++ value.write layout depth)
      :: writeMembers layout depth rest

end

/-- A value with one item per line. -/
def JsonValue.pretty (v : JsonValue) : String :=
  String.ofList (v.write .pretty 0)

/-- A value on one line. -/
def JsonValue.compact (v : JsonValue) : String :=
  String.ofList (v.write .compact 0)

end OlapClient.Report
