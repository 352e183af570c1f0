import OlapClient.Text.Blank

namespace OlapClient.Decimal

/-!
# Whole numbers in decimal

* `natural?` — a text of one or more digits.
* `unsigned?` — the same with an optional plus sign.
* `integer?` — the same with an optional sign of either kind.
* `int64?`, `word?` — those that fit 64 bits.
-/

/-- The value of a decimal digit. -/
def digitValue (c : Char) : Nat :=
  c.toNat - 48

/-- The number that a row of digits spells. -/
def value (cs : List Char) : Nat :=
  cs.foldl (fun n c => n * 10 + digitValue c) 0

/-- The number of a text of one or more digits. -/
def natural? (cs : List Char) : Option Nat :=
  if cs ≠ [] ∧ cs.all isDigit then some (value cs) else none

/-- A row of digits that a plus sign may precede. -/
def unsigned? (cs : List Char) : Option Nat :=
  match cs with
  | '+' :: rest => natural? rest
  | _ => natural? cs

/-- A row of digits that a sign may precede. -/
def integer? (cs : List Char) : Option Int :=
  match cs with
  | '-' :: rest => (natural? rest).map fun n => -(n : Int)
  | _ => (unsigned? cs).map Int.ofNat

/-- An unsigned number of at most 64 bits. -/
def word? (s : String) : Option Nat :=
  (unsigned? s.toList).filter (· < 18446744073709551616)

/-- The integers of 64 bits. -/
def fitsInt64 (n : Int) : Bool :=
  -9223372036854775808 ≤ n && n < 9223372036854775808

/-- A signed number of 64 bits. -/
def int64? (s : String) : Option Int64 :=
  ((integer? s.toList).filter fitsInt64).map Int64.ofInt

end OlapClient.Decimal
