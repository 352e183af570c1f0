import OlapClient.Bytes
import OlapClient.Text.Blank
import OlapClient.Text.Split

namespace OlapClient.Location

/-!
# Numeric addresses

* `ipv4?` — an address of one to four numbers, decimal, octal or hexadecimal, of which the last
  fills all bytes that are left.
* `ipv6?` — an address of eight groups, of which a run of zeros may be left out, and the last two
  may be written as four decimal numbers.
* `ipv4Text`, `ipv6Text` — their canonical forms.
-/

/-! ### Four bytes -/

/-- The number that digits of a base spell, if all are digits of it. -/
def numberIn? (base : Nat) (cs : List Char) : Option Nat :=
  cs.foldl (fun n c => do
    let n ← n
    let d ← hexValue? c
    if d < base then some (n * base + d) else none) (some 0)

/-- A part of an address: `0x` begins hexadecimal, `0` octal. An empty part is none, and a number
that is only a base is zero. -/
def addressNumber? (cs : List Char) : Option Nat :=
  match cs with
  | [] => none
  | '0' :: 'x' :: digits => numberIn? 16 digits
  | '0' :: 'X' :: digits => numberIn? 16 digits
  | '0' :: d :: digits => numberIn? 8 (d :: digits)
  | _ => numberIn? 10 cs

/-- Without the empty part that a final point leaves. -/
def withoutFinalEmpty (parts : List (List Char)) : List (List Char) :=
  if parts.getLast? = some [] then parts.dropLast else parts

/-- Whether the last part of a host is a number, so that the host has to be an address. -/
def endsInNumber (host : List Char) : Bool :=
  let parts := splitAt (· == '.') host
  match (if parts.length = 1 then parts else withoutFinalEmpty parts).getLast? with
  | none => false
  | some last => (last != [] && last.all isDigit) || (addressNumber? last).isSome

/-- The address of a host that ends in a number. -/
def ipv4? (host : List Char) : Option Nat := do
  let parts := withoutFinalEmpty (splitAt (· == '.') host)
  if 4 < parts.length then none
  let numbers ← parts.mapM addressNumber?
  let last ← numbers.getLast?
  let front := numbers.dropLast
  if front.any (255 < ·) ∨ Nat.pow 256 (4 - front.length) ≤ last then none
  let add (p : Nat × Nat) (part : Nat) := (p.1 + part * Nat.pow 256 p.2, p.2 - 1)
  some (front.foldl add (last, 3)).1

/-- Four decimal numbers between points. -/
def ipv4Text (address : Nat) : List Char :=
  let part (k : Nat) : List Char := (toString (address / Nat.pow 256 k % 256)).toList
  part 3 ++ '.' :: part 2 ++ '.' :: part 1 ++ '.' :: part 0

/-! ### Eight groups -/

/-- A decimal number up to 255 without leading zeros. -/
def byteNumber? (cs : List Char) : Option Nat :=
  match cs with
  | [] => none
  | ['0'] => some 0
  | '0' :: _ => none
  | _ => if cs.all isDigit ∧ cs.length ≤ 3 then (numberIn? 10 cs).filter (· ≤ 255) else none

/-- The two groups of an address in four decimal numbers. -/
def embedded? (cs : List Char) : Option (List Nat) := do
  match (splitAt (· == '.') cs).map byteNumber? with
  | [some a, some b, some c, some d] => some [a * 256 + b, c * 256 + d]
  | _ => none

/-- One group: one to four hexadecimal digits. -/
def group? (cs : List Char) : Option Nat :=
  if cs ≠ [] ∧ cs.length ≤ 4 then numberIn? 16 cs else none

/-- The groups of a text between colons. Only the last part may be four decimal numbers. -/
def groups? : List (List Char) → Option (List Nat)
  | [] => some []
  | [part] => if part.contains '.' then embedded? part else (group? part).map ([·])
  | part :: more => do
    let g ← group? part
    let gs ← groups? more
    some (g :: gs)

/-- What stands before and after the first double colon. -/
def breakDouble : List Char → Option (List Char × List Char)
  | ':' :: ':' :: rest => some ([], rest)
  | c :: rest => (breakDouble rest).map fun r => (c :: r.1, r.2)
  | [] => none

/-- The groups of one side of a double colon; nothing is no group. -/
def side? (cs : List Char) : Option (List Nat) :=
  if cs = [] then some [] else groups? (splitAt (· == ':') cs)

/-- The groups of one side that may not end in four decimal numbers. -/
def plainSide? (cs : List Char) : Option (List Nat) :=
  if cs.contains '.' then none else side? cs

/-- The eight groups of an address. A double colon stands for one or more groups of zero. -/
def ipv6? (cs : List Char) : Option (List Nat) :=
  match breakDouble cs with
  | none => (groups? (splitAt (· == ':') cs)).filter (·.length == 8)
  | some (left, right) => do
    let left ← plainSide? left
    let right ← side? right
    if 7 < left.length + right.length then none
    some (left ++ List.replicate (8 - left.length - right.length) 0 ++ right)

/-- The lengths of the runs of zeros that begin at each group. -/
def zeroRuns (groups : List Nat) : List Nat :=
  groups.foldr (fun g runs => (if g = 0 then runs.headD 0 + 1 else 0) :: runs) []

/-- Where the first of the longest runs of at least two zeros begins, and its length. -/
def longestRun? (groups : List Nat) : Option (Nat × Nat) :=
  let runs := zeroRuns groups
  let longest := runs.foldl max 0
  if longest < 2 then none else (runs.findIdx? (· == longest)).map fun i => (i, longest)

/-- Groups in lower-case hexadecimal with colons between them. -/
def groupsText (groups : List Nat) : List Char :=
  List.intercalate [':'] (groups.map (Nat.toDigits 16))

/-- The canonical text of eight groups: the longest run of zeros is left out. -/
def ipv6Text (groups : List Nat) : List Char :=
  match longestRun? groups with
  | none => groupsText groups
  | some (start, length) =>
    groupsText (groups.take start) ++ ':' :: ':' :: groupsText (groups.drop (start + length))

end OlapClient.Location
