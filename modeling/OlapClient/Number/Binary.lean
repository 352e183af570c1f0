import OlapClient.Number.Decimal
import OlapClient.Number.Power

namespace OlapClient

/-!
# Binary floating point

Numbers are kept as sign, significand and exponent, so that every operation is exact arithmetic on
whole numbers.

* `BinaryFormat` — the precision and the exponents of a binary format; `BinaryFormat.double`,
  `BinaryFormat.single`.
* `Binary` — a number of such a format, an infinity, or not a number.
* `BinaryFormat.ofRatio` — the nearest number to a quotient, of two equally near ones the even.
* `Binary.parse?` — reading decimal text.
* `Binary.toBits` — the interchange encoding.
-/

/-- A binary format: the digits of a significand, the exponent of the least unit, and the greatest
exponent. -/
structure BinaryFormat where
  precision : Nat
  least : Int
  greatest : Int
deriving DecidableEq, Repr

/-- Double precision: 53 digits. -/
def BinaryFormat.double : BinaryFormat := ⟨53, -1074, 971⟩

/-- Single precision: 24 digits. -/
def BinaryFormat.single : BinaryFormat := ⟨24, -149, 104⟩

/-- A floating point number. A finite one is `significand * 2 ^ exponent`, with the least exponent
for zero and for significands that do not fill the precision. -/
inductive Binary where
  | nan
  | infinite (negative : Bool)
  | finite (negative : Bool) (significand : Nat) (exponent : Int)
deriving DecidableEq, Repr

namespace Binary

/-- Whether the number is neither infinite nor undefined. -/
def isFinite : Binary → Bool
  | .finite .. => true
  | _ => false

/-- Whether the number is a zero of either sign. -/
def isZero : Binary → Bool
  | .finite _ m _ => m == 0
  | _ => false

end Binary

/-- The quotient rounded to the nearest whole number, a half to the even neighbour. -/
def roundQuotient (num den : Nat) : Nat :=
  let q := num / den
  let r := num % den
  if den < 2 * r ∨ (2 * r = den ∧ q % 2 = 1) then q + 1 else q

/-- The greatest power of two that is at most the quotient of two positive numbers. -/
def quotientLog2 (num den : Nat) : Int :=
  let guess : Int := (num.log2 : Int) - den.log2
  if den * twoTo guess.toNat ≤ num * twoTo (-guess).toNat then guess else guess - 1

namespace BinaryFormat

/-- Zero of a sign. -/
def zero (f : BinaryFormat) (negative : Bool) : Binary :=
  .finite negative 0 f.least

/-- The number of the format nearest to `num / den`, for a positive `den`. -/
def ofRatio (f : BinaryFormat) (negative : Bool) (num den : Nat) : Binary :=
  if num = 0 then f.zero negative
  else
    let e := max f.least (quotientLog2 num den - (f.precision - 1 : Nat))
    let m := roundQuotient (num * twoTo (-e).toNat) (den * twoTo e.toNat)
    let (m, e) := if m = twoTo f.precision then (twoTo (f.precision - 1), e + 1) else (m, e)
    if f.greatest < e then .infinite negative else .finite negative m e

/-- The number of the format nearest to a number of another one. -/
def ofBinary (f : BinaryFormat) : Binary → Binary
  | .nan => .nan
  | .infinite negative => .infinite negative
  | .finite negative m e => f.ofRatio negative (m * twoTo e.toNat) (twoTo (-e).toNat)

/-- The number of the format nearest to a whole number. -/
def ofInt (f : BinaryFormat) (n : Int) : Binary :=
  f.ofRatio (n < 0) n.natAbs 1

/-- The number of the format nearest to `n * 10 ^ e`, where `n` has `count` digits. Exponents far
outside the format's range are decided by size alone. -/
def ofDecimal (f : BinaryFormat) (negative : Bool) (count n : Nat) (e : Int) : Binary :=
  if n = 0 ∨ count + e < -400 then f.zero negative
  else if 400 < count + e then .infinite negative
  else f.ofRatio negative (n * tenTo e.toNat) (tenTo (-e).toNat)

end BinaryFormat

namespace Binary

/-! ### Reading text -/

/-- The digits before and after the point, and the exponent, of an unsigned decimal text. -/
structure Spelling where
  whole : List Char
  fraction : List Char
  exponent : Int

/-- The exponent part of a decimal text: nothing, or `e` and a whole number. -/
def exponent? (cs : List Char) : Option Int :=
  match cs with
  | [] => some 0
  | c :: rest => if c = 'e' ∨ c = 'E' then Decimal.integer? rest else none

/-- Split an unsigned decimal text. There is at least one digit before or after the point. -/
def spelling? (cs : List Char) : Option Spelling :=
  let whole := cs.takeWhile isDigit
  let rest := cs.dropWhile isDigit
  let (fraction, rest) :=
    match rest with
    | '.' :: more => (more.takeWhile isDigit, more.dropWhile isDigit)
    | _ => ([], rest)
  if whole = [] ∧ fraction = [] then none
  else (exponent? rest).map fun e => ⟨whole, fraction, e⟩

/-- The number nearest to a decimal text without sign. -/
def Spelling.toBinary (s : Spelling) (negative : Bool) : Binary :=
  let digits := (s.whole ++ s.fraction).dropWhile (· == '0')
  BinaryFormat.double.ofDecimal negative digits.length (Decimal.value digits)
    (s.exponent - s.fraction.length)

/-- The names of the numbers that have no digits. -/
def named? (negative : Bool) (cs : List Char) : Option Binary :=
  let name := String.ofList (cs.map lowerAscii)
  if name = "inf" ∨ name = "infinity" then some (.infinite negative)
  else if name = "nan" then some .nan
  else none

/-- Read an unsigned decimal text or a name. -/
def unsigned? (negative : Bool) (cs : List Char) : Option Binary :=
  match spelling? cs with
  | some s => some (s.toBinary negative)
  | none => named? negative cs

/-- The double nearest to a decimal text, which a sign may precede. -/
def parse? (cs : List Char) : Option Binary :=
  match cs with
  | '-' :: rest => unsigned? true rest
  | '+' :: rest => unsigned? false rest
  | _ => unsigned? false cs

/-! ### Encoding -/

/-- The interchange encoding of a number of a format whose words have `width` bits. -/
def toBits (f : BinaryFormat) (width : Nat) : Binary → Nat
  | .nan => (twoTo (width - f.precision + 1) - 1) * twoTo (f.precision - 2)
  | .infinite negative =>
    (if negative then twoTo (width - 1) else 0)
      + (twoTo (width - f.precision) - 1) * twoTo (f.precision - 1)
  | .finite negative m e =>
    let hidden := twoTo (f.precision - 1)
    (if negative then twoTo (width - 1) else 0)
      + (if m < hidden then m else ((e - f.least).toNat + 1) * hidden + (m - hidden))

/-! ### Whole parts -/

/-- The whole number that remains when the fraction is cut off. -/
def truncate (negative : Bool) (m : Nat) (e : Int) : Int :=
  let n := m * twoTo e.toNat / twoTo (-e).toNat
  if negative then -(n : Int) else n

/-- The number without its fraction, if that is an integer of 64 bits. -/
def toInt64? : Binary → Option Int64
  | .finite negative m e =>
    let n := truncate negative m e
    if Decimal.fitsInt64 n then some (Int64.ofInt n) else none
  | _ => none

end Binary

end OlapClient
