import OlapClient.Number.Binary

namespace OlapClient

/-!
# Shortest decimal text of a number

* `shortest` — the fewest digits that read back as the number, of those the nearest.
* `DecimalStyle` — how digits become text; `plain` never has an exponent, `scientific` has one for
  very large and very small numbers.
-/

/-- A positive decimal number: `digits * 10 ^ exponent`. -/
structure Digits where
  digits : Nat
  exponent : Int
deriving DecidableEq, Repr

/-- The decimal digits of a number. -/
def decimalDigits (n : Nat) : List Char :=
  Nat.toDigits 10 n

/-- The least `t` from `t₀` on with `den ≤ num * 10 ^ t`, if one is found in `fuel` steps. -/
def leadingZeros (num den : Nat) : Nat → Nat → Nat
  | 0, t => t
  | fuel + 1, t => if den ≤ num * tenTo t then t else leadingZeros num den fuel (t + 1)

/-- The power of ten of the first digit of a positive quotient that is at least `10 ^ -400`. -/
def quotientLog10 (num den : Nat) : Int :=
  if den ≤ num then (decimalDigits (num / den)).length - 1
  else -(leadingZeros num den 400 0 : Int)

/-- Remove the trailing zeros of a positive number of at most `fuel` digits, counting them. -/
def stripZeros : Nat → Nat → Int → Digits
  | 0, n, e => ⟨n, e⟩
  | fuel + 1, n, e => if n % 10 = 0 ∧ n ≠ 0 then stripZeros fuel (n / 10) (e + 1) else ⟨n, e⟩

/-- The interval of the quotients that round to a number, with the number between its ends. -/
structure Rounding where
  low : Nat
  middle : Nat
  high : Nat
  den : Nat
  closed : Bool

/-- The interval around `m * 2 ^ e` in a format. The lower gap is half as wide at a power of two,
and the ends belong to the even significand. -/
def BinaryFormat.rounding (f : BinaryFormat) (m : Nat) (e : Int) : Rounding :=
  let gap := if m = twoTo (f.precision - 1) ∧ f.least < e then 1 else 2
  let up := twoTo (e - 2).toNat
  ⟨(4 * m - gap) * up, 4 * m * up, (4 * m + 2) * up, twoTo (2 - e).toNat, m % 2 == 0⟩

/-- Whether `n * 10 ^ p` lies in the interval. -/
def Rounding.contains (r : Rounding) (n : Nat) (p : Int) : Bool :=
  let x := n * tenTo p.toNat * r.den
  let scale := tenTo (-p).toNat
  if r.closed then r.low * scale ≤ x && x ≤ r.high * scale
  else r.low * scale < x && x < r.high * scale

/-- Which of two neighbours is taken when both are equally near. -/
inductive Tie where
  | upper
  | even
deriving DecidableEq, Repr

/-- The neighbour that a tie falls to, given the lower one. -/
def Tie.settle (tie : Tie) (below : Nat) : Nat :=
  if tie = .even ∧ below % 2 = 0 then below else below + 1

/-- The neighbour on the grid of `10 ^ p` that reads back as the number, the nearer of two. -/
def Rounding.onGrid? (r : Rounding) (tie : Tie) (p : Int) : Option Nat :=
  let num := r.middle * tenTo (-p).toNat
  let den := r.den * tenTo p.toNat
  let below := num / den
  let rest := num % den
  match r.contains below p, r.contains (below + 1) p with
  | true, true =>
    some (if 2 * rest < den then below else if 2 * rest = den then tie.settle below else below + 1)
  | true, false => some below
  | false, true => some (below + 1)
  | false, false => none

/-- The first of the given digit counts whose grid has a number in the interval. -/
def Rounding.search (r : Rounding) (tie : Tie) (top : Int) : List Nat → Digits
  | [] => ⟨0, 0⟩
  | count :: more =>
    let p := top + 1 - (count : Int)
    match r.onGrid? tie p with
    | some n => stripZeros 20 n p
    | none => r.search tie top more

/-- The shortest digits of a positive double. Seventeen always suffice. -/
def shortest (tie : Tie) (m : Nat) (e : Int) : Digits :=
  let r := BinaryFormat.double.rounding m e
  r.search tie (quotientLog10 r.middle r.den)
    [1, 2, 3, 4, 5, 6, 7, 8, 9, 10, 11, 12, 13, 14, 15, 16, 17]

/-! ### Writing digits -/

/-- Digits with a point where the exponent puts it, and no exponent. -/
def Digits.positional (d : Digits) : List Char :=
  let ds := decimalDigits d.digits
  if 0 ≤ d.exponent then ds ++ List.replicate d.exponent.toNat '0'
  else
    let after := (-d.exponent).toNat
    if after < ds.length then ds.take (ds.length - after) ++ '.' :: ds.drop (ds.length - after)
    else '0' :: '.' :: (List.replicate (after - ds.length) '0' ++ ds)

/-- One digit, a point and the other digits if there are any, and the exponent. -/
def Digits.scientific (d : Digits) : List Char :=
  let ds := decimalDigits d.digits
  let e := d.exponent + ds.length - 1
  let mantissa := if ds.length = 1 then ds else ds.take 1 ++ '.' :: ds.drop 1
  mantissa ++ 'e' :: (toString e).toList

/-- A style of writing numbers: the texts of the special values, the places of the first digit that
are written without exponent, whether a whole number keeps a zero after the point, and which of two
shortest texts is taken. -/
structure DecimalStyle where
  nan : String
  infinity : String
  negativeInfinity : String
  zero : String
  positional : Int → Bool
  keepsPoint : Bool
  tie : Tie

/-- Numbers as cells show them: no exponent, and no point in a whole number. -/
def DecimalStyle.plain : DecimalStyle where
  nan := "NaN"
  infinity := "inf"
  negativeInfinity := "-inf"
  zero := "0"
  positional := fun _ => true
  keepsPoint := false
  tie := .upper

/-- Numbers in JSON: a point or an exponent always; positional from `1e-5` to below `1e16`. -/
def DecimalStyle.json : DecimalStyle where
  nan := "null"
  infinity := "null"
  negativeInfinity := "null"
  zero := "0.0"
  positional := fun place => -5 < place && place ≤ 16
  keepsPoint := true
  tie := .even

/-- The digits of a number in a style, without sign. -/
def DecimalStyle.digits (style : DecimalStyle) (d : Digits) : List Char :=
  let place := d.exponent + (decimalDigits d.digits).length
  if style.positional place then
    if style.keepsPoint ∧ 0 ≤ d.exponent then d.positional ++ ['.', '0'] else d.positional
  else d.scientific

/-- The text of a double in a style. -/
def DecimalStyle.text (style : DecimalStyle) : Binary → String
  | .nan => style.nan
  | .infinite negative => if negative then style.negativeInfinity else style.infinity
  | .finite negative m e =>
    let sign := if negative then "-" else ""
    if m = 0 then sign ++ style.zero
    else sign ++ String.ofList (style.digits (shortest style.tie m e))

end OlapClient
