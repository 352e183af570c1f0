import OlapClient.Number.Binary

namespace OlapClient.Toml

/-!
# Numbers of TOML documents

* `Number` — an integer of 64 bits or a double.
* `readNumber` — reading one, with what follows it. Underscores may stand between digits.
-/

/-- A number of a document. -/
inductive Number where
  | integer (n : Int64)
  | float (x : Binary)
deriving DecidableEq, Repr

/-- Read digits of a class, with single underscores between them. -/
def readRun (isDigit : Char → Bool) (cs : List Char) : Option (List Char × List Char) :=
  match cs with
  | [] => none
  | c :: rest => if isDigit c then some (more [c] rest) else none
where
  /-- Go on after some digits, the latest first. -/
  more (read : List Char) : List Char → List Char × List Char
    | '_' :: c :: rest =>
      if isDigit c then more (c :: read) rest else (read.reverse, '_' :: c :: rest)
    | c :: rest => if isDigit c then more (c :: read) rest else (read.reverse, c :: rest)
    | [] => (read.reverse, [])

/-- Read the whole part of a decimal number, which begins with a zero only if it is one. -/
def readWhole (cs : List Char) : Option (List Char × List Char) :=
  match cs with
  | '0' :: rest => some (['0'], rest)
  | _ => readRun isDigit cs

/-- A digit of a base. -/
def isDigitOf (base : Nat) (c : Char) : Bool :=
  match hexValue? c with
  | some d => d < base
  | none => false

/-- The integer of a number, if it fits. -/
def integer? (n : Int) : Option Number :=
  if Decimal.fitsInt64 n then some (.integer (Int64.ofInt n)) else none

/-- The number of digits of a base. -/
def valueOf (base : Nat) (digits : List Char) : Nat :=
  digits.foldl (fun n c => n * base + (hexValue? c).getD 0) 0

/-- Read the digits of an integer that is not decimal. -/
def readBased (base : Nat) (cs : List Char) : Option (Number × List Char) := do
  let (digits, rest) ← readRun (isDigitOf base) cs
  let n ← integer? (valueOf base digits)
  return (n, rest)

/-- Read the fraction of a number, if there is one: a point that no digit follows is an error. -/
def readFractionPart (cs : List Char) : Option (List Char × List Char) :=
  match cs with
  | '.' :: rest => (readRun isDigit rest).map fun p => ('.' :: p.1, p.2)
  | _ => some ([], cs)

/-- The sign at the beginning of a text, and what follows it. -/
def splitSign : List Char → List Char × List Char
  | '+' :: rest => (['+'], rest)
  | '-' :: rest => (['-'], rest)
  | cs => ([], cs)

/-- Read the exponent of a number, if there is one. -/
def readExponentPart (cs : List Char) : Option (List Char × List Char) :=
  match cs with
  | c :: rest =>
    if c = 'e' ∨ c = 'E' then
      let (sign, rest) := splitSign rest
      (readRun isDigit rest).map fun p => ('e' :: sign ++ p.1, p.2)
    else some ([], cs)
  | [] => some ([], cs)

/-- The double of a decimal text. One that is too great is an error, one that is too small is
not. -/
def float? (cs : List Char) : Option Number :=
  match Binary.parse? cs with
  | none => none
  | some x => if x = .infinite false then none else some (.float x)

/-- Read a decimal number after its sign. -/
def readDecimal (sign cs : List Char) : Option (Number × List Char) := do
  let (whole, rest) ← readWhole cs
  let (fraction, rest) ← readFractionPart rest
  let (exponent, rest) ← readExponentPart rest
  if fraction = [] ∧ exponent = [] then
    let n ← (Decimal.integer? (sign ++ whole)).bind integer?
    return (n, rest)
  else
    let x ← float? (sign ++ whole ++ fraction ++ exponent)
    return (x, rest)

/-- Read a number. -/
def readNumber (cs : List Char) : Option (Number × List Char) :=
  match cs with
  | '0' :: 'x' :: rest => readBased 16 rest
  | '0' :: 'o' :: rest => readBased 8 rest
  | '0' :: 'b' :: rest => readBased 2 rest
  | _ =>
    let (sign, rest) := splitSign cs
    match rest with
    | 'i' :: 'n' :: 'f' :: rest => some (.float (.infinite (sign == ['-'])), rest)
    | 'n' :: 'a' :: 'n' :: rest => some (.float .nan, rest)
    | _ => readDecimal sign rest

end OlapClient.Toml
