import OlapClient.Number.Decimal
import OlapClient.Number.Power

namespace OlapClient.Toml

/-!
# Dates and times of TOML documents

* `Moment` — a date, a time of day, or both with an optional offset.
* `readMoment` — reading one, with what follows it.
* `Moment.text` — its canonical text.
-/

/-- A day of the calendar. -/
structure Date where
  year : Nat
  month : Nat
  day : Nat
deriving DecidableEq, Repr

/-- A time of day. -/
structure Clock where
  hour : Nat
  minute : Nat
  second : Nat
  nanosecond : Nat
deriving DecidableEq, Repr

/-- The distance from universal time: none, or minutes. -/
inductive Offset where
  | zulu
  | minutes (n : Int)
deriving DecidableEq, Repr

/-- A date, a time of day, or both. -/
structure Moment where
  date : Option Date
  clock : Option Clock
  offset : Option Offset
deriving DecidableEq, Repr

/-! ### Writing -/

/-- A number in at least some digits. -/
def padded (width n : Nat) : List Char :=
  let digits := Nat.toDigits 10 n
  List.replicate (width - digits.length) '0' ++ digits

/-- The canonical text of a day. -/
def Date.text (d : Date) : List Char :=
  padded 4 d.year ++ '-' :: padded 2 d.month ++ '-' :: padded 2 d.day

/-- The canonical text of a part of a second. -/
def fractionText (nanosecond : Nat) : List Char :=
  if nanosecond = 0 then []
  else '.' :: ((padded 9 nanosecond).reverse.dropWhile (· == '0')).reverse

/-- The canonical text of a time of day. -/
def Clock.text (c : Clock) : List Char :=
  padded 2 c.hour ++ ':' :: padded 2 c.minute ++ ':' :: padded 2 c.second
    ++ fractionText c.nanosecond

/-- The canonical text of an offset. -/
def Offset.text : Offset → List Char
  | .zulu => ['Z']
  | .minutes n =>
    let size := n.natAbs
    (if n < 0 then '-' else '+') :: padded 2 (size / 60) ++ ':' :: padded 2 (size % 60)

/-- The canonical text of a date or time. -/
def Moment.text (m : Moment) : String :=
  let date := (m.date.map Date.text).getD []
  let clock := (m.clock.map Clock.text).getD []
  let mark := if m.date.isSome ∧ m.clock.isSome then ['T'] else []
  String.ofList (date ++ mark ++ clock ++ (m.offset.map Offset.text).getD [])

/-! ### Reading -/

/-- Read a number of exactly some digits, within bounds. -/
def readDigits (width least most : Nat) (cs : List Char) : Option (Nat × List Char) :=
  match Decimal.natural? (cs.take width) with
  | none => none
  | some n =>
    if (cs.take width).length = width ∧ least ≤ n ∧ n ≤ most then some (n, cs.drop width) else none

/-- Read a character. -/
def readChar (c : Char) : List Char → Option (List Char)
  | [] => none
  | d :: rest => if d = c then some rest else none

/-- Whether a year has a leap day. -/
def isLeapYear (year : Nat) : Bool :=
  year % 4 == 0 && (year % 100 != 0 || year % 400 == 0)

/-- The number of days of a month. -/
def daysOf (year month : Nat) : Nat :=
  if month = 2 then (if isLeapYear year then 29 else 28)
  else if month ∈ [4, 6, 9, 11] then 30
  else 31

/-- Read a day. -/
def readDate (cs : List Char) : Option (Date × List Char) := do
  let (year, cs) ← readDigits 4 0 9999 cs
  let cs ← readChar '-' cs
  let (month, cs) ← readDigits 2 1 12 cs
  let cs ← readChar '-' cs
  let (day, cs) ← readDigits 2 1 (daysOf year month) cs
  return (⟨year, month, day⟩, cs)

/-- The billionths of a second of a row of digits, of which nine count. -/
def nanoseconds (digits : List Char) : Nat :=
  let counted := digits.take 9
  Decimal.value counted * tenTo (9 - counted.length)

/-- Read the part of a second, if there is one. -/
def readFraction (cs : List Char) : Nat × List Char :=
  match cs with
  | '.' :: rest =>
    let digits := rest.takeWhile isDigit
    if digits = [] then (0, cs) else (nanoseconds digits, rest.dropWhile isDigit)
  | _ => (0, cs)

/-- Read a time of day. -/
def readClock (cs : List Char) : Option (Clock × List Char) := do
  let (hour, cs) ← readDigits 2 0 23 cs
  let cs ← readChar ':' cs
  let (minute, cs) ← readDigits 2 0 59 cs
  let cs ← readChar ':' cs
  let (second, cs) ← readDigits 2 0 60 cs
  let (nanosecond, cs) := readFraction cs
  return (⟨hour, minute, second, nanosecond⟩, cs)

/-- Read hours and minutes of an offset. -/
def readOffsetSize (cs : List Char) : Option (Nat × List Char) := do
  let (hours, cs) ← readDigits 2 0 23 cs
  let cs ← readChar ':' cs
  let (minutes, cs) ← readDigits 2 0 59 cs
  return (hours * 60 + minutes, cs)

/-- Read an offset, if there is one; a sign that no offset follows is an error. -/
def readOffset (cs : List Char) : Option (Option Offset × List Char) :=
  match cs with
  | c :: rest =>
    if c = 'Z' ∨ c = 'z' then some (some .zulu, rest)
    else if c = '+' then (readOffsetSize rest).map fun p => (some (.minutes p.1), p.2)
    else if c = '-' then (readOffsetSize rest).map fun p => (some (.minutes (-(p.1 : Int))), p.2)
    else some (none, cs)
  | [] => some (none, cs)

/-- Read the time that follows a day, if one does. -/
def readAfterDate (date : Date) (cs : List Char) : Option (Moment × List Char) :=
  let dateOnly := some (⟨some date, none, none⟩, cs)
  match cs with
  | c :: rest =>
    if c = 'T' ∨ c = 't' ∨ c = ' ' then
      match readClock rest with
      | none => dateOnly
      | some (clock, rest) =>
        (readOffset rest).map fun p => (⟨some date, some clock, p.1⟩, p.2)
    else dateOnly
  | [] => dateOnly

/-- Read a date or time. -/
def readMoment (cs : List Char) : Option (Moment × List Char) :=
  match readDate cs with
  | some (date, rest) => readAfterDate date rest
  | none => (readClock cs).map fun p => (⟨none, some p.1, none⟩, p.2)

end OlapClient.Toml
