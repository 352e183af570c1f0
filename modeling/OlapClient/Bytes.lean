namespace OlapClient

/-!
# Byte sequences

* `Bytes` — what travels over the wire and lies in files.
* `Bytes.hex` — two lower-case digits per byte.
* `Bytes.ofNat64` / `Bytes.toNat` — the eight byte big-endian form of a length, and its value.
* `total` — the sum of numbers.
* `trimBy`, `trimEndBy` — a list without the elements of a class at its ends.
-/

/-- A finite sequence of bytes. -/
abbrev Bytes := List UInt8

/-- The lower-case hexadecimal digit of a value below sixteen. -/
def hexDigit (n : Nat) : Char :=
  if n < 10 then Char.ofNat (48 + n) else Char.ofNat (87 + n)

/-- The value of a hexadecimal digit, in either case. -/
def hexValue? (c : Char) : Option Nat :=
  if '0' ≤ c ∧ c ≤ '9' then some (c.toNat - 48)
  else if 'a' ≤ c ∧ c ≤ 'f' then some (c.toNat - 87)
  else if 'A' ≤ c ∧ c ≤ 'F' then some (c.toNat - 55)
  else none

/-- Two lower-case hexadecimal digits per byte, the high half first. -/
def Bytes.hexChars (bs : Bytes) : List Char :=
  bs.flatMap fun b => [hexDigit (b.toNat / 16), hexDigit (b.toNat % 16)]

/-- The lower-case hexadecimal text of a byte sequence. -/
def Bytes.hex (bs : Bytes) : String :=
  String.ofList (Bytes.hexChars bs)

/-- The byte at weight `256 ^ k` of a number. -/
def byteAt (n k : Nat) : UInt8 :=
  UInt8.ofNat (n / Nat.pow 256 k)

/-- Eight bytes, most significant first; a number of 64 bits is kept whole. -/
def Bytes.ofNat64 (n : Nat) : Bytes :=
  [byteAt n 7, byteAt n 6, byteAt n 5, byteAt n 4, byteAt n 3, byteAt n 2, byteAt n 1, byteAt n 0]

/-- The number that a byte sequence spells, most significant byte first. -/
def Bytes.toNat (bs : Bytes) : Nat :=
  bs.foldl (fun n b => n * 256 + b.toNat) 0

/-- The sum of numbers. -/
def total (ns : List Nat) : Nat :=
  ns.foldr (· + ·) 0

/-- A list without its trailing elements of a class. -/
def trimEndBy {α : Type} (p : α → Bool) (xs : List α) : List α :=
  (xs.reverse.dropWhile p).reverse

/-- A list without its leading and trailing elements of a class. -/
def trimBy {α : Type} (p : α → Bool) (xs : List α) : List α :=
  trimEndBy p (xs.dropWhile p)

/-- Dropping leading elements makes no list longer. -/
theorem length_dropWhile_le {α : Type} (p : α → Bool) (xs : List α) :
    (xs.dropWhile p).length ≤ xs.length :=
  (List.dropWhile_suffix p).length_le

/-- What follows the first element that stays is shorter than the list. -/
theorem length_of_dropWhile_eq_cons {α : Type} {p : α → Bool} {xs ys : List α} {y : α}
    (h : xs.dropWhile p = y :: ys) : ys.length < xs.length := by
  have := length_dropWhile_le p xs
  rw [h] at this
  exact this

end OlapClient
