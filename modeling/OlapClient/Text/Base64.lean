import OlapClient.Bytes

namespace OlapClient.Base64

/-!
# Base64

* `encode` — three bytes as four characters; a shorter rest is filled up with `=`.
-/

/-- The character of a value below sixty-four. -/
def digit (n : Nat) : Char :=
  if n < 26 then Char.ofNat (65 + n)
  else if n < 52 then Char.ofNat (71 + n)
  else if n < 62 then Char.ofNat (n - 4)
  else if n = 62 then '+' else '/'

/-- The four characters of a number of twenty-four bits. -/
def group (n : Nat) : List Char :=
  [digit (n / 262144), digit (n / 4096 % 64), digit (n / 64 % 64), digit (n % 64)]

/-- The text of a byte sequence. -/
def encode : Bytes → List Char
  | a :: b :: c :: rest => group (a.toNat * 65536 + b.toNat * 256 + c.toNat) ++ encode rest
  | [a, b] => (group (a.toNat * 65536 + b.toNat * 256)).take 3 ++ ['=']
  | [a] => (group (a.toNat * 65536)).take 2 ++ ['=', '=']
  | [] => []

end OlapClient.Base64
