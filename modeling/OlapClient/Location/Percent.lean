import OlapClient.Text.Utf8

namespace OlapClient.Location

/-!
# Percent encoding

* `EncodeSet` — a class of characters that are written as `%` and two upper-case digits per byte.
* `encode` — a text with the characters of a class written so.
* `decodePercent` — the bytes of a text, with such triples read as single bytes.
-/

/-- A class of ASCII characters. Characters outside ASCII are always encoded. -/
abbrev EncodeSet := Char → Bool

/-- Control characters. -/
def controlSet : EncodeSet := fun c =>
  c.toNat < 0x20 || c.toNat == 0x7F

/-- The class for fragments. -/
def fragmentSet : EncodeSet := fun c =>
  controlSet c || c == ' ' || c == '"' || c == '<' || c == '>' || c == '\x60'

/-- The class for paths. -/
def pathSet : EncodeSet := fun c =>
  fragmentSet c || c == '#' || c == '?' || c == '\x7b' || c == '\x7d'

/-- The class for user names and passwords. -/
def userSet : EncodeSet := fun c =>
  pathSet c || c == '/' || c == ':' || c == ';' || c == '=' || c == '@' || c == '[' || c == '\\'
    || c == ']' || c == '^' || c == '|'

/-- The class for queries. -/
def querySet : EncodeSet := fun c =>
  controlSet c || c == ' ' || c == '"' || c == '#' || c == '<' || c == '>'

/-- The class for queries of the special schemes. -/
def specialQuerySet : EncodeSet := fun c =>
  querySet c || c == '\''

/-- The triple of a byte. -/
def percentByte (b : UInt8) : List Char :=
  let digit (n : Nat) : Char := upperHex n
  ['%', digit (b.toNat / 16), digit (b.toNat % 16)]
where
  /-- The upper-case hexadecimal digit of a value below sixteen. -/
  upperHex (n : Nat) : Char := if n < 10 then Char.ofNat (48 + n) else Char.ofNat (55 + n)

/-- A character, encoded if it is of the class or outside ASCII. -/
def encodeChar (set : EncodeSet) (c : Char) : List Char :=
  if set c ∨ 0x80 ≤ c.toNat then (String.utf8EncodeChar c).flatMap percentByte else [c]

/-- A text with the characters of a class encoded. -/
def encode (set : EncodeSet) (cs : List Char) : List Char :=
  cs.flatMap (encodeChar set)

/-- The bytes of a text whose triples are read as single bytes. -/
def decodePercent : List Char → Bytes
  | '%' :: a :: b :: rest =>
    match hexValue? a, hexValue? b with
    | some x, some y => UInt8.ofNat (x * 16 + y) :: decodePercent rest
    | _, _ => String.utf8EncodeChar '%' ++ decodePercent (a :: b :: rest)
  | c :: rest => String.utf8EncodeChar c ++ decodePercent rest
  | [] => []

end OlapClient.Location
