import OlapClient.Bytes

namespace OlapClient

/-!
# Blanks and ASCII case

* `isBlank` — the characters with the Unicode property White_Space.
* `trim` — a string without leading and trailing blanks.
* `eqIgnoringCase` — equality of texts up to the case of ASCII letters.
-/

/-- The characters with the Unicode property White_Space. -/
def isBlank (c : Char) : Bool :=
  let n := c.toNat
  (9 ≤ n && n ≤ 13) || n == 0x20 || n == 0x85 || n == 0xA0 || n == 0x1680
    || (0x2000 ≤ n && n ≤ 0x200A) || n == 0x2028 || n == 0x2029 || n == 0x202F || n == 0x205F
    || n == 0x3000

/-- A text without leading and trailing blanks. -/
def trimChars (cs : List Char) : List Char :=
  trimBy isBlank cs

/-- A string without leading and trailing blanks. -/
def trim (s : String) : String :=
  String.ofList (trimChars s.toList)

/-- The trimmed string, unless nothing is left of it. -/
def nonBlank? (s : String) : Option String :=
  let t := trim s
  if t = "" then none else some t

/-- An ASCII decimal digit. -/
def isDigit (c : Char) : Bool :=
  '0' ≤ c && c ≤ '9'

/-- An ASCII letter. -/
def isAsciiLetter (c : Char) : Bool :=
  ('a' ≤ c && c ≤ 'z') || ('A' ≤ c && c ≤ 'Z')

/-- An ASCII letter in lower case; every other character as it is. -/
def lowerAscii (c : Char) : Char :=
  if 'A' ≤ c ∧ c ≤ 'Z' then Char.ofNat (c.toNat + 32) else c

/-- An ASCII letter in upper case; every other character as it is. -/
def upperAscii (c : Char) : Char :=
  if 'a' ≤ c ∧ c ≤ 'z' then Char.ofNat (c.toNat - 32) else c

/-- Lower case of the ASCII letters of a string. -/
def lowerString (s : String) : String :=
  String.ofList (s.toList.map lowerAscii)

/-- Upper case of the ASCII letters of a string. -/
def upperString (s : String) : String :=
  String.ofList (s.toList.map upperAscii)

/-- Equality up to the case of ASCII letters. -/
def eqIgnoringCase (s t : String) : Bool :=
  lowerString s == lowerString t

end OlapClient
