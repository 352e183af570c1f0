import OlapClient.Text.Utf8
import OlapClient.Text.Quoted

namespace OlapClient.Markup

/-!
# Escaped text

The five named references and the numeric ones stand for single characters.

* `escape` — the five special characters as named references.
* `unescape` — reading a text with references; its errors give byte ranges within that text.
* `characters` — the same for a raw byte sequence, which must be UTF-8.
-/

/-- A character with the special ones written as references. -/
def escapeChar (c : Char) : List Char :=
  if c = '<' then "&lt;".toList
  else if c = '>' then "&gt;".toList
  else if c = '&' then "&amp;".toList
  else if c = '\'' then "&apos;".toList
  else if c = '"' then "&quot;".toList
  else [c]

/-- A text with each special character written as a reference. -/
def escape (cs : List Char) : List Char :=
  cs.flatMap escapeChar

/-- The string form of `escape`. -/
def escapeString (s : String) : String :=
  String.ofList (escape s.toList)

/-- Why a text with references cannot be read. Ranges count bytes of the text. -/
inductive ReferenceError where
  /-- No `;` ends what an `&` began; the range runs to the end of the text. -/
  | unterminated (start stop : Nat)
  /-- The name between `&` and `;` is none of the five. -/
  | unknownName (start stop : Nat) (name : String)
  /-- A numeric reference to the null character. -/
  | nullCharacter (start stop : Nat)
  /-- More than six hexadecimal digits. -/
  | longHexadecimal
  /-- More than seven decimal digits. -/
  | longDecimal
  | notHexadecimal (c : Char)
  | notDecimal (c : Char)
  /-- A number that is no Unicode scalar value. -/
  | notScalar (n : Nat)
deriving DecidableEq, Repr

/-- The wording of a range of bytes. -/
def rangeText (start stop : Nat) : String :=
  "Error while escaping character at range " ++ toString start ++ ".." ++ toString stop

/-- The report of an unreadable reference. -/
def ReferenceError.message : ReferenceError → String
  | .unterminated a b => rangeText a b ++ ": Cannot find ';' after '&'"
  | .unknownName a b name =>
    rangeText a b ++ ": Unrecognized escape symbol: " ++ Text.quoted name
  | .nullCharacter a b => rangeText a b ++ ": Null character entity not allowed"
  | .longHexadecimal => "Cannot convert hexadecimal to utf8"
  | .longDecimal => "Cannot convert decimal to utf8"
  | .notHexadecimal c => "'" ++ c.toString ++ "' is not a valid hexadecimal character"
  | .notDecimal c => "'" ++ c.toString ++ "' is not a valid decimal character"
  | .notScalar n => "'" ++ toString n ++ "' is not a valid codepoint"

/-- The number that the bytes of a digit string spell, most significant first. A byte that is no
digit is reported as the character of that value. -/
def digitsValue (base : Nat) (digit? : Char → Option Nat) (bad : Char → ReferenceError) :
    Nat → Bytes → Except ReferenceError Nat
  | n, [] => .ok n
  | n, b :: rest =>
    let c := Char.ofNat b.toNat
    match digit? c with
    | some d => digitsValue base digit? bad (n * base + d) rest
    | none => .error (bad c)

/-- The value of a decimal digit. -/
def decimalValue? (c : Char) : Option Nat :=
  if '0' ≤ c ∧ c ≤ '9' then some (c.toNat - 48) else none

/-- The code point of a numeric reference, given what follows its `#`. -/
def codePoint (digits : List Char) : Except ReferenceError Nat :=
  match digits with
  | 'x' :: hex =>
    let bytes := Utf8.encode hex
    if 6 < bytes.length then .error .longHexadecimal
    else digitsValue 16 hexValue? .notHexadecimal 0 bytes
  | _ =>
    let bytes := Utf8.encode digits
    if 7 < bytes.length then .error .longDecimal
    else digitsValue 10 decimalValue? .notDecimal 0 bytes

/-- The character of a code point, unless the number is a surrogate or too large. -/
def scalar? (n : Nat) : Option Char :=
  if n < 0xD800 ∨ (0xDFFF < n ∧ n < 0x110000) then some (Char.ofNat n) else none

/-- The character that a reference stands for. `start` is the place of its `&`. -/
def resolve (start : Nat) (name : List Char) : Except ReferenceError Char :=
  let stop := start + 1 + Utf8.size name
  match name with
  | '#' :: digits => do
    let n ← codePoint digits
    if n = 0 then throw (.nullCharacter start stop)
    match scalar? n with
    | some c => pure c
    | none => throw (.notScalar n)
  | _ =>
    if name = "lt".toList then .ok '<'
    else if name = "gt".toList then .ok '>'
    else if name = "amp".toList then .ok '&'
    else if name = "apos".toList then .ok '\''
    else if name = "quot".toList then .ok '"'
    else .error (.unknownName (start + 1) stop (String.ofList name))

/-- The characters that end the name of a reference, or show that it has no end. -/
def endsName (c : Char) : Bool :=
  c == ';' || c == '&'

/-- Read the text that begins `start` bytes into one of `total` bytes. -/
def unescapeFrom (total start : Nat) (cs : List Char) : Except ReferenceError (List Char) :=
  match cs with
  | [] => .ok []
  | c :: rest =>
    if c = '&' then
      let name := rest.takeWhile (!endsName ·)
      match h : rest.dropWhile (!endsName ·) with
      | ';' :: after =>
        have : after.length < rest.length := by
          have := (List.dropWhile_suffix (l := rest) (!endsName ·)).length_le
          simp only [h, List.length_cons] at this
          omega
        match resolve start name with
        | .error e => .error e
        | .ok d => (unescapeFrom total (start + 2 + Utf8.size name) after).map (d :: ·)
      | _ => .error (.unterminated start total)
    else (unescapeFrom total (start + c.utf8Size) rest).map (c :: ·)
termination_by cs.length

/-- Read a text with references. -/
def unescape (cs : List Char) : Except ReferenceError (List Char) :=
  unescapeFrom (Utf8.size cs) 0 cs

/-- Why raw character data cannot be read. -/
inductive TextError where
  | malformed (e : Utf8.Malformed)
  | reference (e : ReferenceError)
deriving DecidableEq, Repr

/-- The report of unreadable character data. -/
def TextError.message : TextError → String
  | .malformed e => "Malformed UTF-8 input: " ++ e.message
  | .reference e => e.message

/-- The text of raw character data. -/
def characters (raw : Bytes) : Except TextError String :=
  match Utf8.decode raw with
  | .error e => .error (.malformed e)
  | .ok cs =>
    match unescape cs with
    | .error e => .error (.reference e)
    | .ok ds => .ok (String.ofList ds)

end OlapClient.Markup
