import OlapClient.Bytes

namespace OlapClient.Utf8

/-!
# UTF-8

* `encode` — the bytes of a text.
* `front` — what a byte sequence begins with: a character, the longest start of one that cannot
  go on, or a start that the end of the input cuts off.
* `decode` — the text of a byte sequence, or where it stops being UTF-8.
* `decodeLossy` — the same with U+FFFD for each maximal malformed stretch.
-/

/-- The bytes of a sequence of characters. -/
def encode (cs : List Char) : Bytes :=
  cs.flatMap String.utf8EncodeChar

/-- The bytes of a string. -/
def encodeString (s : String) : Bytes :=
  encode s.toList

/-- How many bytes a text takes. -/
def size (cs : List Char) : Nat :=
  total (cs.map Char.utf8Size)

/-- What follows a leading byte: how many bytes, and the range of the first of them. The ranges
rule out overlong forms, surrogates and values past the last code point. -/
structure Lead where
  more : Nat
  low : UInt8
  high : UInt8

/-- The leading bytes of multi-byte sequences. -/
def lead? (b : UInt8) : Option Lead :=
  if 0xC2 ≤ b ∧ b ≤ 0xDF then some ⟨1, 0x80, 0xBF⟩
  else if b = 0xE0 then some ⟨2, 0xA0, 0xBF⟩
  else if 0xE1 ≤ b ∧ b ≤ 0xEC then some ⟨2, 0x80, 0xBF⟩
  else if b = 0xED then some ⟨2, 0x80, 0x9F⟩
  else if 0xEE ≤ b ∧ b ≤ 0xEF then some ⟨2, 0x80, 0xBF⟩
  else if b = 0xF0 then some ⟨3, 0x90, 0xBF⟩
  else if 0xF1 ≤ b ∧ b ≤ 0xF3 then some ⟨3, 0x80, 0xBF⟩
  else if b = 0xF4 then some ⟨3, 0x80, 0x8F⟩
  else none

/-- The six payload bits of a continuation byte. -/
def payload (b : UInt8) : Nat :=
  b.toNat % 64

/-- A continuation byte. -/
def isContinuation (b : UInt8) : Bool :=
  0x80 ≤ b && b ≤ 0xBF

/-- What a byte sequence begins with. -/
inductive Front where
  /-- Nothing is left. -/
  | finished
  /-- A whole character. -/
  | char (c : Char) (rest : Bytes)
  /-- `width` bytes that begin no character in any continuation. -/
  | malformed (width : Nat) (rest : Bytes)
  /-- All that is left is a proper start of a character. -/
  | cut

/-- Read the front of a byte sequence. -/
def front : Bytes → Front
  | [] => .finished
  | b0 :: r0 =>
    if b0 < 0x80 then .char (Char.ofNat b0.toNat) r0
    else match lead? b0 with
      | none => .malformed 1 r0
      | some lead =>
        match r0 with
        | [] => .cut
        | b1 :: r1 =>
          if b1 < lead.low ∨ lead.high < b1 then .malformed 1 (b1 :: r1)
          else if lead.more = 1 then
            .char (Char.ofNat (b0.toNat % 32 * 64 + payload b1)) r1
          else match r1 with
            | [] => .cut
            | b2 :: r2 =>
              if !isContinuation b2 then .malformed 2 (b2 :: r2)
              else if lead.more = 2 then
                .char (Char.ofNat (b0.toNat % 16 * 4096 + payload b1 * 64 + payload b2)) r2
              else match r2 with
                | [] => .cut
                | b3 :: r3 =>
                  if !isContinuation b3 then .malformed 3 (b3 :: r3)
                  else .char (Char.ofNat (b0.toNat % 8 * 262144 + payload b1 * 4096
                    + payload b2 * 64 + payload b3)) r3

theorem front_char_lt {bs rest : Bytes} {c : Char} (h : front bs = .char c rest) :
    rest.length < bs.length := by
  unfold front at h
  repeat' split at h
  all_goals (cases h <;> simp only [List.length_cons] <;> omega)

theorem front_malformed_lt {bs rest : Bytes} {n : Nat} (h : front bs = .malformed n rest) :
    rest.length < bs.length := by
  unfold front at h
  repeat' split at h
  all_goals (cases h <;> simp only [List.length_cons] <;> omega)

/-- Where a byte sequence stops being UTF-8: `width` is absent when the input ends inside a
character. -/
structure Malformed where
  index : Nat
  width : Option Nat
deriving DecidableEq, Repr

/-- The report of a malformed sequence. -/
def Malformed.message (e : Malformed) : String :=
  match e.width with
  | some n => "invalid utf-8 sequence of " ++ toString n ++ " bytes from index " ++ toString e.index
  | none => "incomplete utf-8 byte sequence from index " ++ toString e.index

/-- The text of the bytes, whose first stands at `index` of the whole input. -/
def decodeFrom (index : Nat) (bs : Bytes) : Except Malformed (List Char) :=
  match h : front bs with
  | .finished => .ok []
  | .char c rest =>
    have := front_char_lt h
    (decodeFrom (index + c.utf8Size) rest).map (c :: ·)
  | .malformed n _ => .error ⟨index, some n⟩
  | .cut => .error ⟨index, none⟩
termination_by bs.length

/-- The text of a byte sequence. -/
def decode (bs : Bytes) : Except Malformed (List Char) :=
  decodeFrom 0 bs

/-- The text of a byte sequence with the replacement character for each malformed stretch. -/
def decodeLossy (bs : Bytes) : List Char :=
  match h : front bs with
  | .finished => []
  | .char c rest =>
    have := front_char_lt h
    c :: decodeLossy rest
  | .malformed _ rest =>
    have := front_malformed_lt h
    '\uFFFD' :: decodeLossy rest
  | .cut => ['\uFFFD']
termination_by bs.length

/-- The string of a byte sequence, malformed stretches replaced. -/
def lossyString (bs : Bytes) : String :=
  String.ofList (decodeLossy bs)

/-- The string of a byte sequence that is UTF-8. -/
def string? (bs : Bytes) : Option String :=
  match decode bs with
  | .ok cs => some (String.ofList cs)
  | .error _ => none

end OlapClient.Utf8
