import OlapClient.Markup.Reference

namespace OlapClient.Markup

/-!
# Characters in element names

A character that may not stand in an element name is written `_xHHHH_`, with its code point in four
hexadecimal digits. `unescapeName` reads such names.
-/

/-- The number of four hexadecimal digits. -/
def fourHex? (a b c d : Char) : Option Nat := do
  let a ← hexValue? a
  let b ← hexValue? b
  let c ← hexValue? c
  let d ← hexValue? d
  some (a * 4096 + b * 256 + c * 16 + d)

/-- What follows `_x`: the character of four digits and an underscore, and the rest. -/
def nameGroup? : List Char → Option (Char × List Char)
  | a :: b :: c :: d :: '_' :: rest =>
    match fourHex? a b c d with
    | none => none
    | some n => (scalar? n).map fun ch => (ch, rest)
  | _ => none

theorem nameGroup?_length {cs rest : List Char} {c : Char} (h : nameGroup? cs = some (c, rest)) :
    rest.length < cs.length := by
  unfold nameGroup? at h
  split at h
  · split at h
    · cases h
    · rename_i n _
      cases hs : scalar? n with
      | none => rw [hs] at h; cases h
      | some ch =>
        rw [hs] at h
        cases h
        simp only [List.length_cons]
        omega
  · cases h

/-- Put the characters back that `_xHHHH_` stands for, from left to right. What comes out is not
read again, and a group that names no character stays as it is. -/
def unescapeName (cs : List Char) : List Char :=
  match cs with
  | '_' :: 'x' :: rest =>
    match h : nameGroup? rest with
    | some (c, after) =>
      have := nameGroup?_length h
      c :: unescapeName after
    | none => '_' :: 'x' :: unescapeName rest
  | c :: rest => c :: unescapeName rest
  | [] => []
termination_by cs.length

/-- The string form of `unescapeName`. -/
def unescapeNameString (s : String) : String :=
  String.ofList (unescapeName s.toList)

end OlapClient.Markup
