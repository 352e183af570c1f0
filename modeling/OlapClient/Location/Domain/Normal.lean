import OlapClient.Location.Domain.CombiningClass
import OlapClient.Location.Domain.Composite

namespace OlapClient.Location.Domain

/-!
# Normal form

A letter with marks can be written in more than one way. The normal form puts marks into the order
of their classes and takes composite letters where there are any.

* `parts` — what a character stands for.
* `inOrder` — marks in the order of their classes.
* `composed` — letters and marks put together.
* `isNormal` — whether a text is in normal form.
-/

/-! ### Hangul -/

/-- The first syllable of Hangul. -/
def firstSyllable : Nat := 0xAC00

/-- The number of syllables. -/
def syllables : Nat := 11172

/-- The code point before the final consonants. -/
def beforeFinals : Nat := 0x11A7

/-- The parts of a syllable, by its number: a consonant, a vowel and perhaps a final consonant. -/
def syllableParts (n : Nat) : List Char :=
  [Char.ofNat (0x1100 + n / 588), Char.ofNat (0x1161 + n % 588 / 28)]
    ++ (if n % 28 = 0 then [] else [Char.ofNat (beforeFinals + n % 28)])

/-- The syllable of two parts: a consonant and a vowel, or a syllable without final consonant and
one. -/
def syllable? (a b : Char) : Option Char :=
  if 0x1100 ≤ a.toNat ∧ a.toNat < 0x1113 ∧ 0x1161 ≤ b.toNat ∧ b.toNat < 0x1176 then
    some (Char.ofNat (firstSyllable + (a.toNat - 0x1100) * 588 + (b.toNat - 0x1161) * 28))
  else if firstSyllable ≤ a.toNat ∧ a.toNat < firstSyllable + syllables
      ∧ (a.toNat - firstSyllable) % 28 = 0 ∧ beforeFinals < b.toNat ∧ b.toNat < 0x11C3 then
    some (Char.ofNat (a.toNat + (b.toNat - beforeFinals)))
  else none

/-! ### Decomposition and composition -/

/-- What a character stands for: its parts, or itself. -/
def parts (c : Char) : List Char :=
  if firstSyllable ≤ c.toNat ∧ c.toNat < firstSyllable + syllables then
    syllableParts (c.toNat - firstSyllable)
  else
    match composites.find? (·.1 == c.toNat) with
    | some entry => entry.2.map Char.ofNat
    | none => [c]

/-- The composite letter of a letter and what follows it. -/
def composite? (a b : Char) : Option Char :=
  match syllable? a b with
  | some c => some c
  | none =>
    let wanted := (parts a ++ [b]).map Char.toNat
    (composites.find? (·.2 == wanted)).map fun entry => Char.ofNat entry.1

/-- Put a character before marks of which those of lower classes go first. -/
def placeInOrder (c : Char) : List Char → List Char
  | [] => [c]
  | d :: rest =>
    if 0 < combiningClass d ∧ combiningClass d < combiningClass c then d :: placeInOrder c rest
    else c :: d :: rest

/-- A text with its marks in the order of their classes. Marks of one class keep their order. -/
def inOrder (cs : List Char) : List Char :=
  cs.foldr placeInOrder []

/-- Compose the text that follows a letter and the marks that it could not take, the last of which
has the given class. -/
def composedAfter (letter : Char) (marks : List Char) (last : Nat) : List Char → List Char
  | [] => letter :: marks
  | c :: rest =>
    match (if marks = [] ∨ last < combiningClass c then composite? letter c else none) with
    | some whole => composedAfter whole marks last rest
    | none =>
      if combiningClass c = 0 then letter :: marks ++ composedAfter c [] 0 rest
      else composedAfter letter (marks ++ [c]) (combiningClass c) rest

/-- A text whose letters and marks are put together as far as possible. -/
def composed : List Char → List Char
  | [] => []
  | c :: rest => if combiningClass c = 0 then composedAfter c [] 0 rest else c :: composed rest

/-- Whether a text of permitted characters is in normal form. -/
def isNormal (cs : List Char) : Bool :=
  composed (inOrder (cs.flatMap parts)) == cs

end OlapClient.Location.Domain
