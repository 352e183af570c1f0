namespace OlapClient

/-!
# Sets and classes of characters

The characters of a standard are listed by the code points at which something changes.

* `CharSet` — a set of characters, by the code points at which membership changes.
* `CharClasses` — a class for every character, by the code points at which a new class begins.
-/

/-- A set of characters: the code points at which membership changes, in rising order. No character
below the first one is in the set. -/
structure CharSet where
  points : List Nat
deriving DecidableEq, Repr

namespace CharSet

/-- Whether a code point is in, if what lies before the given changes is in just if `inside`. -/
def isInside (n : Nat) (inside : Bool) : List Nat → Bool
  | [] => inside
  | point :: more => if point ≤ n then isInside n (!inside) more else inside

/-- Whether a character is in a set. -/
def contains (s : CharSet) (c : Char) : Bool :=
  isInside c.toNat false s.points

end CharSet

/-- A class for every character: the code points at which a new class begins, in rising order, and
the class before the first one. -/
structure CharClasses (α : Type) where
  first : α
  runs : List (Nat × α)
deriving DecidableEq, Repr

namespace CharClasses

/-- The class of a code point, if that of what lies before the given runs is `current`. -/
def classFrom {α : Type} (n : Nat) (current : α) : List (Nat × α) → α
  | [] => current
  | run :: more => if run.1 ≤ n then classFrom n run.2 more else current

/-- The class of a character. -/
def classOf {α : Type} (s : CharClasses α) (c : Char) : α :=
  classFrom c.toNat s.first s.runs

end CharClasses

end OlapClient
