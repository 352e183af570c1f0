namespace OlapClient

/-!
# Texts in parts

* `splitAt` — the parts of a text between separators.
-/

/-- The parts of a text between the characters that separate them. There is one more part than there
are separators. -/
def splitAt (p : Char → Bool) (cs : List Char) : List (List Char) :=
  cs.foldr (fun c parts =>
    if p c then [] :: parts
    else match parts with
      | [] => [[c]]
      | part :: more => (c :: part) :: more) [[]]

end OlapClient
