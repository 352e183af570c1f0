import OlapClient.Location.Domain.Direction
import OlapClient.Location.Domain.Joining
import OlapClient.Location.Domain.Mark
import OlapClient.Location.Domain.Normal
import OlapClient.Location.Domain.Permitted
import OlapClient.Location.Domain.Punycode
import OlapClient.Text.Split

namespace OlapClient.Location.Domain

/-!
# Labels of domains

* `decodedLabel?` — the text that a label in ASCII stands for, if it stands for one.
* `isWellFormed` — whether every label of a domain in ASCII does.
-/

/-- What begins a label that stands for a text beyond ASCII. -/
def encodedMark : List Char := ['x', 'n', '-', '-']

/-- The longest encoded text that is decoded, in characters. -/
def longestEncoded : Nat := 2000

/-- The longest text that a label may stand for, in characters. -/
def longestLabel : Nat := 1000

/-- Whether a decoded text may be a label: its characters are permitted and in normal form, it does
not begin with a mark, and its joiners have a place. -/
def isLabel (cs : List Char) : Bool :=
  cs.all isPermitted && isNormal cs && !(cs.head?.any marks.contains)
    && hasFittingJoiners cs && cs.length ≤ longestLabel

/-- The text that a label in lower case stands for. -/
def decodedLabel? (label : List Char) : Option (List Char) :=
  if encodedMark.isPrefixOf label then
    let encoded := label.drop encodedMark.length
    if label.getLast? = some '-' ∨ longestEncoded < encoded.length then none
    else (Punycode.decode? encoded).filter isLabel
  else some label

/-- Whether every label of a domain in lower case stands for a text. If any of them is partly
written from right to left, all follow the rule for that. -/
def isWellFormed (domain : List Char) : Bool :=
  match (splitAt (· == '.') domain).mapM decodedLabel? with
  | none => false
  | some labels => !(labels.any isPartlyRightToLeft) || labels.all isOrdered

end OlapClient.Location.Domain
