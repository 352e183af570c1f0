import OlapClient.Markup.Reference

namespace OlapClient.Markup

/-!
# Tags and attributes

* `Tag` — the raw name of a tag and what stands after it.
* `localName` — the part of a name after its first colon.
* `Tag.attributes` — the attributes that are spelled correctly, in order.
* `Tag.attribute?` — the value of the first attribute with a given local name.
-/

/-- The white space of markup: space, tab, carriage return and line feed. -/
def isSpace (b : UInt8) : Bool :=
  b == 0x20 || b == 0x09 || b == 0x0D || b == 0x0A

/-- The part of a name after its first colon, or all of it. -/
def localPart (name : Bytes) : Bytes :=
  match name.dropWhile (· != 0x3A) with
  | [] => name
  | _ :: rest => rest

/-- The local name as text. -/
def localName (name : Bytes) : String :=
  Utf8.lossyString (localPart name)

/-- A start tag or an empty tag: its name up to the first white space, and the raw rest. -/
structure Tag where
  name : Bytes
  rest : Bytes
deriving DecidableEq, Repr

/-- The tag with the given text between its angle brackets. -/
def Tag.ofContent (content : Bytes) : Tag :=
  ⟨content.takeWhile (!isSpace ·), content.dropWhile (!isSpace ·)⟩

/-- The local name of a tag. -/
def Tag.localName (t : Tag) : String :=
  Markup.localName t.name

/-- An attribute with its raw value. -/
structure Attribute where
  key : Bytes
  value : Bytes
deriving DecidableEq, Repr

/-- A byte that ends the key of an attribute. -/
def endsKey (b : UInt8) : Bool :=
  b == 0x3D || isSpace b

/-- The quotation marks. -/
def isQuote (b : UInt8) : Bool :=
  b == 0x22 || b == 0x27

/-- What scanning for one attribute finds: the attribute, if it is spelled correctly, its key once
an `=` follows it, and where to go on. -/
structure Scanned where
  found : Option Attribute
  key : Option Bytes
  rest : Bytes

/-- Scan one attribute at a key that begins with `first`. `seen` holds the earlier keys.

A key without `=` is passed over. A key seen before and a value without quotes are passed over up
to the next white space. A value whose quote does not close takes all that is left. -/
def scanAttribute (seen : List Bytes) (first : UInt8) (rest : Bytes) : Scanned :=
  let key := first :: rest.takeWhile (!endsKey ·)
  match (rest.dropWhile (!endsKey ·)).dropWhile isSpace with
  | [] => ⟨none, none, []⟩
  | b :: after =>
    if b != 0x3D then ⟨none, none, b :: after⟩
    else if key ∈ seen then ⟨none, some key, after.dropWhile (!isSpace ·)⟩
    else match after.dropWhile isSpace with
      | [] => ⟨none, some key, []⟩
      | q :: text =>
        if isQuote q then
          match text.dropWhile (· != q) with
          | [] => ⟨none, some key, []⟩
          | _ :: left => ⟨some ⟨key, text.takeWhile (· != q)⟩, some key, left⟩
        else ⟨none, some key, text.dropWhile (!isSpace ·)⟩

theorem scanAttribute_length (seen : List Bytes) (first : UInt8) (rest : Bytes) :
    (scanAttribute seen first rest).rest.length ≤ rest.length := by
  have hle := length_dropWhile_le (!endsKey ·) rest
  unfold scanAttribute
  dsimp only
  split
  · simp
  · rename_i b after hafter
    have h1 := length_of_dropWhile_eq_cons hafter
    have h2 := length_dropWhile_le (!isSpace ·) after
    repeat' split
    · simp only [List.length_cons]; omega
    · dsimp only; omega
    · simp
    · simp
    · rename_i hq _ _ _ left hleft
      have h3 := length_of_dropWhile_eq_cons hq
      have h4 := length_of_dropWhile_eq_cons hleft
      dsimp only; omega
    · rename_i text hq _
      have h3 := length_of_dropWhile_eq_cons hq
      have h4 := length_dropWhile_le (!isSpace ·) text
      dsimp only; omega

/-- The well spelled attributes of a raw text, given the keys before it. -/
def attributesFrom (seen : List Bytes) (raw : Bytes) : List Attribute :=
  match h : raw.dropWhile isSpace with
  | [] => []
  | first :: rest =>
    let scanned := scanAttribute seen first rest
    have : scanned.rest.length < raw.length := by
      have h1 := scanAttribute_length seen first rest
      have h2 := length_of_dropWhile_eq_cons h
      exact Nat.lt_of_le_of_lt h1 h2
    scanned.found.toList ++ attributesFrom (scanned.key.toList ++ seen) scanned.rest
termination_by raw.length

/-- The well spelled attributes of a tag. -/
def Tag.attributes (t : Tag) : List Attribute :=
  attributesFrom [] t.rest

/-- The value of the first attribute with this local name. An attribute whose value cannot be read
counts as absent. -/
def Tag.attribute? (t : Tag) (name : String) : Option String :=
  match t.attributes.find? (fun a => Markup.localName a.key == name) with
  | none => none
  | some a =>
    match characters a.value with
    | .ok s => some s
    | .error _ => none

end OlapClient.Markup
