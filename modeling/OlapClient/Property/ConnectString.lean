import OlapClient.Property.NameMap
import OlapClient.Text.Blank
import OlapClient.Text.Utf8

namespace OlapClient.ConnectString

/-!
# Connect strings

A connect string is one line of `key=value` segments between semicolons, after an optional
`jdbc:xmla:`. A value may stand in quotes, where a quote is written twice.

* `readSegment` — one segment and what follows it.
* `pairs` — the segments of a text, from left to right.
* `parse` — the property map of a connect string, or the first problem and its byte position.
* `render` — a connect string of a property map.
-/

/-- What is wrong with a connect string. -/
inductive Problem where
  /-- A key that no `=` follows. -/
  | missingEquals (key : String)
  | emptyKey
  /-- A quoted value that does not end. -/
  | unterminated
  /-- Something other than blanks after a quoted value. -/
  | unexpected (c : Char)
deriving DecidableEq, Repr

/-- The wording of a problem. -/
def Problem.reason : Problem → String
  | .missingEquals key => "expected '=' after key '" ++ key ++ "'"
  | .emptyKey => "empty key"
  | .unterminated => "unterminated quoted value"
  | .unexpected c => "unexpected '" ++ c.toString ++ "' after quoted value"

/-- A problem, and the rest of the input from the place it is reported at. -/
structure Failure where
  rest : List Char
  problem : Problem
deriving DecidableEq, Repr

/-- A problem at a byte position. -/
structure Error where
  position : Nat
  problem : Problem
deriving DecidableEq, Repr

/-- The report of a malformed connect string. -/
def Error.message (e : Error) : String :=
  "invalid connect string at position " ++ toString e.position ++ ": " ++ e.problem.reason

/-! ### Reading -/

/-- The text that may precede the segments, in lower case. -/
def scheme : List Char :=
  ['j', 'd', 'b', 'c', ':', 'x', 'm', 'l', 'a', ':']

/-- A text without the scheme it may begin with, in any case. -/
def withoutScheme (cs : List Char) : List Char :=
  if (cs.take scheme.length).map lowerAscii = scheme then cs.drop scheme.length else cs

/-- What may stand before a segment and after the last. -/
def isGap (c : Char) : Bool :=
  c == ';' || isBlank c

/-- A character that ends a key. -/
def endsKey (c : Char) : Bool :=
  c == '=' || c == ';'

/-- The rest of a quoted value: its text, with doubled quotes as one, and what follows it. -/
def readQuoted : List Char → Option (List Char × List Char)
  | [] => none
  | '"' :: '"' :: rest => (readQuoted rest).map fun r => ('"' :: r.1, r.2)
  | '"' :: rest => some ([], rest)
  | c :: rest => (readQuoted rest).map fun r => (c :: r.1, r.2)

/-- Read a value: quoted, with nothing but blanks after it, or plain, which is trimmed. -/
def readValue (cs : List Char) : Except Failure (List Char × List Char) :=
  match cs with
  | '"' :: quoted =>
    match readQuoted quoted with
    | none => .error ⟨cs, .unterminated⟩
    | some (text, rest) =>
      match rest.dropWhile isBlank with
      | [] => .ok (text, [])
      | c :: after => if c = ';' then .ok (text, c :: after) else .error ⟨c :: after, .unexpected c⟩
  | _ => .ok (trimChars (cs.takeWhile (· != ';')), cs.dropWhile (· != ';'))

/-- Read a segment: a trimmed key, `=`, and a value. -/
def readSegment (cs : List Char) : Except Failure ((String × String) × List Char) :=
  let key := trimChars (cs.takeWhile (!endsKey ·))
  match cs.dropWhile (!endsKey ·) with
  | '=' :: after =>
    if key = [] then .error ⟨cs, .emptyKey⟩
    else
      match readValue (after.dropWhile isBlank) with
      | .error e => .error e
      | .ok (value, rest) => .ok ((String.ofList key, String.ofList value), rest)
  | _ => .error ⟨cs, .missingEquals (String.ofList key)⟩

theorem readQuoted_length {cs text rest : List Char} (h : readQuoted cs = some (text, rest)) :
    rest.length < cs.length := by
  fun_induction readQuoted cs generalizing text rest with
  | case1 => cases h
  | case2 r ih =>
    obtain ⟨⟨t, u⟩, hr, heq⟩ := Option.map_eq_some_iff.1 h
    cases heq
    have := ih hr
    simp only [List.length_cons]
    omega
  | case3 r => cases h; exact Nat.lt_succ_self _
  | case4 c r _ _ ih =>
    obtain ⟨⟨t, u⟩, hr, heq⟩ := Option.map_eq_some_iff.1 h
    cases heq
    have := ih hr
    simp only [List.length_cons]
    omega

theorem readValue_length {cs value rest : List Char} (h : readValue cs = .ok (value, rest)) :
    rest.length ≤ cs.length := by
  unfold readValue at h
  split at h
  · split at h
    · cases h
    · rename_i r hq
      have h1 := readQuoted_length hq
      split at h
      · cases h; exact Nat.zero_le _
      · rename_i c after hd
        have h2 := length_dropWhile_le isBlank r
        rw [hd] at h2
        split at h
        · cases h
          simp only [List.length_cons] at h2 ⊢
          omega
        · cases h
  · cases h
    exact length_dropWhile_le _ cs

theorem readSegment_length {cs rest : List Char} {pair : String × String}
    (h : readSegment cs = .ok (pair, rest)) : rest.length < cs.length := by
  unfold readSegment at h
  dsimp only at h
  split at h
  · rename_i after hd
    have h1 := length_dropWhile_le (!endsKey ·) cs
    rw [hd, List.length_cons] at h1
    split at h
    · cases h
    · split at h
      · cases h
      · rename_i hv
        cases h
        have h2 := readValue_length hv
        have h3 := length_dropWhile_le isBlank after
        omega
  · cases h

/-- The segments of a text, from left to right. -/
def pairs (cs : List Char) : Except Failure (List (String × String)) :=
  match hg : cs.dropWhile isGap with
  | [] => .ok []
  | c :: tail =>
    match h : readSegment (c :: tail) with
    | .error e => .error e
    | .ok (pair, rest) =>
      have : rest.length < cs.length := by
        have h1 := readSegment_length h
        have h2 := length_dropWhile_le isGap cs
        rw [hg] at h2
        omega
      (pairs rest).map (pair :: ·)
termination_by cs.length

/-- The property map of a connect string. A problem is reported at its byte position. -/
def parse (input : String) : Except Error PropertyMap :=
  let cs := input.toList
  match pairs (withoutScheme cs) with
  | .error e => .error ⟨Utf8.size cs - Utf8.size e.rest, e.problem⟩
  | .ok ps => .ok (NameMap.ofPairs ps)

/-! ### Writing -/

/-- Whether a value has to stand in quotes. -/
def needsQuotes (value : List Char) : Bool :=
  value.any (fun c => c == ';' || c == '"') || value.head?.any isBlank || value.getLast?.any isBlank

/-- A text with each quote written twice. -/
def doubleQuotes (value : List Char) : List Char :=
  value.flatMap fun c => if c = '"' then ['"', '"'] else [c]

/-- The written form of a value. -/
def renderValue (value : List Char) : List Char :=
  if needsQuotes value then '"' :: doubleQuotes value ++ ['"'] else value

/-- The written form of one property. -/
def renderPair (p : String × String) : List Char :=
  p.1.toList ++ '=' :: renderValue p.2.toList

/-- The properties in the order of their names, with a semicolon between any two. -/
def render (properties : PropertyMap) : String :=
  String.ofList (List.intercalate [';'] (properties.toList.map renderPair))

end OlapClient.ConnectString
