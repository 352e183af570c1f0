import OlapClient.Text.Blank

namespace OlapClient.Toml

/-!
# Strings of TOML documents

A string has four written forms: in double or single quotes, on one line or on several. Only the
double ones know escapes.

* `writeKey`, `writeString` — the form of a key and of a value. A form without escapes is preferred.
* `readQuoted`, `readLiteral`, `readQuotedLines`, `readLiteralLines` — reading each form, from
  behind its opening quotes; each gives the string and what follows its closing quotes.
-/

/-! ### Characters -/

/-- A control character, of which the tab and the line break are none. -/
def isControl (c : Char) : Bool :=
  (c.toNat < 0x20 && c != '\t' && c != '\n') || c.toNat == 0x7F

/-- A character that may stand unescaped in strings and comments. -/
def isText (c : Char) : Bool :=
  !isControl c && c != '\n'

/-- A blank within a line. -/
def isSpace (c : Char) : Bool :=
  c == ' ' || c == '\t'

/-- A character of a key without quotes. -/
def isBareKey (c : Char) : Bool :=
  isAsciiLetter c || isDigit c || c == '_' || c == '-'

/-! ### Writing -/

/-- Whether a character stands three times in a row. -/
def hasTriple (q : Char) : List Char → Bool
  | a :: b :: c :: rest => (a == q && b == q && c == q) || hasTriple q (b :: c :: rest)
  | _ => false

/-- The four upper-case hexadecimal digits of a number below 65536. -/
def hexDigits4 (n : Nat) : List Char :=
  [n / 4096 % 16, n / 256 % 16, n / 16 % 16, n % 16].map fun d => upperAscii (hexDigit d)

/-- A character within double quotes, but for line breaks and quotes. -/
def escapeChar (c : Char) : List Char :=
  if c = '\x08' then ['\\', 'b']
  else if c = '\t' then ['\\', 't']
  else if c = '\x0c' then ['\\', 'f']
  else if c = '\r' then ['\\', 'r']
  else if c = '\\' then ['\\', '\\']
  else if isControl c then '\\' :: 'u' :: hexDigits4 c.toNat
  else [c]

/-- A string within double quotes on one line. -/
def escapeLine (cs : List Char) : List Char :=
  cs.flatMap fun c =>
    if c = '\n' then ['\\', 'n'] else if c = '"' then ['\\', '"'] else escapeChar c

/-- A string within double quotes on several lines. Of the quotes in a row that follow `quotes`
others, each third is escaped. -/
def escapeLines (quotes : Nat) : List Char → List Char
  | [] => []
  | c :: cs =>
    if c = '"' then
      if quotes = 2 then '\\' :: '"' :: escapeLines 0 cs else '"' :: escapeLines (quotes + 1) cs
    else (if c = '\n' then ['\n'] else escapeChar c) ++ escapeLines 0 cs

/-- The four written forms of a string. -/
inductive Form where
  | quoted
  | literal
  | quotedLines
  | literalLines
deriving DecidableEq, Repr

/-- The line break that follows the opening quotes of a string that has one itself. -/
def leadingBreak (cs : List Char) : List Char :=
  if '\n' ∈ cs then ['\n'] else []

/-- The quotes of a form. -/
def Form.quotes : Form → List Char
  | .quoted => ['"']
  | .literal => ['\'']
  | .quotedLines => ['"', '"', '"']
  | .literalLines => ['\'', '\'', '\'']

/-- What stands between the quotes. -/
def Form.content (form : Form) (cs : List Char) : List Char :=
  match form with
  | .quoted => escapeLine cs
  | .literal => cs
  | .quotedLines => leadingBreak cs ++ escapeLines 0 cs
  | .literalLines => leadingBreak cs ++ cs

/-- A string in a form. -/
def Form.write (form : Form) (cs : List Char) : List Char :=
  form.quotes ++ form.content cs ++ form.quotes

/-- Whether a string can stand on one line without escapes. -/
def onOneLine (cs : List Char) : Bool :=
  cs.all isText

/-- The form of a value: the first that needs no escapes. -/
def valueForm (cs : List Char) : Form :=
  if onOneLine cs && !cs.contains '\\' && !cs.contains '"' then .quoted
  else if onOneLine cs && !cs.contains '\'' then .literal
  else if !cs.any isControl && !cs.contains '\\' && !hasTriple '"' cs then .quotedLines
  else if !cs.any isControl && !hasTriple '\'' cs then .literalLines
  else if cs.contains '\n' then .quotedLines
  else .quoted

/-- The form of a key that is not bare. -/
def keyForm (cs : List Char) : Form :=
  if onOneLine cs && !cs.contains '\\' && !cs.contains '"' then .quoted
  else if onOneLine cs && !cs.contains '\'' then .literal
  else .quoted

/-- A string as a value. -/
def writeString (s : String) : List Char :=
  (valueForm s.toList).write s.toList

/-- A string as a key. -/
def writeKey (s : String) : List Char :=
  let cs := s.toList
  if cs ≠ [] ∧ cs.all isBareKey then cs else (keyForm cs).write cs

/-! ### Reading -/

/-- The number of a row of hexadecimal digits. -/
def hexNumber? (cs : List Char) : Option Nat :=
  cs.foldlM (fun n c => (hexValue? c).map fun d => n * 16 + d) 0

/-- The character of a row of hexadecimal digits. -/
def scalar? (cs : List Char) : Option Char :=
  (hexNumber? cs).bind fun n => if n.isValidChar then some (Char.ofNat n) else none

/-- The character of an escape, from behind its backslash, and what follows. -/
def readEscape : List Char → Option (Char × List Char)
  | 'b' :: rest => some ('\x08', rest)
  | 't' :: rest => some ('\t', rest)
  | 'n' :: rest => some ('\n', rest)
  | 'f' :: rest => some ('\x0c', rest)
  | 'r' :: rest => some ('\r', rest)
  | '"' :: rest => some ('"', rest)
  | '\\' :: rest => some ('\\', rest)
  | 'u' :: a :: b :: c :: d :: rest => (scalar? [a, b, c, d]).map (·, rest)
  | 'U' :: a :: b :: c :: d :: e :: f :: g :: h :: rest =>
    (scalar? [a, b, c, d, e, f, g, h]).map (·, rest)
  | _ => none

/-- An escape leaves less than it began with. -/
theorem length_of_readEscape {cs rest : List Char} {c : Char}
    (h : readEscape cs = some (c, rest)) : rest.length < cs.length := by
  unfold readEscape at h
  split at h <;> simp only [Option.some.injEq, Prod.mk.injEq, Option.map_eq_some_iff,
    reduceCtorEq] at h
  all_goals first
    | (obtain ⟨_, rfl⟩ := h; simp)
    | (obtain ⟨_, _, _, rfl⟩ := h; simp +arith)

/-- Put a character before a string that was read. -/
def consRead (c : Char) (r : Option (List Char × List Char)) : Option (List Char × List Char) :=
  r.map fun p => (c :: p.1, p.2)

/-- Read a string in double quotes. -/
def readQuoted (cs : List Char) : Option (List Char × List Char) :=
  match cs with
  | [] => none
  | c :: rest =>
    if c = '"' then some ([], rest)
    else if c = '\\' then
      match h : readEscape rest with
      | none => none
      | some (d, rest') =>
        have : rest'.length < rest.length := length_of_readEscape h
        consRead d (readQuoted rest')
    else if isText c then consRead c (readQuoted rest)
    else none
termination_by cs.length

/-- Read a string in single quotes. -/
def readLiteral (cs : List Char) : Option (List Char × List Char) :=
  match cs with
  | [] => none
  | c :: rest =>
    if c = '\'' then some ([], rest)
    else if isText c then consRead c (readLiteral rest)
    else none

/-- Read closing quotes: three, which up to two quotes of the string may precede. -/
def readClosing (q : Char) (cs : List Char) : Option (List Char × List Char) :=
  let count := (cs.takeWhile (· == q)).length
  if count < 3 then none
  else
    let taken := min count 5
    some (List.replicate (taken - 3) q, cs.drop taken)

/-- What follows a backslash that ends its line: the next thing that is neither blank nor line
break. -/
def afterLineEnd? (cs : List Char) : Option (List Char) :=
  match cs.dropWhile isSpace with
  | '\n' :: rest => some (rest.dropWhile fun c => isSpace c || c == '\n')
  | _ => none

/-- What follows the end of a line is no longer than what began with it. -/
theorem length_of_afterLineEnd? {cs rest : List Char} (h : afterLineEnd? cs = some rest) :
    rest.length < cs.length := by
  unfold afterLineEnd? at h
  split at h
  · next more heq =>
    have h1 := length_of_dropWhile_eq_cons heq
    have h2 := length_dropWhile_le (fun c => isSpace c || c == '\n') more
    simp only [Option.some.injEq] at h
    subst h
    omega
  · simp at h

/-- Read a string in three double quotes. -/
def readQuotedLines (cs : List Char) : Option (List Char × List Char) :=
  match readClosing '"' cs with
  | some r => some r
  | none =>
    match cs with
    | [] => none
    | c :: rest =>
      if c = '\\' then
        match h : afterLineEnd? rest with
        | some rest' =>
          have : rest'.length < rest.length := length_of_afterLineEnd? h
          readQuotedLines rest'
        | none =>
          match h' : readEscape rest with
          | none => none
          | some (d, rest') =>
            have : rest'.length < rest.length := length_of_readEscape h'
            consRead d (readQuotedLines rest')
      else if isControl c then none
      else consRead c (readQuotedLines rest)
termination_by cs.length

/-- Read a string in three single quotes. -/
def readLiteralLines (cs : List Char) : Option (List Char × List Char) :=
  match readClosing '\'' cs with
  | some r => some r
  | none =>
    match cs with
    | [] => none
    | c :: rest => if isControl c then none else consRead c (readLiteralLines rest)

/-- A string without the line break that it begins with. -/
def withoutBreak : List Char → List Char
  | '\n' :: rest => rest
  | cs => cs

/-- Read a string in any form, from its opening quotes. -/
def readString : List Char → Option (List Char × List Char)
  | '"' :: '"' :: '"' :: rest => readQuotedLines (withoutBreak rest)
  | '\'' :: '\'' :: '\'' :: rest => readLiteralLines (withoutBreak rest)
  | '"' :: rest => readQuoted rest
  | '\'' :: rest => readLiteral rest
  | _ => none

end OlapClient.Toml
