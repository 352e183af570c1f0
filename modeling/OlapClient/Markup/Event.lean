import OlapClient.Markup.Tag

namespace OlapClient.Markup

/-!
# Markup events

A document is read as a sequence of events. The reader does not validate: names are not checked,
elements may stay open, and only end tags are compared with the start tags they close.

* `Event` — a tag, a run of text, or another markup.
* `SyntaxError` — why reading stops, with `SyntaxError.message`.
* `next` — the first event of what is left, given the names of the open elements.
* `read` — all events of a document, and the error that ends them, if one does.
-/

/-- One piece of a document. Text and CDATA are raw bytes; text has no white space at its ends. -/
inductive Event where
  | start (tag : Tag)
  | empty (tag : Tag)
  | close (name : Bytes)
  | text (raw : Bytes)
  | cdata (raw : Bytes)
  | comment (raw : Bytes)
  | doctype (raw : Bytes)
  /-- A processing instruction or the document's declaration. -/
  | instruction (raw : Bytes)
deriving DecidableEq, Repr

/-- The markups that the end of the input can cut off, or that are not spelled to their end. -/
inductive Construct where
  | bang
  | cdata
  | comment
  | doctype
  | instruction
deriving DecidableEq, Repr

/-- How a report names a construct. -/
def Construct.label : Construct → String
  | .bang => "Bang"
  | .cdata => "CData"
  | .comment => "Comment"
  | .doctype => "DOCTYPE"
  | .instruction => "XmlDecl"

/-- Why a document cannot be read on. -/
inductive SyntaxError where
  | unfinished (what : Construct)
  /-- A markup that begins with `<!` and goes on with this byte. -/
  | unknownBang (b : UInt8)
  | emptyDoctype
  /-- An end tag `found` where `expected` is the innermost open element, empty if none is. -/
  | mismatch (expected found : Bytes)
deriving DecidableEq, Repr

/-- A name in a report: empty unless it is UTF-8. -/
def shownName (name : Bytes) : String :=
  (Utf8.string? name).getD ""

/-- The report of a syntax error. -/
def SyntaxError.message : SyntaxError → String
  | .unfinished what => "Unexpected EOF during reading " ++ what.label
  | .unknownBang b =>
    "Only Comment (`--`), CDATA (`[CDATA[`) and DOCTYPE (`DOCTYPE`) nodes can start with a '!', "
      ++ "but symbol `" ++ (Char.ofNat b.toNat).toString ++ "` found"
  | .emptyDoctype => "DOCTYPE declaration must not be empty"
  | .mismatch expected found =>
    "Expecting </" ++ shownName expected ++ "> found </" ++ shownName found ++ ">"

/-! ### Ends of markups -/

/-- What stands before the first occurrence of a pattern, and what follows it. -/
def breakOn (pattern : Bytes) : Bytes → Option (Bytes × Bytes)
  | [] => if pattern = [] then some ([], []) else none
  | b :: bs =>
    if pattern.isPrefixOf (b :: bs) then some ([], (b :: bs).drop pattern.length)
    else (breakOn pattern bs).map fun r => (b :: r.1, r.2)

/-- The content of a declaration up to the `>` that closes it; angle brackets inside are paired. -/
def takeBalanced (depth : Nat) : Bytes → Option (Bytes × Bytes)
  | [] => none
  | b :: bs =>
    if b = 0x3E ∧ depth = 0 then some ([], bs)
    else
      let inner := if b = 0x3C then depth + 1 else if b = 0x3E then depth - 1 else depth
      (takeBalanced inner bs).map fun r => (b :: r.1, r.2)

/-- The content of a tag up to the first `>` outside quotes, or to the end of the input. -/
def takeTag (quote : Option UInt8) : Bytes → Bytes × Bytes
  | [] => ([], [])
  | b :: bs =>
    match quote with
    | some q =>
      let r := takeTag (if b = q then none else some q) bs
      (b :: r.1, r.2)
    | none =>
      if b = 0x3E then ([], bs)
      else
        let r := takeTag (if isQuote b then some b else none) bs
        (b :: r.1, r.2)

/-- What stands before the first `>`, or all of it. -/
def beforeAngle (bs : Bytes) : Bytes :=
  bs.takeWhile (· != 0x3E)

/-- What follows the first `>`. -/
def afterAngle (bs : Bytes) : Bytes :=
  (bs.dropWhile (· != 0x3E)).drop 1

/-- A byte in lower case. -/
def lowerByte (b : UInt8) : UInt8 :=
  if 0x41 ≤ b ∧ b ≤ 0x5A then b + 32 else b

/-- Whether a byte sequence begins with a keyword, given in lower case, in any case. -/
def beginsWith (keyword bs : Bytes) : Bool :=
  keyword.isPrefixOf (bs.map lowerByte)

/-- The bytes of `[cdata[`. -/
def cdataKeyword : Bytes := [0x5B, 0x63, 0x64, 0x61, 0x74, 0x61, 0x5B]

/-- The bytes of `doctype`. -/
def doctypeKeyword : Bytes := [0x64, 0x6F, 0x63, 0x74, 0x79, 0x70, 0x65]

/-! ### The next event -/

/-- What reading one event yields. -/
inductive Outcome where
  | finished
  | failed (e : SyntaxError)
  | event (e : Event) (opened : List Bytes) (rest : Bytes)

/-- Read what follows `<!`. -/
def readBang (opened : List Bytes) : Bytes → Outcome
  | [] => .failed (.unfinished .bang)
  | b :: bs =>
    if b = 0x5B then
      match breakOn [0x5D, 0x5D, 0x3E] (b :: bs) with
      | none => .failed (.unfinished .cdata)
      | some (content, rest) =>
        if beginsWith cdataKeyword content then .event (.cdata (content.drop 7)) opened rest
        else .failed (.unfinished .cdata)
    else if b = 0x2D then
      match breakOn [0x2D, 0x2D, 0x3E] (bs.drop 1) with
      | none => .failed (.unfinished .comment)
      | some (content, rest) =>
        if bs.take 1 = [0x2D] then .event (.comment content) opened rest
        else .failed (.unfinished .comment)
    else if b = 0x44 ∨ b = 0x64 then
      match takeBalanced 0 (b :: bs) with
      | none => .failed (.unfinished .doctype)
      | some (content, rest) =>
        if beginsWith doctypeKeyword content then
          match (content.drop 7).dropWhile isSpace with
          | [] => .failed .emptyDoctype
          | c :: cs => .event (.doctype (c :: cs)) opened rest
        else .failed (.unfinished .doctype)
    else .failed (.unknownBang b)

/-- The name in an end tag: white space after it is no part of it. -/
def closingName (content : Bytes) : Bytes :=
  match trimEndBy isSpace content with
  | [] => content
  | b :: bs => b :: bs

/-- Read what follows `</`. -/
def readClose (opened : List Bytes) (bs : Bytes) : Outcome :=
  let content := beforeAngle bs
  match opened with
  | [] => .failed (.mismatch [] content)
  | expected :: outer =>
    let name := closingName content
    if name = expected then .event (.close name) outer (afterAngle bs)
    else .failed (.mismatch expected name)

/-- Read what follows `<?`. -/
def readInstruction (opened : List Bytes) (bs : Bytes) : Outcome :=
  let content := beforeAngle bs
  if 2 ≤ content.length ∧ content.getLast? = some 0x3F then
    .event (.instruction content.dropLast) opened (afterAngle bs)
  else .failed (.unfinished .instruction)

/-- Read what follows the `<` of a start tag or an empty tag. -/
def readTag (opened : List Bytes) (bs : Bytes) : Outcome :=
  let (content, rest) := takeTag none bs
  if content.getLast? = some 0x2F then .event (.empty (Tag.ofContent content.dropLast)) opened rest
  else
    let tag := Tag.ofContent content
    .event (.start tag) (tag.name :: opened) rest

/-- Read what follows a `<`. -/
def readMarkup (opened : List Bytes) : Bytes → Outcome
  | [] => .finished
  | b :: bs =>
    if b = 0x21 then readBang opened bs
    else if b = 0x2F then readClose opened bs
    else if b = 0x3F then readInstruction opened bs
    else readTag opened (b :: bs)

/-- The first event of what is left of a document. -/
def next (opened : List Bytes) (input : Bytes) : Outcome :=
  match input.dropWhile isSpace with
  | [] => .finished
  | b :: bs =>
    if b = 0x3C then readMarkup opened bs
    else
      .event (.text (trimEndBy isSpace ((b :: bs).takeWhile (· != 0x3C)))) opened
        (bs.dropWhile (· != 0x3C))

/-! ### Reading consumes input -/

theorem breakOn_length {pattern bs before after : Bytes}
    (h : breakOn pattern bs = some (before, after)) : after.length ≤ bs.length := by
  induction bs generalizing before after with
  | nil =>
    unfold breakOn at h
    split at h
    · cases h; exact Nat.le_refl _
    · cases h
  | cons b bs ih =>
    unfold breakOn at h
    split at h
    · cases h
      simp only [List.length_drop]
      omega
    · cases hb : breakOn pattern bs with
      | none => rw [hb] at h; cases h
      | some r =>
        rw [hb] at h
        cases h
        exact Nat.le_succ_of_le (ih hb)

theorem takeBalanced_length {depth : Nat} {bs before after : Bytes}
    (h : takeBalanced depth bs = some (before, after)) : after.length < bs.length := by
  induction bs generalizing depth before after with
  | nil => cases h
  | cons b bs ih =>
    unfold takeBalanced at h
    split at h
    · cases h; exact Nat.lt_succ_self _
    · dsimp only at h
      generalize
        (if b = 0x3C then depth + 1 else if b = 0x3E then depth - 1 else depth) = inner at h
      cases hb : takeBalanced inner bs with
      | none => rw [hb] at h; cases h
      | some r =>
        rw [hb] at h
        cases h
        exact Nat.lt_succ_of_lt (ih hb)

theorem takeTag_length (quote : Option UInt8) (bs : Bytes) :
    (takeTag quote bs).2.length ≤ bs.length := by
  induction bs generalizing quote with
  | nil => exact Nat.le_refl _
  | cons b bs ih =>
    unfold takeTag
    split
    · exact Nat.le_succ_of_le (ih _)
    · split
      · exact Nat.le_succ _
      · exact Nat.le_succ_of_le (ih _)

theorem afterAngle_length (bs : Bytes) : (afterAngle bs).length ≤ bs.length := by
  have := length_dropWhile_le (· != (0x3E : UInt8)) bs
  simp only [afterAngle, List.length_drop]
  omega

theorem readBang_length {opened opened' : List Bytes} {bs rest : Bytes} {e : Event}
    (h : readBang opened bs = .event e opened' rest) : rest.length ≤ bs.length := by
  unfold readBang at h
  repeat' split at h
  all_goals cases h
  · exact breakOn_length (by assumption)
  · have := breakOn_length (by assumption)
    simp only [List.length_drop, List.length_cons] at this ⊢
    omega
  · exact Nat.le_of_lt (takeBalanced_length (by assumption))

theorem readMarkup_length {opened opened' : List Bytes} {bs rest : Bytes} {e : Event}
    (h : readMarkup opened bs = .event e opened' rest) : rest.length ≤ bs.length := by
  unfold readMarkup at h
  split at h
  · cases h
  · rename_i b bs
    split at h
    · exact Nat.le_succ_of_le (readBang_length h)
    · split at h
      · unfold readClose at h
        dsimp only at h
        repeat' split at h
        all_goals cases h
        exact Nat.le_succ_of_le (afterAngle_length bs)
      · split at h
        · unfold readInstruction at h
          dsimp only at h
          split at h
          · cases h
            exact Nat.le_succ_of_le (afterAngle_length bs)
          · cases h
        · unfold readTag at h
          dsimp only at h
          have := takeTag_length none (b :: bs)
          split at h <;> cases h <;> exact this

theorem next_length {opened opened' : List Bytes} {input rest : Bytes} {e : Event}
    (h : next opened input = .event e opened' rest) : rest.length < input.length := by
  unfold next at h
  split at h
  · cases h
  · rename_i b bs hb
    have h1 := length_of_dropWhile_eq_cons hb
    split at h
    · exact Nat.lt_of_le_of_lt (readMarkup_length h) h1
    · cases h
      exact Nat.lt_of_le_of_lt (length_dropWhile_le _ bs) h1

/-! ### Whole documents -/

/-- The events of a document, and the error that cuts them off, if one does. -/
structure Reading where
  events : List Event
  failure : Option SyntaxError
deriving DecidableEq, Repr

/-- Read what is left of a document whose open elements are given, innermost first. -/
def readFrom (opened : List Bytes) (input : Bytes) : Reading :=
  match h : next opened input with
  | .finished => ⟨[], none⟩
  | .failed e => ⟨[], some e⟩
  | .event e opened' rest =>
    have := next_length h
    let r := readFrom opened' rest
    ⟨e :: r.events, r.failure⟩
termination_by input.length

/-- A document without the byte order mark it may begin with. -/
def withoutMark : Bytes → Bytes
  | 0xEF :: 0xBB :: 0xBF :: rest => rest
  | bs => bs

/-- Read a document. -/
def read (document : Bytes) : Reading :=
  readFrom [] (withoutMark document)

end OlapClient.Markup
