import OlapClient.Exchange.Endpoint

namespace OlapClient.Exchange

/-!
# Messages of the wire

* `Post.message` — the bytes that carry a request to its server.
* `Message` — a status, header fields, and the bytes that follow them.
* `Message.ofBytes?`, `Message.reply?` — the response that a server sent before it closed the
  connection. A response that ends too early is none.
-/

/-! ### Requests -/

/-- A line with the mark that ends it. -/
def wireLine (s : String) : Bytes :=
  Utf8.encodeString s ++ [13, 10]

/-- What a request asks its server for: path and query. -/
def Post.target (p : Post) : String :=
  String.ofList (p.location.path.text ++ Location.marked '?' p.location.query)

/-- The server of a request as it is named in it. -/
def Post.hostName (p : Post) : String :=
  String.ofList ((p.location.authority.map Location.Authority.hostText).getD [])

/-- The header fields of a request. -/
def Post.fields (p : Post) : List (String × String) :=
  [("Host", p.hostName), ("Content-Type", p.contentType), ("SOAPAction", p.soapAction)]
    ++ p.authorization.map (("Authorization", ·))
    ++ [("User-Agent", p.agent), ("Accept", "*/*"), ("Content-Length", toString p.body.length),
      ("Connection", "close")]

/-- The bytes of a request. -/
def Post.message (p : Post) : Bytes :=
  wireLine ("POST " ++ p.target ++ " HTTP/1.1")
    ++ (p.fields.flatMap fun f => wireLine (f.1 ++ ": " ++ f.2)) ++ wireLine "" ++ p.body

/-! ### Lines -/

/-- The bytes before the first mark that ends a line, and those after it. -/
def breakLine : Bytes → Option (Bytes × Bytes)
  | [] => none
  | b :: rest =>
    match b, rest with
    | 13, 10 :: after => some ([], after)
    | _, _ => (breakLine rest).map fun p => (b :: p.1, p.2)

/-- What follows a line is shorter than what it was taken from. -/
theorem length_of_breakLine {bs line rest : Bytes} (h : breakLine bs = some (line, rest)) :
    rest.length < bs.length := by
  induction bs generalizing line with
  | nil => simp [breakLine] at h
  | cons b tail ih =>
    simp only [breakLine] at h
    split at h
    · simp only [Option.some.injEq, Prod.mk.injEq] at h
      simp only [← h.2, List.length_cons]
      omega
    · obtain ⟨⟨start, after⟩, hp, hq⟩ := Option.map_eq_some_iff.1 h
      simp only [Prod.mk.injEq] at hq
      have := ih (hq.2 ▸ hp)
      simp only [List.length_cons]
      omega

/-- The lines up to an empty one, and what follows it. -/
def breakHead (bs : Bytes) : Option (List Bytes × Bytes) :=
  match _h : breakLine bs with
  | none => none
  | some ([], rest) => some ([], rest)
  | some (line, rest) => (breakHead rest).map fun p => (line :: p.1, p.2)
termination_by bs.length
decreasing_by exact length_of_breakLine (by assumption)

/-! ### Responses -/

/-- A response before its body is taken apart. Names of fields are in lower case. -/
structure Message where
  status : Nat
  fields : List (String × String)
  rest : Bytes
deriving DecidableEq, Repr

/-- The status of a response, from its first line. -/
def status? (line : Bytes) : Option Nat :=
  match splitAt (· == ' ') (Utf8.decodeLossy line) with
  | version :: code :: _ =>
    if "HTTP/1.".toList.isPrefixOf version ∧ code.length = 3 then Decimal.natural? code else none
  | _ => none

/-- A header field from its line. -/
def field (line : Bytes) : String × String :=
  let cs := Utf8.decodeLossy line
  (lowerString (String.ofList (cs.takeWhile (· != ':'))),
    trim (String.ofList ((cs.dropWhile (· != ':')).drop 1)))

/-- The size of a chunk, from the line before it. -/
def chunkSize? (line : Bytes) : Option Nat :=
  let digits := (Utf8.decodeLossy line).takeWhile fun c => (hexValue? c).isSome
  if digits = [] then none else some (digits.foldl (fun n c => n * 16 + (hexValue? c).getD 0) 0)

/-- The body that comes in chunks, each followed by the end of a line. -/
def unchunk (bs : Bytes) : Option Bytes :=
  match _h : breakLine bs with
  | none => none
  | some (line, rest) =>
    match chunkSize? line with
    | none => none
    | some 0 => some []
    | some size =>
      if size + 2 ≤ rest.length then
        (unchunk (rest.drop (size + 2))).map (rest.take size ++ ·)
      else none
termination_by bs.length
decreasing_by
  have := length_of_breakLine (by assumption)
  simp only [List.length_drop]
  omega

namespace Message

/-- The response that bytes begin with. -/
def ofBytes? (bs : Bytes) : Option Message :=
  match breakHead bs with
  | some (first :: lines, rest) =>
    (status? first).map fun status => ⟨status, lines.map field, rest⟩
  | _ => none

/-- The value of a header field. -/
def field? (m : Message) (name : String) : Option String :=
  m.fields.lookup name

/-- The body: what came in chunks, or as much as was announced, or all that came. -/
def body? (m : Message) : Option Bytes :=
  if m.status = 204 ∨ m.status = 304 then some []
  else if (m.field? "transfer-encoding").map lowerString = some "chunked" then unchunk m.rest
  else
    match m.field? "content-length" with
    | none => some m.rest
    | some text =>
      match Decimal.natural? text.toList with
      | none => none
      | some size => if size ≤ m.rest.length then some (m.rest.take size) else none

/-- The response as a reply. -/
def reply? (m : Message) : Option Reply :=
  m.body?.map fun body => ⟨m.status, body⟩

end Message

end OlapClient.Exchange
