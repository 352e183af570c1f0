import OlapClient.Markup.Event

namespace OlapClient.Soap

open Markup

/-!
# Complete documents

A response counts only if it is one complete document whose element is an envelope or a bare
`root`.

* `DocumentError` — the first problem of a body.
* `checkDocument` — finding it.
-/

/-- What is wrong with a response body. -/
inductive DocumentError where
  /-- A start tag after the document element. -/
  | trailing
  /-- A document element with another name. -/
  | foreign (name : String)
  /-- An empty tag outside the document element. -/
  | looseEmpty (name : String)
  /-- Text or CDATA outside the document element. -/
  | looseText
  | unreadable (e : SyntaxError)
  /-- There is no document element. -/
  | absent
  /-- The document element does not end. -/
  | truncated
deriving DecidableEq, Repr

/-- The report of an unfit body. -/
def DocumentError.message : DocumentError → String
  | .trailing => "content after the document element"
  | .foreign name => "unexpected document element <" ++ name ++ ">"
  | .looseEmpty name => "unexpected empty element <" ++ name ++ ">"
  | .looseText => "text outside the document element"
  | .unreadable e => e.message
  | .absent => "no document element"
  | .truncated => "document is truncated"

/-- How many elements are open, and whether the document element has ended. -/
structure DocumentScan where
  depth : Nat := 0
  closed : Bool := false
deriving DecidableEq, Repr

/-- The elements that may hold a document. -/
def isDocumentName (name : String) : Bool :=
  name == "Envelope" || name == "root"

namespace DocumentScan

/-- Take one event. -/
def step (s : DocumentScan) : Event → Except DocumentError DocumentScan
  | .start tag =>
    if s.closed then .error .trailing
    else if s.depth = 0 ∧ !isDocumentName tag.localName then
      .error (.foreign (Utf8.lossyString tag.name))
    else .ok { s with depth := s.depth + 1 }
  | .empty tag =>
    if s.closed ∨ s.depth = 0 then .error (.looseEmpty (Utf8.lossyString tag.name)) else .ok s
  | .close _ =>
    let depth := s.depth - 1
    .ok ⟨depth, s.closed || depth == 0⟩
  | .text _ | .cdata _ => if s.depth = 0 then .error .looseText else .ok s
  | _ => .ok s

/-- Take all events of a document. -/
def run (s : DocumentScan) : List Event → Except DocumentError DocumentScan
  | [] => .ok s
  | e :: es =>
    match s.step e with
    | .error e => .error e
    | .ok s' => s'.run es

/-- The verdict at the end of the input. -/
def verdict (s : DocumentScan) : Except DocumentError Unit :=
  if s.closed then .ok ()
  else if s.depth = 0 then .error .absent
  else .error .truncated

end DocumentScan

/-- Check that a body is one complete document. -/
def checkDocument (body : Bytes) : Except DocumentError Unit :=
  let reading := read body
  match DocumentScan.run {} reading.events with
  | .error e => .error e
  | .ok s =>
    match reading.failure with
    | some e => .error (.unreadable e)
    | none => s.verdict

end OlapClient.Soap
