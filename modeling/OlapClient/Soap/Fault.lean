import OlapClient.Markup.Event

namespace OlapClient.Soap

open Markup

/-!
# Faults

A server answers a request that it cannot serve with a fault in place of a result.

* `Fault` — its code and its message.
* `fault?` — the fault that a response body carries. Only the first element of the envelope's body
  is looked at, so a large result is not scanned.
-/

/-- A fault: its code, and its text or, where that is missing, the description of the error. -/
structure Fault where
  code : String
  message : String
deriving DecidableEq, Repr

/-- How far into an envelope the scan has come. -/
inductive FaultPlace where
  | envelope
  | body
  | firstChild
  | fault
deriving DecidableEq, Repr

/-- The part of a fault whose text is being read. -/
inductive FaultField where
  | code
  | message
deriving DecidableEq, Repr

/-- What a scan for a fault has seen. -/
structure FaultScan where
  place : FaultPlace := .envelope
  field : Option FaultField := none
  code : Option String := none
  message : Option String := none
  description : Option String := none
deriving DecidableEq, Repr

/-- The outcome of one event: the scan goes on, or it knows its answer. -/
inductive FaultStep where
  | more (s : FaultScan)
  | done (answer : Option Fault)

namespace FaultScan

/-- The answer when the scan ends here. -/
def answer (s : FaultScan) : Option Fault :=
  if s.place = .fault then
    some ⟨s.code.getD "", (s.message <|> s.description).getD ""⟩
  else none

/-- Keep the description of the first error element that has one. -/
def describe (s : FaultScan) (tag : Tag) : FaultScan :=
  { s with description := s.description <|> tag.attribute? "Description" }

/-- The text of a run inside a fault; unreadable references stay as they are written. -/
def runText (raw : Bytes) : String :=
  match characters raw with
  | .ok s => s
  | .error _ => Utf8.lossyString raw

/-- A start tag. -/
def onStart (s : FaultScan) (tag : Tag) : FaultStep :=
  let name := tag.localName
  match s.place with
  | .envelope =>
    if name = "Envelope" then .more { s with place := .body } else .done none
  | .body =>
    if name = "Body" then .more { s with place := .firstChild } else .more s
  | .firstChild =>
    if name = "Fault" then .more { s with place := .fault } else .done none
  | .fault =>
    if name = "faultcode" then .more { s with field := some .code }
    else if name = "faultstring" then .more { s with field := some .message }
    else if name = "Error" then .more (s.describe tag)
    else .more s

/-- An empty tag. -/
def onEmpty (s : FaultScan) (tag : Tag) : FaultStep :=
  match s.place with
  | .envelope => .done none
  | .firstChild => .done none
  | .body => .more s
  | .fault => if tag.localName = "Error" then .more (s.describe tag) else .more s

/-- A run of text: it replaces what was read of the current field. -/
def onText (s : FaultScan) (raw : Bytes) : FaultScan :=
  match s.field with
  | none => s
  | some .code => { s with code := some (runText raw) }
  | some .message => { s with message := some (runText raw) }

/-- An end tag. -/
def onClose (s : FaultScan) (name : Bytes) : FaultStep :=
  let name := localName name
  if name = "Fault" ∧ s.place = .fault then .done s.answer
  else if name = "faultcode" ∨ name = "faultstring" then .more { s with field := none }
  else .more s

/-- Take one event. -/
def step (s : FaultScan) : Event → FaultStep
  | .start tag => s.onStart tag
  | .empty tag => s.onEmpty tag
  | .text raw => .more (s.onText raw)
  | .close name => s.onClose name
  | _ => .more s

/-- Take events until the answer is known or none are left. -/
def scan (s : FaultScan) : List Event → Option Fault
  | [] => s.answer
  | e :: es =>
    match s.step e with
    | .more s' => s'.scan es
    | .done answer => answer

end FaultScan

/-- The fault in a response body, if it carries one. A body that is no envelope is no fault, and a
syntax error ends the scan. -/
def fault? (body : Bytes) : Option Fault :=
  FaultScan.scan {} (read body).events

end OlapClient.Soap
