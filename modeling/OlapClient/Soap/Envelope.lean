import OlapClient.Markup.Reference
import OlapClient.Text.Blank

namespace OlapClient.Soap

open Markup (escape)

/-!
# Request envelopes

* `Request` — a statement to run, or a question about what the server offers.
* `Request.envelope` — its bytes, for a list of properties. Equal requests have equal bytes, which
  is how a cache knows them again.
* `InvalidName` — a property or restriction whose name cannot be the name of an element.
-/

/-- Names with values, in the order in which they are sent. -/
abbrev Pairs := List (String × String)

/-- What is asked of a server. -/
inductive Request where
  | execute (statement : String)
  | discover (type : String) (restrictions : Pairs)
deriving DecidableEq, Repr

/-- A name that cannot be the name of an element. -/
structure InvalidName where
  name : String
deriving DecidableEq, Repr

/-- The report of a name that cannot be sent. -/
def InvalidName.message (e : InvalidName) : String :=
  "'" ++ e.name ++ "' is not a valid XMLA property name"

/-- The namespace of envelopes. -/
def envelopeSpace : String := "http://schemas.xmlsoap.org/soap/envelope/"

/-- The namespace of requests. -/
def requestSpace : String := "urn:schemas-microsoft-com:xml-analysis"

/-- A character that may begin the name of a property. -/
def isNameStart (c : Char) : Bool :=
  isAsciiLetter c || c == '_'

/-- A character that may stand in the name of a property. -/
def isNamePart (c : Char) : Bool :=
  isNameStart c || isDigit c || c == '-' || c == '.'

/-- Whether a text can be the name of a property. -/
def isName : List Char → Bool
  | [] => false
  | c :: cs => isNameStart c && cs.all isNamePart

/-! ### Elements -/

/-- An element with attributes as they are written, each after a blank. -/
def elementWith (name attributes : String) (content : List Char) : List Char :=
  '<' :: name.toList ++ attributes.toList ++ '>' :: content ++ '<' :: '/' :: name.toList ++ ['>']

/-- An element without attributes. -/
def element (name : String) (content : List Char) : List Char :=
  elementWith name "" content

/-- An element that holds a text. -/
def leaf (name value : String) : List Char :=
  element name (escape value.toList)

/-- One element per pair. The first name that cannot be one is an error. -/
def leaves (pairs : Pairs) : Except InvalidName (List Char) :=
  match pairs.find? fun p => !isName p.1.toList with
  | some p => .error ⟨p.1⟩
  | none => .ok (pairs.flatMap fun p => leaf p.1 p.2)

/-- A list of pairs within its two elements. -/
def pairList (outer inner : String) (pairs : Pairs) : Except InvalidName (List Char) :=
  (leaves pairs).map fun content => element outer (element inner content)

/-! ### Envelopes -/

namespace Request

/-- The name of the method that a request calls. -/
def method : Request → String
  | .execute _ => "Execute"
  | .discover .. => "Discover"

/-- The action that a request announces. -/
def action (r : Request) : String :=
  requestSpace ++ ":" ++ r.method

/-- What is asked, before the properties. A bad restriction is an error. -/
def subject : Request → Except InvalidName (List Char)
  | .execute statement => .ok (element "Command" (leaf "Statement" statement))
  | .discover type restrictions =>
    (pairList "Restrictions" "RestrictionList" restrictions).map fun content =>
      leaf "RequestType" type ++ content

/-- The content of the method element. Restrictions are checked before properties. -/
def body (r : Request) (properties : Pairs) : Except InvalidName (List Char) :=
  match r.subject with
  | .error e => .error e
  | .ok subject =>
    (pairList "Properties" "PropertyList" properties).map fun content => subject ++ content

/-- The declaration that begins every envelope, with its line break. -/
def declaration : List Char :=
  "<?xml version=\"1.0\" encoding=\"UTF-8\"?>\n".toList

/-- The text of a request. -/
def text (r : Request) (properties : Pairs) : Except InvalidName (List Char) :=
  (r.body properties).map fun body =>
    declaration ++
      elementWith "SOAP-ENV:Envelope" (" xmlns:SOAP-ENV=\"" ++ envelopeSpace ++ "\"")
        (element "SOAP-ENV:Body" (elementWith r.method (" xmlns=\"" ++ requestSpace ++ "\"") body))

/-- The bytes of a request. -/
def envelope (r : Request) (properties : Pairs) : Except InvalidName Bytes :=
  (r.text properties).map Utf8.encode

end Request

end OlapClient.Soap
