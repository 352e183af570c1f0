import OlapClient.Proofs.Markup.Written
import OlapClient.Proofs.Soap.Fault
import OlapClient.Proofs.Soap.Request

namespace OlapClient.Soap

open Markup
open Utf8 (encode encodeString)

/-!
# Envelopes hold no other elements

An envelope is read as the document that its request asks for, with one element per pair. A value
becomes the text of its element, whatever is written in it.

* `leafContent`, `pairContent`, `Request.document` — the elements of a request with properties.
* `reads_elementContent`, `reads_leafContent`, `reads_pairContent` — its pieces are read as them.
* `Request.read_envelope` — and so is its envelope, which is a complete document without a fault.
* `texts`, `Request.texts_document` — its texts are the values, in order.
* `Request.blank`, `Request.withoutTexts_document` — its other events do not depend on the values.
* `Request.envelope_keeps_skeleton` — all of this.
-/

/-! ### Elements of a request -/

/-- A text as a content. An empty one is none. -/
def textContent (s : String) : Content :=
  if s = "" then .nil else .event (.text (encode (escape s.toList))) rfl .nil

/-- An element that holds a text without the white space at its ends, and what follows it. -/
def leafContent (name value : String) (rest : Content) : Content :=
  .element (writtenTag name "") (textContent (trimSpaces value)) rest

/-- One element per pair, in order. -/
def pairContent (pairs : Pairs) : Content :=
  pairs.foldr (fun p rest => leafContent p.1 p.2 rest) .nil

/-- A list of pairs within its two elements, and what follows it. -/
def pairListContent (outer inner : String) (pairs : Pairs) (rest : Content) : Content :=
  .element (writtenTag outer "") (.element (writtenTag inner "") (pairContent pairs) .nil) rest

/-- The attributes of an envelope and of a method element, as they are written. -/
def envelopeAttributes : String :=
  writeAttributes [("xmlns:SOAP-ENV", envelopeSpace)]

def methodAttributes : String :=
  writeAttributes [("xmlns", requestSpace)]

namespace Request

/-- What is asked, and what follows it. -/
def subjectContent (r : Request) (rest : Content) : Content :=
  match r with
  | .execute statement =>
    .element (writtenTag "Command" "") (leafContent "Statement" statement .nil) rest
  | .discover type restrictions =>
    leafContent "RequestType" type
      (pairListContent "Restrictions" "RestrictionList" restrictions rest)

/-- The content of an envelope. -/
def content (r : Request) (ps : Pairs) : Content :=
  .element (writtenTag "SOAP-ENV:Body" "")
    (.element (writtenTag r.method methodAttributes)
      (r.subjectContent (pairListContent "Properties" "PropertyList" ps .nil)) .nil) .nil

/-- The tag of an envelope. -/
def envelopeTag : Tag :=
  writtenTag "SOAP-ENV:Envelope" envelopeAttributes

theorem localName_envelopeTag : envelopeTag.localName = "Envelope" :=
  localName_prefixed "SOAP-ENV".toList "Envelope".toList rfl (by decide)

/-- The document of a request with properties. -/
def document (r : Request) (ps : Pairs) : Document where
  before := [.instruction (encodeString "xml version=\"1.0\" encoding=\"UTF-8\"")]
  root := envelopeTag
  content := r.content ps
  after := []
  before_aside := List.forall_mem_singleton.2 rfl
  root_named := by
    rw [localName_envelopeTag]
    rfl
  after_aside := asides_nil

end Request

/-! ### Reading an envelope -/

theorem events_element (name attributes : String) (inner rest : Content) :
    (Content.element (writtenTag name attributes) inner rest).events =
      elementEvents name attributes inner.events ++ rest.events := by
  simp [Content.events, elementEvents, writtenTag]

theorem events_textContent (s : String) : (textContent s).events = textEvents s := by
  unfold textContent textEvents
  split <;> rfl

theorem reads_end : Reads [] Content.nil.events :=
  reads_nil

theorem attributeBytes_none : AttributeBytes (encodeString "") :=
  attributeBytes_nil

section Pieces

variable {name attributes outer inner : String} {cs ds : List Char} {c rest : Content}

/-- An element with what follows it is read as these. -/
theorem reads_elementContent (hname : isTagName name.toList = true)
    (hattr : AttributeBytes (encodeString attributes)) (hc : Reads cs c.events)
    (hrest : Reads ds rest.events) :
    Reads (elementWith name attributes cs ++ ds)
      (Content.element (writtenTag name attributes) c rest).events := by
  rw [events_element]
  exact (Reads.elementWith hname hattr hc).append hrest

/-- An element that nothing follows is read as that element. -/
theorem reads_loneElement (hname : isTagName name.toList = true)
    (hattr : AttributeBytes (encodeString attributes)) (hc : Reads cs c.events) :
    Reads (elementWith name attributes cs)
      (Content.element (writtenTag name attributes) c .nil).events := by
  rw [events_element]
  simpa [Content.events] using Reads.elementWith hname hattr hc

theorem reads_leafContent (hname : isTagName name.toList = true) (value : String)
    (hrest : Reads ds rest.events) :
    Reads (leaf name value ++ ds) (leafContent name value rest).events := by
  rw [leafContent, events_element, events_textContent]
  exact (reads_leaf_trimSpaces hname value).append hrest

theorem reads_loneLeaf (hname : isTagName name.toList = true) (value : String) :
    Reads (leaf name value) (leafContent name value .nil).events := by
  have hleaf := reads_leafContent hname value reads_end
  rwa [List.append_nil] at hleaf

theorem reads_pairContent {pairs : Pairs} (h : ∀ p ∈ pairs, isName p.1.toList = true) :
    Reads (pairs.flatMap fun p => leaf p.1 p.2) (pairContent pairs).events := by
  induction pairs with
  | nil => exact reads_end
  | cons p pairs ih =>
    have htail := ih fun q hq => h q (List.mem_cons_of_mem p hq)
    exact reads_leafContent (isTagName_of_isName (h p List.mem_cons_self)) p.2 htail

theorem reads_pairListContent {pairs : Pairs} (houter : isTagName outer.toList = true)
    (hinner : isTagName inner.toList = true) (h : pairList outer inner pairs = .ok cs)
    (hrest : Reads ds rest.events) :
    Reads (cs ++ ds) (pairListContent outer inner pairs rest).events := by
  obtain ⟨content, hleaves, rfl⟩ := Except.map_eq_ok h
  obtain ⟨hnames, rfl⟩ := leaves_eq_ok hleaves
  have hlist := reads_loneElement hinner attributeBytes_none (reads_pairContent hnames)
  exact reads_elementContent houter attributeBytes_none hlist hrest

end Pieces

theorem attributeBytes_envelopeAttributes : AttributeBytes (encodeString envelopeAttributes) :=
  attributeBytes_write (by simp only [List.forall_mem_singleton]; decide)

theorem attributeBytes_methodAttributes : AttributeBytes (encodeString methodAttributes) :=
  attributeBytes_write (by simp only [List.forall_mem_singleton]; decide)

namespace Request

variable {r : Request} {ps : Pairs} {bytes : Bytes} {cs : List Char}

theorem reads_subject {ds : List Char} {rest : Content} (h : r.subject = .ok cs)
    (hrest : Reads ds rest.events) : Reads (cs ++ ds) (r.subjectContent rest).events := by
  cases r with
  | execute statement =>
    cases h
    have hcommand : isTagName "Command".toList = true := by decide
    have hstatement : isTagName "Statement".toList = true := by decide
    have hleaf := reads_loneLeaf hstatement statement
    exact reads_elementContent hcommand attributeBytes_none hleaf hrest
  | discover type restrictions =>
    obtain ⟨content, hlist, rfl⟩ := Except.map_eq_ok h
    rw [List.append_assoc]
    exact reads_leafContent (by decide) type
      (reads_pairListContent (by decide) (by decide) hlist hrest)

theorem reads_body (h : r.body ps = .ok cs) :
    Reads cs (r.subjectContent (pairListContent "Properties" "PropertyList" ps .nil)).events := by
  unfold body at h
  split at h
  · cases h
  · rename_i subject hsubject
    obtain ⟨content, hlist, rfl⟩ := Except.map_eq_ok h
    have hproperties := reads_pairListContent (by decide) (by decide) hlist reads_end
    rw [List.append_nil] at hproperties
    exact reads_subject hsubject hproperties

/-- The declaration is an instruction, and its line break is no text. -/
theorem reads_declaration :
    Reads declaration [.instruction (encodeString "xml version=\"1.0\" encoding=\"UTF-8\"")] := by
  intro opened rest
  let inner := encodeString "xml version=\"1.0\" encoding=\"UTF-8\"?"
  have hinner : 0x3E ∉ inner := by decide
  have hmark : 2 ≤ inner.length ∧ inner.getLast? = some 0x3F := by decide
  have hnext : next opened (encode declaration ++ rest) =
      .event (.instruction inner.dropLast) opened ([0x0A] ++ rest) := by
    show readInstruction opened (inner ++ 0x3E :: 0x0A :: rest) = _
    rw [readInstruction, beforeAngle_mark hinner, afterAngle_mark hinner]
    exact if_pos hmark
  have hbreak : ∀ b ∈ ([0x0A] : Bytes), isSpace b = true := by simp [isSpace]
  rw [readFrom_of_next hnext, readFrom_skip hbreak]
  rfl

/-- An envelope is read as the document of its request. -/
theorem read_envelope (h : r.envelope ps = .ok bytes) : (r.document ps).Describes bytes := by
  obtain ⟨cs, htext, rfl⟩ := Except.map_eq_ok h
  obtain ⟨content, hbody, rfl⟩ := Except.map_eq_ok htext
  have hmethodName : isTagName r.method.toList = true := by
    cases r with
    | execute => exact (by decide : isTagName "Execute".toList = true)
    | discover => exact (by decide : isTagName "Discover".toList = true)
  have hbodyName : isTagName "SOAP-ENV:Body".toList = true := by decide
  have hmethod := reads_loneElement hmethodName attributeBytes_methodAttributes (reads_body hbody)
  have hcontent := reads_loneElement hbodyName attributeBytes_none hmethod
  exact read_of_reads (reads_declaration.append
    (Reads.elementWith (by decide) attributeBytes_envelopeAttributes hcontent))

/-- The scan for a fault ends at the method element. -/
theorem fault?_envelope (h : r.envelope ps = .ok bytes) : fault? bytes = none := by
  have hbody : (writtenTag "SOAP-ENV:Body" "").localName = "Body" :=
    localName_prefixed "SOAP-ENV".toList "Body".toList rfl (by decide)
  have hmethod : (writtenTag r.method methodAttributes).localName ≠ "Fault" := by
    cases r <;> rw [Tag.localName, writtenTag, method, localName_encodeString (by decide)] <;> decide
  rw [fault?, read_envelope h]
  simp [Document.events, document, content, Content.events, FaultScan.scan, FaultScan.step,
    FaultScan.onStart, localName_envelopeTag, hbody, hmethod]

end Request

/-! ### Texts and tags -/

/-- The texts among some events, with their references read. -/
def texts (es : List Event) : List (Except TextError String) :=
  es.filterMap fun e =>
    match e with
    | .text raw => some (characters raw)
    | _ => none

/-- Some events without the texts among them. -/
def withoutTexts (es : List Event) : List Event :=
  es.filter fun e =>
    match e with
    | .text _ => false
    | _ => true

/-- What the reader leaves of some values: white space at their ends is taken off, and those of which
nothing is left are no texts. -/
def shown (values : List String) : List String :=
  (values.map trimSpaces).filter (· ≠ "")

/-- Pairs with the same names, and no values. -/
def blankPairs (pairs : Pairs) : Pairs :=
  pairs.map fun p => (p.1, "")

namespace Request

/-- The values of a request, in the order in which they are sent. -/
def values : Request → List String
  | .execute statement => [statement]
  | .discover type restrictions => type :: restrictions.map (·.2)

/-- A request with the same names, and no values. -/
def blank : Request → Request
  | .execute _ => .execute ""
  | .discover _ restrictions => .discover "" (blankPairs restrictions)

end Request

@[simp] theorem texts_append (es fs : List Event) : texts (es ++ fs) = texts es ++ texts fs :=
  List.filterMap_append

@[simp] theorem withoutTexts_append (es fs : List Event) :
    withoutTexts (es ++ fs) = withoutTexts es ++ withoutTexts fs :=
  List.filter_append es fs

@[simp] theorem shown_append (vs ws : List String) : shown (vs ++ ws) = shown vs ++ shown ws := by
  simp [shown]

theorem texts_textEvents (s : String) : texts (textEvents s) = if s = "" then [] else [.ok s] := by
  unfold textEvents
  split
  · rfl
  · simp [texts, characters_encode_escape]

theorem withoutTexts_textEvents (s : String) : withoutTexts (textEvents s) = [] := by
  unfold textEvents
  split <;> rfl

theorem texts_elementEvents (name attributes : String) (es : List Event) :
    texts (elementEvents name attributes es) = texts es := by
  simp [texts, elementEvents]

theorem withoutTexts_elementEvents (name attributes : String) (es : List Event) :
    withoutTexts (elementEvents name attributes es) =
      elementEvents name attributes (withoutTexts es) := by
  simp [withoutTexts, elementEvents]

/-- The text of a leaf is its value. -/
theorem texts_leafContent (name value : String) (rest : Content) :
    texts (leafContent name value rest).events = (shown [value]).map .ok ++ texts rest.events := by
  rw [leafContent, events_element, texts_append, texts_elementEvents, events_textContent,
    texts_textEvents, shown, List.map_singleton]
  by_cases h : trimSpaces value = "" <;> simp [h]

/-- Without its text a leaf does not depend on its value. -/
theorem withoutTexts_leafContent (name value : String) (rest : Content) :
    withoutTexts (leafContent name value rest).events =
      elementEvents name "" [] ++ withoutTexts rest.events := by
  rw [leafContent, events_element, withoutTexts_append, withoutTexts_elementEvents,
    events_textContent, withoutTexts_textEvents]

theorem events_leafContent_blank (name : String) (rest : Content) :
    (leafContent name "" rest).events = elementEvents name "" [] ++ rest.events := by
  rw [leafContent, events_element]
  rfl

theorem texts_pairContent (pairs : Pairs) :
    texts (pairContent pairs).events = (shown (pairs.map (·.2))).map .ok := by
  induction pairs with
  | nil => rfl
  | cons p pairs ih =>
    rw [pairContent, List.foldr_cons, ← pairContent, texts_leafContent, ih, ← List.map_append,
      ← shown_append]
    rfl

theorem withoutTexts_pairContent (pairs : Pairs) :
    withoutTexts (pairContent pairs).events = (pairContent (blankPairs pairs)).events := by
  induction pairs with
  | nil => rfl
  | cons p pairs ih =>
    rw [blankPairs, List.map_cons, ← blankPairs]
    rw [pairContent, List.foldr_cons, ← pairContent, withoutTexts_leafContent, ih]
    rw [pairContent, pairContent, List.foldr_cons, ← pairContent, events_leafContent_blank]

theorem texts_pairListContent (outer inner : String) (pairs : Pairs) (rest : Content) :
    texts (pairListContent outer inner pairs rest).events =
      (shown (pairs.map (·.2))).map .ok ++ texts rest.events := by
  have hnil : texts Content.nil.events = [] := rfl
  simp only [pairListContent, events_element, texts_append, texts_elementEvents, texts_pairContent,
    hnil, List.append_nil]

theorem withoutTexts_pairListContent (outer inner : String) (pairs : Pairs) {rest rest' : Content}
    (h : withoutTexts rest.events = rest'.events) :
    withoutTexts (pairListContent outer inner pairs rest).events =
      (pairListContent outer inner (blankPairs pairs) rest').events := by
  have hnil : withoutTexts Content.nil.events = Content.nil.events := rfl
  simp only [pairListContent, events_element, withoutTexts_append, withoutTexts_elementEvents,
    withoutTexts_pairContent, hnil, h]

namespace Request

variable (r : Request) (ps : Pairs)

/-- The events of a document around those of what its method element holds. -/
theorem events_document :
    (r.document ps).events =
      .instruction (encodeString "xml version=\"1.0\" encoding=\"UTF-8\"") ::
        elementEvents "SOAP-ENV:Envelope" envelopeAttributes
          (elementEvents "SOAP-ENV:Body" "" (elementEvents r.method methodAttributes
            (r.subjectContent (pairListContent "Properties" "PropertyList" ps .nil)).events)) := by
  simp [Document.events, document, content, Content.events, elementEvents, envelopeTag, writtenTag]

theorem texts_subjectContent (rest : Content) :
    texts (r.subjectContent rest).events = (shown r.values).map .ok ++ texts rest.events := by
  have hnil : texts Content.nil.events = [] := rfl
  cases r with
  | execute statement =>
    simp only [subjectContent, events_element, texts_append, texts_elementEvents,
      texts_leafContent, hnil, List.append_nil, values]
  | discover type restrictions =>
    rw [subjectContent, texts_leafContent, texts_pairListContent, ← List.append_assoc,
      ← List.map_append, ← shown_append]
    rfl

theorem withoutTexts_subjectContent {rest rest' : Content}
    (h : withoutTexts rest.events = rest'.events) :
    withoutTexts (r.subjectContent rest).events = (r.blank.subjectContent rest').events := by
  have hnil : withoutTexts Content.nil.events = Content.nil.events := rfl
  cases r with
  | execute statement =>
    simp only [subjectContent, blank, events_element, withoutTexts_append,
      withoutTexts_elementEvents, withoutTexts_leafContent, events_leafContent_blank, hnil, h]
  | discover type restrictions =>
    simp only [subjectContent, blank, withoutTexts_leafContent, events_leafContent_blank,
      withoutTexts_pairListContent _ _ _ h]

/-- The texts of a document are the values of the request and of its properties. -/
theorem texts_document :
    texts (r.document ps).events = (shown (r.values ++ ps.map (·.2))).map .ok := by
  have hnil : texts Content.nil.events = [] := rfl
  have hinstruction (raw : Bytes) (es : List Event) : texts (.instruction raw :: es) = texts es := rfl
  rw [events_document, hinstruction]
  simp only [texts_elementEvents, texts_subjectContent, texts_pairListContent, hnil,
    List.append_nil, shown_append, List.map_append]

/-- Without its texts a document is that of the request without its values. -/
theorem withoutTexts_document :
    withoutTexts (r.document ps).events = (r.blank.document (blankPairs ps)).events := by
  have hmethod : r.blank.method = r.method := by cases r <;> rfl
  have hinstruction (raw : Bytes) (es : List Event) :
      withoutTexts (.instruction raw :: es) = .instruction raw :: withoutTexts es := rfl
  have hnil : withoutTexts Content.nil.events = Content.nil.events := rfl
  have hproperties := withoutTexts_pairListContent "Properties" "PropertyList" ps hnil
  rw [events_document, events_document, hinstruction, hmethod]
  simp only [withoutTexts_elementEvents, withoutTexts_subjectContent r hproperties]

variable {r ps}

/-- **Envelopes hold no other elements.** The envelope of a request is a complete document that carries
no fault. It is read as the document of the request, with one element per pair; its texts are the
values without the white space at their ends, where something is left of them; and its other events
are those of the request without its values. -/
theorem envelope_keeps_skeleton {bytes : Bytes} (h : r.envelope ps = .ok bytes) :
    checkDocument bytes = .ok () ∧ fault? bytes = none ∧
      read bytes = ⟨(r.document ps).events, none⟩ ∧
      texts (read bytes).events = (shown (r.values ++ ps.map (·.2))).map .ok ∧
      withoutTexts (read bytes).events = (r.blank.document (blankPairs ps)).events := by
  have hread := read_envelope h
  refine ⟨check_of_describes hread, fault?_envelope h, hread, ?_, ?_⟩
  · rw [hread]
    exact texts_document r ps
  · rw [hread]
    exact withoutTexts_document r ps

/-- Values that look like markup, and one of which only white space is left. -/
theorem envelope_keeps_skeleton_of_markup :
    let r := Request.discover " </RequestType> " [("Catalog", "]]>&amp;\"'\n"), ("A", "\t ")]
    let ps : Pairs := [("PropertyList", "<x/>")]
    ∃ bytes, r.envelope ps = .ok bytes ∧ checkDocument bytes = .ok () ∧ fault? bytes = none ∧
      texts (read bytes).events = ["</RequestType>", "]]>&amp;\"'", "<x/>"].map .ok ∧
      withoutTexts (read bytes).events = ((Request.discover "" [("Catalog", ""), ("A", "")]).document
        [("PropertyList", "")]).events := by
  intro r ps
  have hnames : ∀ p ∈ r.restrictions ++ ps, isName p.1.toList = true := by decide
  obtain ⟨bytes, h⟩ := exists_envelope_iff.2 fun p hp => isName_iff.1 (hnames p hp)
  obtain ⟨hcheck, hfault, -, htexts, hskeleton⟩ := envelope_keeps_skeleton h
  have hshown : shown (r.values ++ ps.map (·.2)) =
      ["</RequestType>", "]]>&amp;\"'", "<x/>"] := by decide
  rw [hshown] at htexts
  exact ⟨bytes, h, hcheck, hfault, htexts, hskeleton⟩

end Request

end OlapClient.Soap
