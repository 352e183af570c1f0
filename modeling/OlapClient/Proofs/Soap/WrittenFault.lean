import OlapClient.Proofs.Markup.Written
import OlapClient.Proofs.Soap.Edited

namespace OlapClient.Soap

open Markup
open Utf8 (encode encodeString)

/-!
# Faults are read back

A server writes a fault with a code, a text, and a detail with the description of an error. Whatever
these texts are, and in whatever order the three elements stand, the scan for a fault finds them.

* `FaultLayout` — how an envelope is written: prefixes, declarations, white space.
* `FaultTexts` — what a fault says, and `FaultTexts.fault`, the fault that it is.
* `FaultLayout.envelope`, `FaultLayout.body` — the envelope of a fault, and its bytes.
* `scan_part`, `scan_parts` — what a scan takes of the elements of a fault.
* `foldl_takes_perm` — their order does not matter.
* `fault?_body` — the fault that a body carries is the one that was written.
-/

/-- How an envelope is written: a prefix for some of the elements, attributes of the envelope, and
white space between elements. -/
structure FaultLayout where
  space : String → Option String
  declarations : List (String × String)
  gap : List Char
  space_named : ∀ name p, space name = some p → isTagName p.toList = true ∧ ':' ∉ p.toList
  declarations_named : ∀ a ∈ declarations, isTagName a.1.toList = true
  gap_blank : ∀ c ∈ gap, isSpaceChar c = true

/-- What a fault says. The reader takes white space off the ends of a text, so code and message have
none there. -/
structure FaultTexts where
  code : String
  message : String
  description : String
  code_trimmed : isTrimmed code.toList = true
  message_trimmed : isTrimmed message.toList = true

/-- The fault that says this: in the place of an empty message stands the description. -/
def FaultTexts.fault (t : FaultTexts) : Fault :=
  ⟨t.code, if t.message = "" then t.description else t.message⟩

/-- The elements of a fault. -/
inductive FaultPart where
  | code
  | message
  | detail
deriving DecidableEq, Repr

/-- All elements of a fault, in the usual order. -/
def FaultPart.all : List FaultPart :=
  [.code, .message, .detail]

namespace FaultLayout

/-- The name of an element with its prefix. -/
def name (l : FaultLayout) (element : String) : String :=
  match l.space element with
  | none => element
  | some p => p ++ ":" ++ element

/-- A content with white space around it. -/
def indented (l : FaultLayout) (content : List Char) : List Char :=
  l.gap ++ content ++ l.gap

/-- The tag that describes the error. -/
def errorTag (l : FaultLayout) (t : FaultTexts) : Tag :=
  writtenTag (l.name "Error") (writeAttributes [("Description", t.description)])

/-- An element of a fault as it is written. -/
def part (l : FaultLayout) (t : FaultTexts) : FaultPart → List Char
  | .code => leaf (l.name "faultcode") t.code
  | .message => leaf (l.name "faultstring") t.message
  | .detail => element (l.name "detail") (l.indented
      (emptyElement (l.name "Error") (writeAttributes [("Description", t.description)])))

/-- An element of a fault as it is read. -/
def partEvents (l : FaultLayout) (t : FaultTexts) : FaultPart → List Event
  | .code => elementEvents (l.name "faultcode") "" (textEvents t.code)
  | .message => elementEvents (l.name "faultstring") "" (textEvents t.message)
  | .detail => elementEvents (l.name "detail") "" [.empty (l.errorTag t)]

/-- The envelope of a fault with these elements. -/
def envelope (l : FaultLayout) (t : FaultTexts) (parts : List FaultPart) : List Char :=
  elementWith (l.name "Envelope") (writeAttributes l.declarations)
    (l.indented (element (l.name "Body")
      (l.indented (element (l.name "Fault") (parts.flatMap fun p => l.indented (l.part t p))))))

/-- The bytes of the envelope. -/
def body (l : FaultLayout) (t : FaultTexts) (parts : List FaultPart) : Bytes :=
  encode (l.envelope t parts)

/-- The events of the envelope. -/
def events (l : FaultLayout) (t : FaultTexts) (parts : List FaultPart) : List Event :=
  elementEvents (l.name "Envelope") (writeAttributes l.declarations)
    (elementEvents (l.name "Body") ""
      (elementEvents (l.name "Fault") "" (parts.flatMap (l.partEvents t))))

variable (l : FaultLayout) {element : String} {cs : List Char} {es : List Event}

/-! ### Reading the envelope -/

theorem isTagName_name (h : isTagName element.toList = true) :
    isTagName (l.name element).toList = true := by
  unfold name
  cases hspace : l.space element with
  | none => exact h
  | some p =>
    have hp := (l.space_named element p hspace).1
    have hcolon : isTagName ":".toList = true := by decide
    simp only [isTagName, Bool.and_eq_true, Bool.not_eq_true', List.all_eq_true] at h hp hcolon ⊢
    simp only [String.toList_append, List.mem_append]
    refine ⟨by simp, fun c hc => ?_⟩
    rcases hc with (hc | hc) | hc
    · exact hp.2 c hc
    · exact hcolon.2 c hc
    · exact h.2 c hc

theorem localName_name (h : ':' ∉ element.toList) :
    localName (encodeString (l.name element)) = element := by
  unfold name
  cases hspace : l.space element with
  | none => exact localName_encodeString h
  | some p =>
    obtain ⟨-, hcolon⟩ := l.space_named element p hspace
    rw [localName_prefixed p.toList element.toList (by simp) hcolon, String.ofList_toList]

/-- The tag of an element has its name, whatever the prefix and the attributes. -/
theorem localName_tag (element : String) (h : ':' ∉ element.toList) (attributes : String) :
    (writtenTag (l.name element) attributes).localName = element :=
  l.localName_name h

/-- White space between elements is passed over. -/
theorem reads_gap : Reads l.gap [] := by
  intro opened rest
  refine readFrom_skip (fun b hb => ?_) rest
  obtain ⟨c, hc, hb⟩ := List.mem_flatMap.1 hb
  have hspace := l.gap_blank c hc
  simp only [isSpaceChar, Bool.or_eq_true, beq_iff_eq] at hspace
  rcases hspace with ((rfl | rfl) | rfl) | rfl <;>
    rw [Utf8.encodeChar_ascii (by decide), List.mem_singleton] at hb <;> subst hb <;> rfl

theorem reads_indented (h : Reads cs es) : Reads (l.indented cs) es := by
  have hread := (l.reads_gap.append h).append l.reads_gap
  rwa [List.nil_append, List.append_nil] at hread

/-- The description is the one that was written. -/
theorem attribute?_errorTag (t : FaultTexts) :
    (l.errorTag t).attribute? "Description" = some t.description := by
  have hlocal : localName (encodeString "Description") = "Description" :=
    localName_encodeString (by decide)
  exact attribute?_write (a := ("Description", t.description))
    (by simp only [List.forall_mem_singleton]; decide) (by simp) (by simp [hlocal])

theorem reads_part (t : FaultTexts) (p : FaultPart) : Reads (l.part t p) (l.partEvents t p) := by
  cases p with
  | code => exact reads_leaf (l.isTagName_name (by decide)) t.code_trimmed
  | message => exact reads_leaf (l.isTagName_name (by decide)) t.message_trimmed
  | detail =>
    refine .element (l.isTagName_name (by decide)) (l.reads_indented ?_)
    refine reads_emptyElement (l.isTagName_name (by decide)) (attributeBytes_write ?_)
    simp only [List.forall_mem_singleton]
    decide

theorem read_body (t : FaultTexts) (parts : List FaultPart) :
    read (l.body t parts) = ⟨l.events t parts, none⟩ := by
  have hparts : Reads (parts.flatMap fun p => l.indented (l.part t p))
      (parts.flatMap (l.partEvents t)) :=
    .flatMap fun p _ => l.reads_indented (l.reads_part t p)
  exact read_of_reads (.elementWith (l.isTagName_name (by decide))
    (attributeBytes_write l.declarations_named) (l.reads_indented
      (.element (l.isTagName_name (by decide)) (l.reads_indented
        (.element (l.isTagName_name (by decide)) hparts)))))

end FaultLayout

/-! ### Scanning the envelope -/

/-- What a scan has after an element of the fault. An empty text is none. -/
def FaultTexts.takes (t : FaultTexts) (s : FaultScan) : FaultPart → FaultScan
  | .code => { s with code := if t.code = "" then s.code else some t.code }
  | .message => { s with message := if t.message = "" then s.message else some t.message }
  | .detail => { s with description := s.description <|> some t.description }

namespace FaultScan

variable {s : FaultScan} {l : FaultLayout} {t : FaultTexts} {fs : List Event}

/-- An element of a fault that holds a text gives its field that text. -/
theorem scan_leaf {f : FaultField} {tag : Tag} {value : String} (hplace : s.place = .fault)
    (htag : tag.localName = f.name) :
    s.scan (.start tag :: (textEvents value ++ .close tag.name :: fs)) =
      FaultScan.scan { s.write f (if value = "" then none else some value) with field := none }
        fs := by
  have hplain : ∀ e ∈ textEvents value, e.isPlain = true := by
    unfold textEvents
    split <;> simp [Event.isPlain]
  have htexts : (runTexts (textEvents value)).getLast? =
      if value = "" then none else some value := by
    unfold textEvents
    split
    · rfl
    · simp [runTexts, runText, characters_encode_escape]
  rw [scan_field hplace htag hplain, htexts]

/-- A scan takes each element of a fault, and goes on behind it. -/
theorem scan_part (p : FaultPart) (hplace : s.place = .fault) (hfield : s.field = none) :
    s.scan (l.partEvents t p ++ fs) = (t.takes s p).scan fs := by
  have hevents (name : String) (es : List Event) : elementEvents name "" es ++ fs =
      .start (writtenTag name "") :: (es ++ .close (encodeString name) :: fs) := by
    simp [elementEvents]
  obtain ⟨place, field, code, message, description⟩ := s
  cases hplace
  cases hfield
  cases p with
  | code =>
    have hname := l.localName_tag "faultcode" (by decide) ""
    rw [FaultLayout.partEvents, hevents]
    refine (scan_leaf (f := .code) rfl hname).trans ?_
    simp only [write, FaultTexts.takes]
    split <;> rfl
  | message =>
    have hname := l.localName_tag "faultstring" (by decide) ""
    rw [FaultLayout.partEvents, hevents]
    refine (scan_leaf (f := .message) rfl hname).trans ?_
    simp only [write, FaultTexts.takes]
    split <;> rfl
  | detail =>
    have hdetail := l.localName_tag "detail" (by decide) ""
    have hclose : localName (encodeString (l.name "detail")) = "detail" := hdetail
    have herror : (l.errorTag t).localName = "Error" := l.localName_tag "Error" (by decide) _
    rw [FaultLayout.partEvents, hevents]
    simp [scan, step, onStart, onEmpty, onClose, hdetail, hclose, herror, describe,
      l.attribute?_errorTag, FaultTexts.takes]

/-- A scan takes the elements of a fault, one after the other. -/
theorem scan_parts (parts : List FaultPart) (hplace : s.place = .fault) (hfield : s.field = none) :
    s.scan (parts.flatMap (l.partEvents t) ++ fs) = (parts.foldl t.takes s).scan fs := by
  induction parts generalizing s with
  | nil => rfl
  | cons p parts ih =>
    rw [List.flatMap_cons, List.append_assoc, scan_part p hplace hfield, List.foldl_cons]
    exact ih (by cases p <;> exact hplace) (by cases p <;> exact hfield)

end FaultScan

/-- Elements of a fault may be exchanged: each has a field of its own. -/
theorem FaultTexts.takes_comm (t : FaultTexts) (s : FaultScan) (p p' : FaultPart) :
    t.takes (t.takes s p) p' = t.takes (t.takes s p') p := by
  cases p <;> cases p' <;> rfl

/-- So their order does not matter. -/
theorem FaultTexts.foldl_takes_perm {t : FaultTexts} {parts : List FaultPart}
    (h : parts.Perm FaultPart.all) (s : FaultScan) :
    parts.foldl t.takes s = FaultPart.all.foldl t.takes s :=
  h.foldl_eq' (fun p _ p' _ s => t.takes_comm s p p') s

/-- What a scan answers behind all elements of a fault. -/
theorem FaultTexts.answer_takes_all (t : FaultTexts) :
    (FaultPart.all.foldl t.takes { place := .fault }).answer = some t.fault := by
  unfold FaultTexts.fault
  by_cases hcode : t.code = "" <;> by_cases hmessage : t.message = "" <;>
    simp [FaultPart.all, FaultTexts.takes, FaultScan.answer, hcode, hmessage]

/-- **A written fault is read back**, with the code and the message that were written, or with the
description where the message is empty. This holds of all texts without white space at the ends, of
all prefixes, and in whatever order the elements of the fault stand. -/
theorem fault?_body (l : FaultLayout) (t : FaultTexts) {parts : List FaultPart}
    (h : parts.Perm FaultPart.all) : fault? (l.body t parts) = some t.fault := by
  have henvelope := l.localName_tag "Envelope" (by decide)
    (writeAttributes l.declarations)
  have hbody := l.localName_tag "Body" (by decide) ""
  have hfault := l.localName_tag "Fault" (by decide) ""
  have hclose : localName (encodeString (l.name "Fault")) = "Fault" := hfault
  have hplace : (parts.foldl t.takes { place := .fault }).place = .fault := by
    rw [FaultTexts.foldl_takes_perm h]
    rfl
  rw [fault?, l.read_body, FaultLayout.events]
  simp only [elementEvents, List.cons_append, List.append_assoc, FaultScan.scan, FaultScan.step,
    FaultScan.onStart, henvelope, hbody, hfault, if_true]
  rw [FaultScan.scan_parts parts rfl rfl]
  simp only [FaultScan.scan, FaultScan.step, FaultScan.onClose, hclose, hplace,
    true_and, if_true]
  rw [FaultTexts.foldl_takes_perm h, t.answer_takes_all]

end OlapClient.Soap
