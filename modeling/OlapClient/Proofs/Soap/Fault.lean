import OlapClient.Proofs.Soap.Document
import OlapClient.Soap.Fault

namespace OlapClient.Soap

open Markup

/-!
# Faults in documents

A document carries a fault if it is an envelope and the first element of its body is a fault. The
scan for faults does not follow the nesting of elements: it looks at the tags that open one, in
document order.

* `Document.HasFault` — what it means that a document carries a fault.
* `faultFollowsBody` — what the scan looks for: the first start tag of a body, and a start tag of a
  fault right after it.
* `fault?_isSome` — the scan finds a fault in an envelope if it finds these tags.
* `Document.BodyLeads` — the body comes first among the elements of its name, and is not empty.
* `fault_iff_hasFault` — on documents of this kind the scan finds exactly the faults.
-/

/-! ### Faults of a document -/

/-- Whether an event is the start tag of an element of this name. -/
def starts (name : String) : Event → Bool
  | .start tag => tag.localName == name
  | _ => false

namespace Document

/-- The body of an envelope: its first element of that name. -/
def body? (d : Document) : Option Child :=
  d.content.children.find? (·.localName == "Body")

/-- The first element in the body of an envelope. -/
def leading? (d : Document) : Option Child :=
  d.body?.bind (·.children.head?)

/-- A document carries a fault if it is an envelope whose body begins with an element that is a
fault, with or without content. -/
def HasFault (d : Document) : Prop :=
  d.root.localName = "Envelope" ∧ d.leading?.map Child.localName = some "Fault"

instance (d : Document) : Decidable d.HasFault :=
  inferInstanceAs (Decidable (_ ∧ _))

/-- No element that comes before the body of an envelope holds one of that name, and the body holds
an element. Where this is a fault, it has a start tag and an end tag. -/
structure BodyLeads (d : Document) : Prop where
  none_before : ∀ c ∈ d.content.children.takeWhile (!·.localName == "Body"),
    ∀ e ∈ c.openings, starts "Body" e = false
  holds_element : ∀ body, d.body? = some body → ∃ first, body.children.head? = some first ∧
    (first.localName = "Fault" → first.inner.isSome = true)

end Document

/-- Whether the first start tag of a body is followed by that of a fault, among the tags that open
an element. -/
def faultFollowsBody (openings : List Event) : Bool :=
  match openings.dropWhile (!starts "Body" ·) with
  | [] => false
  | _ :: following => following.head?.any (starts "Fault")

theorem faultFollowsBody_of_starts {e : Event} (h : starts "Body" e = true) (es : List Event) :
    faultFollowsBody (e :: es) = es.head?.any (starts "Fault") := by
  simp [faultFollowsBody, h]

theorem faultFollowsBody_of_not_starts {e : Event} (h : starts "Body" e = false)
    (es : List Event) : faultFollowsBody (e :: es) = faultFollowsBody es := by
  simp [faultFollowsBody, h]

theorem faultFollowsBody_append {es : List Event} (h : ∀ e ∈ es, starts "Body" e = false)
    (fs : List Event) : faultFollowsBody (es ++ fs) = faultFollowsBody fs := by
  induction es with
  | nil => rfl
  | cons e es ih =>
    rw [List.cons_append, faultFollowsBody_of_not_starts (h e List.mem_cons_self)]
    exact ih fun e' he' => h e' (List.mem_cons_of_mem e he')

/-! ### The scan -/

namespace FaultScan

variable {s : FaultScan} {e : Event} {es : List Event}

/-- Where no tag opens, the scan goes on at the same place, unless it is in a fault. -/
theorem step_of_not_opening (h : e.isOpening = false) (hplace : s.place ≠ .fault) :
    ∃ s', s.step e = .more s' ∧ s'.place = s.place := by
  cases e with
  | start tag => cases h
  | empty tag => cases h
  | text raw =>
    refine ⟨s.onText raw, rfl, ?_⟩
    unfold onText
    split <;> rfl
  | close name =>
    show ∃ s', s.onClose name = .more s' ∧ s'.place = s.place
    unfold onClose
    dsimp only
    split
    · rename_i hfault
      exact absurd hfault.2 hplace
    · split <;> exact ⟨_, rfl, rfl⟩
  | _ => exact ⟨s, rfl, rfl⟩

/-- In a fault, the scan goes on there, or its answer is that fault. -/
theorem step_of_fault (e : Event) (hplace : s.place = .fault) :
    (∃ s', s.step e = .more s' ∧ s'.place = .fault) ∨ s.step e = .done s.answer := by
  cases e with
  | start tag =>
    left
    show ∃ s', s.onStart tag = .more s' ∧ s'.place = .fault
    simp only [onStart, hplace]
    split
    · exact ⟨_, rfl, rfl⟩
    · split
      · exact ⟨_, rfl, rfl⟩
      · split <;> exact ⟨_, rfl, hplace⟩
  | empty tag =>
    left
    show ∃ s', s.onEmpty tag = .more s' ∧ s'.place = .fault
    simp only [onEmpty, hplace]
    split <;> exact ⟨_, rfl, hplace⟩
  | text raw =>
    refine .inl ⟨s.onText raw, rfl, ?_⟩
    unfold onText
    split <;> exact hplace
  | close name =>
    show (∃ s', s.onClose name = .more s' ∧ s'.place = .fault) ∨ s.onClose name = .done s.answer
    unfold onClose
    dsimp only
    split
    · exact .inr rfl
    · split <;> exact .inl ⟨_, rfl, hplace⟩
  | _ => exact .inl ⟨s, rfl, hplace⟩

/-- A scan that has come to a fault finds it, however the events go on. -/
theorem scan_of_fault (hplace : s.place = .fault) : (s.scan es).isSome = true := by
  induction es generalizing s with
  | nil => simp [scan, answer, hplace]
  | cons e es ih =>
    rcases step_of_fault e hplace with ⟨s', hstep, hplace'⟩ | hstep
    · simp only [scan, hstep]
      exact ih hplace'
    · simp [scan, hstep, answer, hplace]

/-- In the body, the next tag that opens an element decides. -/
theorem scan_of_firstChild (hplace : s.place = .firstChild) :
    (s.scan es).isSome = (openings es).head?.any (starts "Fault") := by
  induction es generalizing s with
  | nil => simp [scan, answer, hplace]
  | cons e es ih =>
    by_cases hopening : e.isOpening = true
    · -- a fault is followed up to its end, at any other tag the scan stops
      cases e with
      | start tag =>
        by_cases hname : tag.localName = "Fault"
        · simp [scan, step, onStart, hplace, hname, starts, scan_of_fault]
        · simp [scan, step, onStart, hplace, hname, starts]
      | empty tag => simp [scan, step, onEmpty, hplace, starts]
      | _ => cases hopening
    · rw [Bool.not_eq_true] at hopening
      obtain ⟨s', hstep, hplace'⟩ :=
        step_of_not_opening hopening (s := s) (by rw [hplace]; decide)
      rw [openings_of_not_opening hopening]
      simp only [scan, hstep]
      exact ih (hplace'.trans hplace)

/-- In an envelope, the first start tag of a body counts, wherever it stands. -/
theorem scan_of_body (hplace : s.place = .body) :
    (s.scan es).isSome = faultFollowsBody (openings es) := by
  induction es generalizing s with
  | nil => simp [scan, answer, hplace, faultFollowsBody]
  | cons e es ih =>
    by_cases hopening : e.isOpening = true
    · cases e with
      | start tag =>
        by_cases hname : tag.localName = "Body"
        · rw [openings_start, faultFollowsBody_of_starts (by simp [starts, hname])]
          simp only [scan, step, onStart, hplace, hname, if_true]
          exact scan_of_firstChild rfl
        · rw [openings_start, faultFollowsBody_of_not_starts (by simp [starts, hname])]
          simp only [scan, step, onStart, hplace, hname, if_false]
          exact ih hplace
      | empty tag =>
        rw [openings_empty, faultFollowsBody_of_not_starts rfl]
        simp only [scan, step, onEmpty, hplace]
        exact ih hplace
      | _ => cases hopening
    · rw [Bool.not_eq_true] at hopening
      obtain ⟨s', hstep, hplace'⟩ :=
        step_of_not_opening hopening (s := s) (by rw [hplace]; decide)
      rw [openings_of_not_opening hopening]
      simp only [scan, hstep]
      exact ih (hplace'.trans hplace)

/-- Asides do not matter to a scan. -/
theorem scan_asides {asides : List Event} (h : ∀ e ∈ asides, isAside e = true) :
    s.scan (asides ++ es) = s.scan es := by
  induction asides with
  | nil => rfl
  | cons e asides ih =>
    have hstep : s.step e = .more s := by
      have := h e List.mem_cons_self
      cases e <;> first | rfl | cases this
    simp only [List.cons_append, scan, hstep]
    exact ih fun e' he' => h e' (List.mem_cons_of_mem e he')

end FaultScan

theorem openings_asides {asides : List Event} (h : ∀ e ∈ asides, isAside e = true) :
    openings asides = [] :=
  openings_of_plain fun e he => isPlain_of_isAside (h e he)

/-- The scan finds a fault in the documents that are envelopes and have the start tag of a fault
right after the first one of a body. -/
theorem fault?_isSome {d : Document} {body : Bytes} (h : d.Describes body) :
    (fault? body).isSome = true ↔
      d.root.localName = "Envelope" ∧ faultFollowsBody d.content.openings = true := by
  have hscan : fault? body = FaultScan.scan {} (.start d.root ::
      (d.content.events ++ .close d.root.name :: d.after)) := by
    unfold fault?
    rw [h]
    exact FaultScan.scan_asides d.before_aside
  rw [hscan]
  by_cases hroot : d.root.localName = "Envelope"
  · simp only [FaultScan.scan, FaultScan.step, FaultScan.onStart, hroot, if_true, true_and]
    rw [FaultScan.scan_of_body rfl]
    simp [Content.openings, openings_asides d.after_aside]
  · simp [FaultScan.scan, FaultScan.step, FaultScan.onStart, hroot]

/-! ### Documents in which the body leads -/

/-- An element begins with a start tag of a name if that is its own and it is no empty tag. -/
theorem head_openings_append (c : Child) (name : String) (es : List Event) :
    (c.openings ++ es).head?.any (starts name) = (c.inner.isSome && c.localName == name) := by
  obtain ⟨tag, _ | inner⟩ := c <;> rfl

/-- An element that holds one begins with its own start tag, which that one follows. -/
theorem openings_of_head_children {c first : Child} (h : c.children.head? = some first) :
    ∃ es, c.openings = .start c.tag :: (first.openings ++ es) := by
  obtain ⟨tag, _ | inner⟩ := c
  · cases h
  · obtain ⟨rest, hrest⟩ := List.head?_eq_some_iff.1 h
    rw [Child.children_element] at hrest
    exact ⟨rest.flatMap Child.openings, by simp [Content.openings_eq_flatMap inner, hrest]⟩

/-- Where the body leads, no tag before it is one of its name. -/
theorem Document.BodyLeads.starts_eq_false {d : Document} (h : d.BodyLeads) {before : List Child}
    (hbefore : d.content.children.takeWhile (!·.localName == "Body") = before) :
    ∀ e ∈ before.flatMap Child.openings, starts "Body" e = false := by
  intro e he
  obtain ⟨c, hc, hin⟩ := List.mem_flatMap.1 he
  rw [← hbefore] at hc
  exact h.none_before c hc e hin

/-- Where the body leads, the scan looks at its first element. -/
theorem faultFollowsBody_of_bodyLeads {d : Document} (h : d.BodyLeads) :
    faultFollowsBody d.content.openings = true ↔
      d.leading?.map Child.localName = some "Fault" := by
  rw [Content.openings_eq_flatMap]
  cases hbody : d.body? with
  | none =>
    -- no element is called so, hence none that is inside of one
    have hother : ∀ c ∈ d.content.children, (!c.localName == "Body") = true := by
      intro c hc
      simpa using List.find?_eq_none.1 hbody c hc
    have hall : d.content.children.takeWhile (!·.localName == "Body") = d.content.children := by
      rw [← List.append_nil d.content.children, List.takeWhile_append_of_pos hother,
        List.takeWhile_nil]
    have hfalse := faultFollowsBody_append (h.starts_eq_false hall) []
    rw [List.append_nil] at hfalse
    rw [hfalse]
    simp [faultFollowsBody, Document.leading?, hbody]
  | some body =>
    obtain ⟨first, hfirst, hwhole⟩ := h.holds_element body hbody
    obtain ⟨hname, before, after, hchildren, hothers⟩ := List.find?_eq_some_iff_append.1 hbody
    obtain ⟨es, hopenings⟩ := openings_of_head_children hfirst
    -- what stands before the body is skipped, and the tag after the body's own one decides
    have hbefore : d.content.children.takeWhile (!·.localName == "Body") = before := by
      rw [hchildren, List.takeWhile_append_of_pos hothers]
      simp [hname]
    have hstarts : starts "Body" (.start body.tag) = true := hname
    have hscan : faultFollowsBody (d.content.children.flatMap Child.openings) =
        (first.inner.isSome && first.localName == "Fault") := by
      rw [hchildren, List.flatMap_append, faultFollowsBody_append (h.starts_eq_false hbefore),
        List.flatMap_cons, hopenings, List.cons_append, faultFollowsBody_of_starts hstarts,
        List.append_assoc, head_openings_append]
    have hleading : d.leading? = some first := by
      simp [Document.leading?, hbody, hfirst]
    rw [hscan, hleading, Option.map_some, Option.some.injEq, Bool.and_eq_true, beq_iff_eq]
    exact ⟨And.right, fun hfault => ⟨hwhole hfault, hfault⟩⟩

/-- **Faults are found where the body leads.** A body that is accepted is a document. The scan finds
a fault in it if it is an envelope with the start tag of a fault right after the first one of a body;
these are the documents that carry a fault, provided that in envelopes the body leads. -/
theorem fault_iff_hasFault {body : Bytes} (h : checkDocument body = .ok ()) :
    ∃ d : Document, d.Describes body ∧
      ((fault? body).isSome = true ↔
        d.root.localName = "Envelope" ∧ faultFollowsBody d.content.openings = true) ∧
      ((d.root.localName = "Envelope" → d.BodyLeads) →
        ((fault? body).isSome = true ↔ d.HasFault)) := by
  obtain ⟨d, hd⟩ := exists_document h
  refine ⟨d, hd, fault?_isSome hd, fun hlead => ?_⟩
  rw [fault?_isSome hd]
  constructor
  · rintro ⟨hroot, hfollows⟩
    exact ⟨hroot, (faultFollowsBody_of_bodyLeads (hlead hroot)).1 hfollows⟩
  · rintro ⟨hroot, hfault⟩
    exact ⟨hroot, (faultFollowsBody_of_bodyLeads (hlead hroot)).2 hfault⟩

/-- An envelope whose header holds an empty element of the fault's name, before a body that begins
with a fault. -/
theorem fault_iff_hasFault_after_header :
    let body := Utf8.encodeString
      "<e:Envelope><e:Header><Fault/></e:Header><e:Body><e:Fault></e:Fault></e:Body></e:Envelope>"
    ∃ d : Document, d.Describes body ∧ (fault? body).isSome = true ∧ d.HasFault := by
  intro body
  let tag (name : String) : Tag := ⟨Utf8.encodeString name, []⟩
  let fault : Child := ⟨tag "e:Fault", some .nil⟩
  let known : Document := ⟨[], tag "e:Envelope", .element (tag "e:Header") (.empty (tag "Fault") .nil)
    (.element (tag "e:Body") (.element fault.tag .nil .nil) .nil), [], by simp, by decide +kernel,
    by simp⟩
  have hread : read body = ⟨known.events, none⟩ := by decide +kernel
  have hlead : known.BodyLeads := by
    constructor
    · decide +kernel
    · intro b hb
      have hfirst : known.leading?.map (·.inner.isSome) = some true := by decide +kernel
      obtain ⟨first, hleading, hinner⟩ := Option.map_eq_some_iff.1 hfirst
      rw [Document.leading?, hb] at hleading
      exact ⟨first, hleading, fun _ => hinner⟩
  obtain ⟨d, hd, _, hiff⟩ := fault_iff_hasFault (check_of_describes hread)
  obtain rfl : known = d := Document.Describes.unique hread hd
  have hfault : (fault? body).isSome = true := by
    unfold fault?
    rw [hread]
    decide +kernel
  exact ⟨known, hd, hfault, (hiff fun _ => hlead).1 hfault⟩

/-- Where the body does not lead, the scan may find a fault in a document that carries none: here the
header holds an element of the body's name. An empty fault is passed over. -/
theorem fault?_isSome_of_header_body :
    let strayBody := Utf8.encodeString
      "<Envelope><Header><Body><Fault></Fault></Body></Header><Body><root></root></Body></Envelope>"
    let emptyFault := Utf8.encodeString "<Envelope><Body><Fault/></Body></Envelope>"
    (∃ d : Document, d.Describes strayBody ∧ (fault? strayBody).isSome = true ∧ ¬ d.HasFault) ∧
      ∃ d : Document, d.Describes emptyFault ∧ fault? emptyFault = none ∧ d.HasFault := by
  intro strayBody emptyFault
  let tag (name : String) : Tag := ⟨Utf8.encodeString name, []⟩
  let leaf (name : String) : Content := .element (tag name) .nil .nil
  let stray : Document := ⟨[], tag "Envelope", .element (tag "Header")
    (.element (tag "Body") (leaf "Fault") .nil) (.element (tag "Body") (leaf "root") .nil), [],
    by simp, by decide +kernel, by simp⟩
  let empty : Document := ⟨[], tag "Envelope",
    .element (tag "Body") (.empty (tag "Fault") .nil) .nil, [], by simp, by decide +kernel, by simp⟩
  have hstray : read strayBody = ⟨stray.events, none⟩ := by decide +kernel
  have hempty : read emptyFault = ⟨empty.events, none⟩ := by decide +kernel
  constructor
  · refine ⟨stray, hstray, ?_, by decide +kernel⟩
    unfold fault?
    rw [hstray]
    decide +kernel
  · refine ⟨empty, hempty, ?_, by decide +kernel⟩
    unfold fault?
    rw [hempty]
    decide +kernel

end OlapClient.Soap
