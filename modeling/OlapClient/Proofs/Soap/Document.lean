import OlapClient.Proofs.Markup.Content
import OlapClient.Soap.Document

namespace OlapClient.Soap

open Markup

/-!
# Complete documents

The check of a response body counts open elements; it accepts the bodies that are one document.

* `Document` — an envelope or a bare `root` with its content, and what may stand around it.
* `Document.Describes` — the body is read to its end, as the events of the document.
* `DocumentScan.run_content`, `DocumentScan.run_before` — the count over a content, and before it.
* `exists_document`, `check_of_describes` — accepted bodies and documents.
* `Document.events_injective` — a body has one document at most.
* `accepts_exactly_documents` — the check accepts exactly the complete documents.
-/

/-- Whether an event may stand outside the document element: declarations, processing instructions,
comments and document types. -/
def isAside : Event → Bool
  | .comment _ | .doctype _ | .instruction _ => true
  | _ => false

theorem isPlain_of_isAside {e : Event} (h : isAside e = true) : e.isPlain = true := by
  cases e <;> first | rfl | cases h

theorem asides_nil : ∀ e ∈ ([] : List Event), isAside e = true :=
  List.forall_mem_nil _

/-- A complete document: one element that may hold a document, and asides around it. -/
structure Document where
  before : List Event
  root : Tag
  content : Content
  after : List Event
  before_aside : ∀ e ∈ before, isAside e = true
  root_named : isDocumentName root.localName = true
  after_aside : ∀ e ∈ after, isAside e = true

namespace Document

/-- The events of a document, in order. -/
def events (d : Document) : List Event :=
  d.before ++ .start d.root :: (d.content.events ++ .close d.root.name :: d.after)

/-- The reader reads the body to its end without an error, and delivers the document's events. -/
def Describes (d : Document) (body : Bytes) : Prop :=
  read body = ⟨d.events, none⟩

end Document

/-! ### The count of open elements -/

namespace DocumentScan

variable {s s' : DocumentScan} {n : Nat} {e : Event} {es : List Event} {opened last : List Bytes}

theorem step_aside (h : isAside e = true) : s.step e = .ok s := by
  cases e <;> first | rfl | cases h

theorem run_asides {asides : List Event} (h : ∀ e ∈ asides, isAside e = true) :
    s.run (asides ++ es) = s.run es := by
  induction asides with
  | nil => rfl
  | cons e asides ih =>
    simp only [List.cons_append, run, step_aside (h e List.mem_cons_self)]
    exact ih fun e' he' => h e' (List.mem_cons_of_mem e he')

theorem run_cons_eq_ok (h : s.run (e :: es) = .ok s') :
    ∃ s₁, s.step e = .ok s₁ ∧ s₁.run es = .ok s' := by
  unfold run at h
  split at h
  · cases h
  · rename_i s₁ hstep
    exact ⟨s₁, hstep, h⟩

theorem run_append_eq_ok {fs : List Event} (h : s.run (es ++ fs) = .ok s') :
    ∃ middle, s.run es = .ok middle ∧ middle.run fs = .ok s' := by
  induction es generalizing s with
  | nil => exact ⟨s, rfl, h⟩
  | cons e es ih =>
    obtain ⟨s₁, hstep, hrun⟩ := run_cons_eq_ok h
    obtain ⟨middle, hmiddle, hrest⟩ := ih hrun
    exact ⟨middle, by rw [run, hstep]; exact hmiddle, hrest⟩

theorem step_plain (h : e.isPlain = true) : step ⟨n + 1, false⟩ e = .ok ⟨n + 1, false⟩ := by
  cases e <;> simp_all [Event.isPlain, step]

/-- Within the document element, a content leaves the count as it was. -/
theorem run_content (c : Content) :
    run ⟨n + 1, false⟩ (c.events ++ es) = run ⟨n + 1, false⟩ es := by
  induction c generalizing n es with
  | nil => rfl
  | event e plain rest ih =>
    simp only [Content.events, List.cons_append, run, step_plain plain]
    exact ih
  | empty tag rest ih =>
    simp only [Content.events, List.cons_append, run, step]
    exact ih
  | element tag inner rest ihinner ihrest =>
    have hstart : step ⟨n + 1, false⟩ (.start tag) = .ok ⟨n + 2, false⟩ := by simp [step]
    have hclose : step ⟨n + 2, false⟩ (.close tag.name) = .ok ⟨n + 1, false⟩ := by simp [step]
    simp only [Content.events, List.cons_append, List.append_assoc, run, hstart]
    rw [ihinner]
    simp only [run, hclose]
    exact ihrest

/-- The count follows the open elements, and none is open once the document element has ended. -/
theorem run_depth (h : s.run es = .ok s') (hopened : openAfter opened es = some last)
    (hdepth : s.depth = opened.length) (hclosed : s.closed = true → s.depth = 0) :
    s'.depth = last.length ∧ (s'.closed = true → s'.depth = 0) := by
  induction es generalizing s opened with
  | nil =>
    cases h
    cases hopened
    exact ⟨hdepth, hclosed⟩
  | cons e es ih =>
    obtain ⟨s₁, hstep, hrun⟩ := run_cons_eq_ok h
    cases e with
    | start tag =>
      rw [openAfter_start] at hopened
      simp only [step] at hstep
      split at hstep
      · cases hstep
      · rename_i hopen
        split at hstep
        · cases hstep
        · cases hstep
          exact ih hrun hopened (by simp [hdepth]) (fun hc => absurd hc hopen)
    | close name =>
      cases hstep
      cases opened with
      | nil => cases hopened
      | cons expected outer =>
        have hlength : s.depth - 1 = outer.length := by simp [hdepth]
        refine ih hrun (openAfter_close hopened).2 hlength fun hc => ?_
        -- either the last element ends here, or none was open before
        rcases Bool.or_eq_true_iff.1 hc with hbefore | hnow
        · have := hclosed hbefore
          simp only
          omega
        · simpa using hnow
    | empty tag | text raw | cdata raw =>
      simp only [step] at hstep
      split at hstep
      · cases hstep
      · cases hstep
        exact ih hrun hopened hdepth hclosed
    | _ =>
      cases hstep
      exact ih hrun hopened hdepth hclosed

/-- What is read before the document element, where one is found. -/
theorem run_before (h : run {} es = .ok s') (hclosed : s'.closed = true)
    (hopened : openAfter [] es = some last) :
    ∃ (before : List Event) (root : Tag) (inside : List Event),
      es = before ++ .start root :: inside ∧ (∀ e ∈ before, isAside e = true) ∧
        isDocumentName root.localName = true ∧ run ⟨1, false⟩ inside = .ok s' ∧
          openAfter [root.name] inside = some last := by
  induction es with
  | nil =>
    cases h
    cases hclosed
  | cons e es ih =>
    obtain ⟨s₁, hstep, hrun⟩ := run_cons_eq_ok h
    by_cases haside : isAside e = true
    · rw [step_aside haside] at hstep
      cases hstep
      rw [openAfter_plain (isPlain_of_isAside haside)] at hopened
      obtain ⟨before, root, inside, rfl, hbefore, hrest⟩ := ih hrun hopened
      exact ⟨e :: before, root, inside, rfl, List.forall_mem_cons.2 ⟨haside, hbefore⟩, hrest⟩
    · cases e with
      | start root =>
        simp only [step] at hstep
        split at hstep
        · cases hstep
        · split at hstep
          · cases hstep
          · rename_i hname
            cases hstep
            rw [openAfter_start] at hopened
            exact ⟨[], root, es, rfl, by simp, by simpa using hname, hrun, hopened⟩
      | close name => cases hopened
      | empty tag => simp [step] at hstep
      | text raw => simp [step] at hstep
      | cdata raw => simp [step] at hstep
      | _ => exact absurd rfl haside

/-- After the document element only asides are accepted. -/
theorem run_after (h : run ⟨0, true⟩ es = .ok s') (hopened : openAfter [] es = some last) :
    ∀ e ∈ es, isAside e = true := by
  induction es with
  | nil => simp
  | cons e es ih =>
    obtain ⟨s₁, hstep, hrun⟩ := run_cons_eq_ok h
    cases e with
    | start root => cases hstep
    | close name => cases hopened
    | empty tag => cases hstep
    | text raw => cases hstep
    | cdata raw => cases hstep
    | _ =>
      cases hstep
      exact List.forall_mem_cons.2 ⟨rfl, ih hrun hopened⟩

/-- The events of a document are accepted, and end with no element open. -/
theorem run_document (d : Document) : run {} d.events = .ok ⟨0, true⟩ := by
  have hstart : step {} (.start d.root) = .ok ⟨1, false⟩ := by simp [step, d.root_named]
  have hclose : step ⟨1, false⟩ (.close d.root.name) = .ok ⟨0, true⟩ := by simp [step]
  have hafter : run ⟨0, true⟩ d.after = .ok ⟨0, true⟩ := by
    rw [← List.append_nil d.after, run_asides d.after_aside]
    rfl
  calc run {} d.events
      = run ⟨1, false⟩ (d.content.events ++ .close d.root.name :: d.after) := by
        rw [Document.events, run_asides d.before_aside, run, hstart]
    _ = run ⟨0, true⟩ d.after := by rw [run_content, run, hclose]
    _ = .ok ⟨0, true⟩ := hafter

end DocumentScan

/-! ### Accepted bodies -/

theorem checkDocument_eq_ok {body : Bytes} (h : checkDocument body = .ok ()) :
    (read body).failure = none ∧
      ∃ s, DocumentScan.run {} (read body).events = .ok s ∧ s.closed = true := by
  unfold checkDocument at h
  dsimp only at h
  split at h
  · cases h
  · rename_i s hrun
    split at h
    · cases h
    · rename_i hfailure
      refine ⟨hfailure, s, hrun, ?_⟩
      unfold DocumentScan.verdict at h
      split at h
      · assumption
      · split at h <;> cases h

/-- An accepted body is a document. -/
theorem exists_document {body : Bytes} (h : checkDocument body = .ok ()) :
    ∃ d : Document, d.Describes body := by
  obtain ⟨hfailure, s, hrun, hclosed⟩ := checkDocument_eq_ok h
  obtain ⟨last, hlast⟩ := readFrom_openAfter [] (withoutMark body)
  have hlast : openAfter [] (read body).events = some last := hlast
  -- no element is open in the end, so the document element has an end tag
  obtain ⟨hdepth, hnone⟩ := DocumentScan.run_depth hrun hlast rfl (fun _ => rfl)
  have hlength : last.length ≤ ([] : List Bytes).length := by
    rw [← hdepth, hnone hclosed]
    exact Nat.le_refl 0
  obtain ⟨before, root, inside, hevents, hbefore, hroot, hinside, hopened⟩ :=
    DocumentScan.run_before hrun hclosed hlast
  obtain ⟨c, after, rfl, hafter⟩ := exists_content hopened hlength
  have hend : DocumentScan.run ⟨0, true⟩ after = .ok s := by
    rw [DocumentScan.run_content] at hinside
    exact hinside
  refine ⟨⟨before, root, c, after, hbefore, hroot, DocumentScan.run_after hend hafter⟩, ?_⟩
  show read body = ⟨_, none⟩
  rw [← hfailure, Document.events, ← hevents]

/-- A body that is a document is accepted. -/
theorem check_of_describes {d : Document} {body : Bytes} (h : d.Describes body) :
    checkDocument body = .ok () := by
  unfold checkDocument
  rw [h]
  dsimp only
  rw [DocumentScan.run_document]
  rfl

/-- The first start tag of a sequence of events is determined, and so is what stands around it. -/
theorem asides_append_inj {xs ys us vs : List Event} {t u : Tag} (hx : ∀ e ∈ xs, isAside e = true)
    (hy : ∀ e ∈ ys, isAside e = true) (h : xs ++ .start t :: us = ys ++ .start u :: vs) :
    xs = ys ∧ t = u ∧ us = vs := by
  induction xs generalizing ys with
  | nil =>
    cases ys with
    | nil => simpa using h
    | cons y ys =>
      cases (List.cons.inj h).1
      exact absurd (hy _ List.mem_cons_self) (by simp [isAside])
  | cons x xs ih =>
    cases ys with
    | nil =>
      cases (List.cons.inj h).1
      exact absurd (hx _ List.mem_cons_self) (by simp [isAside])
    | cons y ys =>
      obtain ⟨rfl, htail⟩ := List.cons.inj h
      obtain ⟨rfl, hrest⟩ := ih (fun e he => hx e (List.mem_cons_of_mem _ he))
        (fun e he => hy e (List.mem_cons_of_mem _ he)) htail
      exact ⟨rfl, hrest⟩

/-- Documents with the same events are equal, so a body has one document at most. -/
theorem Document.events_injective {d d' : Document} (h : d.events = d'.events) : d = d' := by
  obtain ⟨hbefore, hroot, hinside⟩ := asides_append_inj d.before_aside d'.before_aside h
  obtain ⟨hcontent, _, hafter⟩ := Content.events_append_inj hinside
  cases d
  cases d'
  simp_all

theorem Document.Describes.unique {d d' : Document} {body : Bytes} (h : d.Describes body)
    (h' : d'.Describes body) : d = d' :=
  events_injective (Reading.mk.inj (h.symm.trans h')).1

/-- **The check accepts exactly the complete documents**: the bodies that are read to their end
without an error, as asides, one element that may hold a document with its content and its end tag,
and asides again. -/
theorem accepts_exactly_documents (body : Bytes) :
    checkDocument body = .ok () ↔ ∃ d : Document, d.Describes body :=
  ⟨exists_document, fun ⟨_, h⟩ => check_of_describes h⟩

end OlapClient.Soap
