import OlapClient.Proofs.Markup.Inset
import OlapClient.Proofs.Soap.Fault

namespace OlapClient

open Markup

/-!
# Faults in edited documents

A scan for a fault follows the tags, and it takes text only in the elements of the fault's code and
of its text. So the insets of a document matter to it in these elements only.

* `FaultScan.InField`, `FaultScan.inField_step` — where a scan takes text.
* `FaultScan.scan_split` — a scan of two parts.
* `FaultScan.scan_field` — what a scan takes of a field.
* `isSome_fault?` — whether there is a fault, by the tags that open elements.
* `Edit.SparesFault`, `Edit.SparesFault.fault?_eq` — the edits that leave the fault as it is.
-/

namespace Soap

/-- Whether an element is called like those whose text belongs to a fault. -/
def isField (name : Bytes) : Bool :=
  localName name == "faultcode" || localName name == "faultstring"

/-- What the element of a field is called. -/
def FaultField.name : FaultField → String
  | .code => "faultcode"
  | .message => "faultstring"

namespace FaultScan

variable {s s' : FaultScan} {e : Event} {es fs : List Event} {opened opened' inside : List Bytes}

/-! ### Where text is taken -/

/-- A scan takes text only inside an element that is called like a field. -/
def InField (s : FaultScan) (opened : List Bytes) : Prop :=
  s.field ≠ none → ∃ name ∈ opened, isField name = true

theorem InField.of_field (h : s.InField opened) (hfield : s'.field = s.field)
    (hopened : opened ⊆ opened') : s'.InField opened' := by
  intro hne
  obtain ⟨name, hin, hname⟩ := h (hfield ▸ hne)
  exact ⟨name, hopened hin, hname⟩

theorem inField_start {tag : Tag} (h : s.InField opened) (hstep : s.onStart tag = .more s') :
    s'.InField (tag.name :: opened) := by
  have hsame (hfield : s'.field = s.field) : s'.InField (tag.name :: opened) :=
    h.of_field hfield (List.subset_cons_self _ _)
  have hfield (hname : isField tag.name = true) : s'.InField (tag.name :: opened) :=
    fun _ => ⟨tag.name, List.mem_cons_self, hname⟩
  cases hplace : s.place with
  | envelope =>
    simp only [onStart, hplace] at hstep
    split at hstep <;> cases hstep
    exact hsame rfl
  | body =>
    simp only [onStart, hplace] at hstep
    split at hstep <;> cases hstep <;> exact hsame rfl
  | firstChild =>
    simp only [onStart, hplace] at hstep
    split at hstep <;> cases hstep
    exact hsame rfl
  | fault =>
    -- the tags of the fields are those that count
    by_cases hname : isField tag.name = true
    · exact hfield hname
    · simp only [isField, Bool.or_eq_true, beq_iff_eq, not_or] at hname
      have hcode : tag.localName ≠ "faultcode" := hname.1
      have hstring : tag.localName ≠ "faultstring" := hname.2
      simp only [onStart, hplace, if_neg hcode, if_neg hstring] at hstep
      split at hstep <;> cases hstep <;> exact hsame rfl

theorem field_onEmpty {tag : Tag} (hstep : s.onEmpty tag = .more s') : s'.field = s.field := by
  unfold onEmpty at hstep
  split at hstep
  · cases hstep
  · cases hstep
  · cases hstep
    rfl
  · split at hstep <;> cases hstep <;> rfl

theorem field_onText (s : FaultScan) (raw : Bytes) : (s.onText raw).field = s.field := by
  unfold onText
  split <;> rfl

theorem inField_close {name : Bytes} (h : s.InField (name :: opened))
    (hstep : s.onClose name = .more s') : s'.InField opened := by
  unfold onClose at hstep
  dsimp only at hstep
  split at hstep
  · cases hstep
  split at hstep
  · -- the element of the field ends
    cases hstep
    exact fun hne => absurd rfl hne
  · -- another element ends, so that the one of the field stays open
    rename_i hname
    cases hstep
    intro hne
    obtain ⟨other, hin, hfield⟩ := h hne
    rcases List.mem_cons.1 hin with rfl | hin
    · simp only [isField, Bool.or_eq_true, beq_iff_eq] at hfield
      exact absurd hfield hname
    · exact ⟨other, hin, hfield⟩

/-- No event makes a scan take text outside of such elements. -/
theorem inField_step (h : s.InField opened) (hnest : e.nest? opened = some opened')
    (hstep : s.step e = .more s') : s'.InField opened' := by
  cases e with
  | start tag =>
    cases hnest
    exact inField_start h hstep
  | empty tag =>
    cases hnest
    exact h.of_field (field_onEmpty hstep) (List.Subset.refl _)
  | close name =>
    obtain ⟨rfl⟩ : opened = name :: opened' := by
      unfold Event.nest? at hnest
      dsimp only at hnest
      split at hnest
      · cases hnest
      · split at hnest <;> cases hnest
        rename_i heq
        rw [heq]
    exact inField_close h hstep
  | text raw =>
    cases hnest
    cases hstep
    exact h.of_field (field_onText s raw) (List.Subset.refl _)
  | _ =>
    cases hnest
    cases hstep
    exact h

/-! ### Scans of two parts -/

/-- A scan has its answer in the first part, or it goes on from there. -/
theorem scan_split (h : s.InField opened) (hopen : openAfter opened es = some inside) :
    (∃ answer, ∀ fs, s.scan (es ++ fs) = answer) ∨
      ∃ s' : FaultScan, s'.InField inside ∧ ∀ fs, s.scan (es ++ fs) = s'.scan fs := by
  -- by induction on the events of the first part, with `InField` as the invariant
  induction es generalizing s opened with
  | nil =>
    cases hopen
    exact .inr ⟨s, h, fun fs => rfl⟩
  | cons e es ih =>
    obtain ⟨opened', hnest, hopen'⟩ := Option.bind_eq_some_iff.1 hopen
    cases hstep : s.step e with
    | done answer =>
      exact .inl ⟨answer, fun fs => by simp only [List.cons_append, scan, hstep]⟩
    | more s' =>
      simp only [List.cons_append, scan, hstep]
      exact ih (inField_step h hnest hstep) hopen'

/-- Where no text is taken, a scan passes over everything that is no tag. -/
theorem scan_plain (hfield : s.field = none) (hes : ∀ e ∈ es, e.isPlain = true) (fs : List Event) :
    s.scan (es ++ fs) = s.scan fs := by
  induction es with
  | nil => rfl
  | cons e es ih =>
    have hstep : s.step e = .more s := by
      have hplain := hes e List.mem_cons_self
      cases e with
      | text raw =>
        show FaultStep.more (s.onText raw) = _
        rw [onText, hfield]
      | start tag => cases hplain
      | empty tag => cases hplain
      | close name => cases hplain
      | _ => rfl
    simp only [List.cons_append, scan, hstep]
    exact ih fun e' he' => hes e' (List.mem_cons_of_mem e he')

theorem step_inset (s : FaultScan) (m : Inset) : s.step m.event = .more s := by
  cases m <;> rfl

/-- Wherever it stands, an inset is passed over. -/
theorem scan_inset (m : Inset) (es fs : List Event) :
    s.scan (es ++ m.event :: fs) = s.scan (es ++ fs) := by
  induction es generalizing s with
  | nil => simp only [List.nil_append, scan, step_inset]
  | cons e es ih =>
    cases hstep : s.step e with
    | done answer => simp only [List.cons_append, scan, hstep]
    | more s' =>
      simp only [List.cons_append, scan, hstep]
      exact ih

/-! ### The text of a field -/

/-- A scan with another text in a field, if there is one. -/
def write (s : FaultScan) (f : FaultField) (text : Option String) : FaultScan :=
  match f with
  | .code => { s with code := text.or s.code }
  | .message => { s with message := text.or s.message }

/-- The texts of the runs among some events. -/
def runTexts (es : List Event) : List String :=
  es.filterMap fun
    | .text raw => some (runText raw)
    | _ => none

theorem write_write (s : FaultScan) (f : FaultField) (t u : Option String) :
    (s.write f t).write f u = s.write f (u.or t) := by
  cases f <;> simp [write, Option.or_assoc]

theorem field_write (s : FaultScan) (f : FaultField) (t : Option String) :
    (s.write f t).field = s.field := by
  cases f <;> rfl

/-- In a field every run of text takes the place of the one before. -/
theorem scan_runs {f : FaultField} (hfield : s.field = some f) (hes : ∀ e ∈ es, e.isPlain = true)
    (fs : List Event) : s.scan (es ++ fs) = (s.write f (runTexts es).getLast?).scan fs := by
  induction es generalizing s with
  | nil => cases f <;> rfl
  | cons e es ih =>
    have htail : ∀ e' ∈ es, e'.isPlain = true := fun e' he' => hes e' (List.mem_cons_of_mem e he')
    cases e with
    | text raw =>
      have hstep : s.step (.text raw) = .more (s.write f (some (runText raw))) := by
        show FaultStep.more (s.onText raw) = _
        cases f <;> simp [onText, hfield, write]
      have hlast : (runTexts (.text raw :: es)).getLast? =
          (runTexts es).getLast?.or (some (runText raw)) := by
        show (runText raw :: runTexts es).getLast? = _
        rw [List.getLast?_cons]
        cases (runTexts es).getLast? <;> rfl
      simp only [List.cons_append, scan, hstep]
      rw [ih (by rw [field_write, hfield]) htail, write_write, hlast]
    | start tag => cases hes _ List.mem_cons_self
    | empty tag => cases hes _ List.mem_cons_self
    | close name => cases hes _ List.mem_cons_self
    | _ => exact ih hfield htail

/-- Of a field of a fault without elements inside, the last run of text counts. -/
theorem scan_field {f : FaultField} {tag : Tag} (hplace : s.place = .fault)
    (htag : tag.localName = f.name) (hes : ∀ e ∈ es, e.isPlain = true) (fs : List Event) :
    s.scan (.start tag :: (es ++ .close tag.name :: fs)) =
      FaultScan.scan { s.write f (runTexts es).getLast? with field := none } fs := by
  have hstart : s.step (.start tag) = .more { s with field := some f } := by
    show s.onStart tag = _
    cases f <;> simp [onStart, hplace, htag, FaultField.name]
  have hclose (s' : FaultScan) : s'.step (.close tag.name) = .more { s' with field := none } := by
    have hname : localName tag.name = f.name := htag
    show s'.onClose tag.name = _
    cases f <;> simp [onClose, hname, FaultField.name]
  simp only [scan, hstart]
  rw [scan_runs rfl hes]
  simp only [scan, hclose]
  cases f <;> rfl

/-! ### Whether there is a fault -/

/-- The tags that open elements begin with that of an envelope, and a fault follows a body in it. -/
def faultInEnvelope : List Event → Bool
  | .start tag :: es => tag.localName == "Envelope" && faultFollowsBody es
  | _ => false

/-- Whether a scan finds a fault is told by the tags that open elements. -/
theorem scan_of_envelope (hplace : s.place = .envelope) :
    (s.scan es).isSome = faultInEnvelope (openings es) := by
  induction es generalizing s with
  | nil => simp [scan, answer, hplace, faultInEnvelope]
  | cons e es ih =>
    by_cases hopening : e.isOpening = true
    · cases e with
      | start tag =>
        by_cases hname : tag.localName = "Envelope"
        · simp [scan, step, onStart, hplace, hname, faultInEnvelope, scan_of_body]
        · simp [scan, step, onStart, hplace, hname, faultInEnvelope]
      | empty tag => simp [scan, step, onEmpty, hplace, faultInEnvelope]
      | _ => cases hopening
    · rw [Bool.not_eq_true] at hopening
      obtain ⟨s', hstep, hplace'⟩ :=
        step_of_not_opening hopening (by rw [hplace]; decide)
      rw [openings_of_not_opening hopening]
      simp only [scan, hstep]
      exact ih (hplace'.trans hplace)

end FaultScan

theorem isSome_fault? (body : Bytes) :
    (fault? body).isSome = FaultScan.faultInEnvelope (openings (read body).events) :=
  FaultScan.scan_of_envelope rfl

end Soap

namespace Markup.Edit

open Soap

variable (d : Edit)

theorem isPlain_of_mem_plainEvents : ∀ e ∈ d.plainEvents, e.isPlain = true :=
  fun _ => isPlain_of_mem_runEvents

theorem isPlain_of_mem_markedEvents : ∀ e ∈ d.markedEvents, e.isPlain = true := by
  intro e he
  rcases List.mem_append.1 he with hleft | hinset
  · exact isPlain_of_mem_runEvents hleft
  rcases List.mem_cons.1 hinset with rfl | hright
  · exact d.inset.isPlain_event
  · exact isPlain_of_mem_runEvents hright

/-- No edit makes a fault or takes one away. -/
theorem isSome_fault?_eq : (fault? d.plain).isSome = (fault? d.marked).isSome := by
  rw [isSome_fault?, isSome_fault?, d.read_plain, d.read_marked]
  simp only [openings_append, openings_of_plain d.isPlain_of_mem_plainEvents,
    openings_of_plain d.isPlain_of_mem_markedEvents]

/-- The edits that a scan for a fault does not see: there is no fault, or the edit is in no element
that is called like its fields, or it inserts an inset at an end of the text there. -/
inductive SparesFault : Prop where
  | no_fault (h : fault? d.plain = none)
  | elsewhere (h : ∀ name ∈ d.inside, isField name = false)
  | at_end (hraw : d.raw = [])
      (h : trimBy isSpace d.left = [] ∨ trimBy isSpace d.right = [])

variable {d}

/-- At an end of the text an inset leaves it in one run. -/
theorem runEvents_of_end (hraw : d.raw = [])
    (h : trimBy isSpace d.left = [] ∨ trimBy isSpace d.right = []) :
    d.plainEvents = runEvents d.left ++ runEvents d.right := by
  have hkeeps := keepsSpace_of_end h
  rw [KeepsSpace, List.nil_append, List.nil_append] at hkeeps
  unfold plainEvents runEvents
  rw [hraw, List.nil_append, hkeeps]
  rcases h with h | h <;> simp [h]

/-- **Such an edit leaves the fault as it is**, with its code and its message. -/
theorem SparesFault.fault?_eq (h : d.SparesFault) : fault? d.plain = fault? d.marked := by
  cases h with
  | no_fault h =>
    have hmarked := d.isSome_fault?_eq
    cases hfault : fault? d.marked with
    | none => exact h
    | some f =>
      rw [h, hfault] at hmarked
      cases hmarked
  | elsewhere h =>
    have hstart : FaultScan.InField {} [] := fun hne => absurd rfl hne
    unfold fault?
    rw [d.read_plain, d.read_marked]
    rcases FaultScan.scan_split hstart d.before.opens with ⟨answer, hall⟩ | ⟨s, hs, hall⟩
    · rw [hall, hall]
    · -- no element is open in which text would be taken
      have hfield : s.field = none := by
        cases hfield : s.field with
        | none => rfl
        | some field =>
          obtain ⟨name, hin, hname⟩ := hs (by rw [hfield]; simp)
          rw [h name hin] at hname
          cases hname
      dsimp only
      rw [hall, hall, FaultScan.scan_plain hfield d.isPlain_of_mem_plainEvents,
        FaultScan.scan_plain hfield d.isPlain_of_mem_markedEvents]
  | at_end hraw h =>
    unfold fault?
    rw [d.read_plain, d.read_marked, runEvents_of_end hraw h, markedEvents]
    have hinset := FaultScan.scan_inset (s := {}) d.inset (d.es ++ runEvents d.left)
      (runEvents d.right ++ d.behind.events)
    simp only [List.append_assoc, List.cons_append] at hinset ⊢
    exact hinset.symm

end Markup.Edit

end OlapClient
