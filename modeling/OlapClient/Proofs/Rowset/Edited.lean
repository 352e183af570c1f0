import Mathlib.Logic.Relation
import OlapClient.Proofs.Rowset.Written
import OlapClient.Proofs.Soap.Edited

namespace OlapClient.Rowset

open Markup Soap

/-!
# Tables in edited documents

A cell takes up the runs of text and the CDATA sections that stand in it, one behind the other. So
where the text around an inset is read as one text, the cell is the same without it.

* `Progress.takes` — a reader that has taken up a text.
* `Progress.takesUp_run`, `Progress.run_cell` — the character data of a cell.
* `run_edit` — the character data of an edit, with and without its inset.
* `SameOutcome` — equal results, or errors of one kind.
* `decode_of_edits`, `fault?_of_edits`, `same_results_of_edits` — the results of edited documents.
-/

/-! ### Outcomes of one kind -/

/-- Two results are equal, or both are faults, or both are reports of unreadable text. -/
inductive SameOutcome {α : Type} : Except DecodeError α → Except DecodeError α → Prop where
  | refl (x : Except DecodeError α) : SameOutcome x x
  | fault (f g : Fault) : SameOutcome (.error (.fault f)) (.error (.fault g))
  | badText (e e' : TextError) : SameOutcome (.error (.badText e)) (.error (.badText e'))

namespace SameOutcome

variable {α β : Type} {x y z : Except DecodeError α}

theorem symm (h : SameOutcome x y) : SameOutcome y x := by
  cases h with
  | refl => exact .refl x
  | fault f g => exact .fault g f
  | badText e e' => exact .badText e' e

theorem trans (h : SameOutcome x y) (h' : SameOutcome y z) : SameOutcome x z := by
  cases h with
  | refl => exact h'
  | fault f g => cases h' <;> exact .fault f _
  | badText e e' => cases h' <;> exact .badText e _

/-- What is done with the result goes on with the same outcome. -/
theorem bind (h : SameOutcome x y) (f : α → Except DecodeError β) :
    SameOutcome (x.bind f) (y.bind f) := by
  cases h with
  | refl => exact .refl _
  | fault f g => exact .fault f g
  | badText e e' => exact .badText e e'

end SameOutcome

namespace Progress

variable {p : Progress} {e : Event} {es : List Event} {o o' : Option String}
  {x y : Except DecodeError Progress}

/-! ### Taking up text -/

/-- Whether text belongs to the cell that is being read. -/
def InCell (p : Progress) : Prop :=
  ∃ cells name before, p.place = .cell cells name before 0

theorem not_inCell {place : Place} (hplace : p.place = place)
    (h : ∀ cells name before, place ≠ .cell cells name before 0) : ¬p.InCell :=
  fun ⟨cells, name, before, hin⟩ => h cells name before (hplace.symm.trans hin)

/-- The progress after a text. -/
def takes (p : Progress) (s : String) : Progress :=
  match p.place with
  | .cell cells name before 0 => { p with place := .cell cells name (before ++ s) 0 }
  | _ => p

theorem takes_of_place {cells : RawRow} {name before : String}
    (hplace : p.place = .cell cells name before 0) (s : String) :
    p.takes s = { p with place := .cell cells name (before ++ s) 0 } := by
  simp only [takes, hplace]

theorem takes_outside (h : ¬p.InCell) (s : String) : p.takes s = p := by
  unfold takes
  split
  · rename_i hplace
    exact absurd ⟨_, _, _, hplace⟩ h
  · rfl

theorem InCell.takes (h : p.InCell) (s : String) : (p.takes s).InCell := by
  obtain ⟨cells, name, before, hplace⟩ := h
  exact ⟨cells, name, before ++ s, by rw [takes_of_place hplace]⟩

@[simp] theorem takes_empty (p : Progress) : p.takes "" = p := by
  by_cases h : p.InCell
  · obtain ⟨cells, name, before, hplace⟩ := h
    rw [takes_of_place hplace, String.append_empty, ← hplace]
  · exact takes_outside h ""

theorem takes_takes (p : Progress) (s t : String) : (p.takes s).takes t = p.takes (s ++ t) := by
  by_cases h : p.InCell
  · obtain ⟨cells, name, before, hplace⟩ := h
    rw [takes_of_place hplace, takes_of_place hplace, takes_of_place rfl, String.append_assoc]
  · rw [takes_outside h, takes_outside h, takes_outside h]

theorem onText_outside (h : ¬p.InCell) (text : Except DecodeError String) :
    p.onText text = .ok p := by
  unfold onText
  split
  · rename_i hplace
    exact absurd ⟨_, _, _, hplace⟩ h
  · rfl

theorem onText_ok (p : Progress) (s : String) : p.onText (.ok s) = .ok (p.takes s) := by
  by_cases h : p.InCell
  · obtain ⟨cells, name, before, hplace⟩ := h
    simp only [onText, takes_of_place hplace, hplace]
  · rw [onText_outside h, takes_outside h]

theorem onText_error (h : p.InCell) (e : DecodeError) : p.onText (.error e) = .error e := by
  obtain ⟨cells, name, before, hplace⟩ := h
  simp only [onText, hplace]

/-- Outside of cells nothing but tags matters. -/
theorem step_outside (h : ¬p.InCell) (he : e.isPlain = true) : p.step e = .ok p := by
  cases e with
  | text raw => exact onText_outside h ((characters raw).mapError .badText)
  | cdata raw => exact onText_outside h (.ok (Utf8.lossyString raw))
  | start tag => cases he
  | empty tag => cases he
  | close name => cases he
  | _ => rfl

theorem run_outside (h : ¬p.InCell) (hes : ∀ e ∈ es, e.isPlain = true) : p.run es = .ok p := by
  induction es with
  | nil => rfl
  | cons e es ih =>
    rw [run_cons (step_outside h (hes e List.mem_cons_self))]
    exact ih fun e' he' => hes e' (List.mem_cons_of_mem e he')

/-! ### Cells -/

/-- In a cell a text is taken up, if it can be read. -/
inductive TakesUp (p : Progress) : Option String → Except DecodeError Progress → Prop where
  | text (s : String) : TakesUp p (some s) (.ok (p.takes s))
  | unreadable (e : TextError) : TakesUp p none (.error (.badText e))

theorem TakesUp.same (hx : p.TakesUp o x) (hy : p.TakesUp o y) : SameOutcome x y := by
  cases hx with
  | text s =>
    cases hy
    exact .refl _
  | unreadable e =>
    cases hy
    exact .badText e _

/-- Behind a text another one is taken up. -/
theorem TakesUp.andThen {f : Progress → Except DecodeError Progress} (hx : p.TakesUp o x)
    (hf : ∀ s, (p.takes s).TakesUp o' (f (p.takes s))) :
    p.TakesUp (o.bind fun s => o'.map (s ++ ·)) (x.bind f) := by
  cases hx with
  | unreadable e => exact .unreadable e
  | text s =>
    have h := hf s
    show p.TakesUp (o'.map (s ++ ·)) (f (p.takes s))
    generalize f (p.takes s) = y at h ⊢
    cases h with
    | text t =>
      rw [takes_takes]
      exact .text (s ++ t)
    | unreadable e => exact .unreadable e

theorem takesUp_nothing (p : Progress) : p.TakesUp (some "") (.ok p) := by
  have h := TakesUp.text (p := p) ""
  rwa [takes_empty] at h

/-- In a cell, one event that is no tag adds its text. -/
theorem takesUp_step (h : p.InCell) (he : e.isPlain = true) : p.TakesUp e.text? (p.step e) := by
  cases e with
  | text raw =>
    show p.TakesUp (text? raw) (p.onText ((characters raw).mapError .badText))
    unfold text?
    cases characters raw with
    | ok s =>
      rw [Except.mapError, onText_ok]
      exact .text s
    | error e =>
      rw [Except.mapError, onText_error h]
      exact .unreadable e
  | cdata raw =>
    show p.TakesUp _ (p.onText (.ok (Utf8.lossyString raw)))
    rw [onText_ok]
    exact .text _
  | start tag => cases he
  | empty tag => cases he
  | close name => cases he
  | _ => exact takesUp_nothing p

/-- In a cell, events that are no tags add their text, one behind the other. -/
theorem takesUp_run (h : p.InCell) (hes : ∀ e ∈ es, e.isPlain = true) :
    p.TakesUp (joined? es) (p.run es) := by
  induction es generalizing p with
  | nil => exact takesUp_nothing p
  | cons e es ih =>
    rw [run_cons_bind]
    exact (takesUp_step h (hes e List.mem_cons_self)).andThen fun s =>
      ih (h.takes s) fun e' he' => hes e' (List.mem_cons_of_mem e he')

/-- An element of a row that holds no other elements is a cell with its character data. -/
theorem run_cell {cells : RawRow} {tag : Tag} {s : String} (hschema : p.schema = none)
    (hplace : p.place = .row cells) (htag : tag.localName ≠ "schema")
    (hes : ∀ e ∈ es, e.isPlain = true) (htext : joined? es = some s) :
    p.run (.start tag :: (es ++ [.close tag.name])) =
      .ok { p.note tag.localName with place := .row ((tag.localName, s) :: cells) } := by
  let q : Progress := { p with place := .cell cells tag.localName "" 0 }
  have hstart : p.step (.start tag) = .ok q := by
    show p.onStart tag = .ok q
    simp only [onStart, hschema, hplace, if_neg htag, q]
  have hcell : q.InCell := ⟨cells, tag.localName, "", rfl⟩
  have hinside : q.run es = .ok { p with place := .cell cells tag.localName s 0 } := by
    have h := takesUp_run hcell hes
    rw [htext] at h
    generalize q.run es = x at h ⊢
    cases h
    rw [takes_of_place rfl, String.empty_append]
  rw [run_cons hstart, run_append_eq, hinside]
  show Except.ok (onClose _) = _
  simp only [onClose, hschema, note]
  split <;> simp only [hschema]

end Progress

/-! ### Edits -/

variable {d : Edit}

/-- The character data of an edit and the inset with what stands around it are taken up alike. -/
theorem run_edit {p : Progress} (h : p.InCell → d.Joins) :
    SameOutcome (p.run d.plainEvents) (p.run d.markedEvents) := by
  by_cases hcell : p.InCell
  · have hplain := Progress.takesUp_run hcell d.isPlain_of_mem_plainEvents
    have hmarked := Progress.takesUp_run hcell d.isPlain_of_mem_markedEvents
    rw [(h hcell).joined?_eq] at hplain
    exact hplain.same hmarked
  · rw [Progress.run_outside hcell d.isPlain_of_mem_plainEvents,
      Progress.run_outside hcell d.isPlain_of_mem_markedEvents]
    exact .refl _

/-- The edit is in the text of a cell. -/
def InCell (d : Edit) : Prop :=
  ∃ p, Progress.run {} d.es = .ok p ∧ p.InCell

/-- What is decoded of a body without a fault, by the events of its document. -/
theorem decode_of_no_fault {body : Bytes} {es : List Event} {failure : Option SyntaxError}
    (hfault : fault? body = none) (hread : read body = ⟨es, failure⟩) :
    decode body = (Progress.run {} es).bind fun p =>
      match failure with
      | some e => .error (.unreadable e)
      | none => p.table := by
  rw [decode, hfault, hread]
  dsimp only
  cases Progress.run {} es <;> rfl

/-- An edit leaves the table as it is, or the kind of the error, if it joins what stands in a
cell. -/
theorem decode_edit (h : InCell d → d.Joins) : SameOutcome (decode d.plain) (decode d.marked) := by
  have hsome := d.isSome_fault?_eq
  cases hplain : fault? d.plain with
  | some f =>
    -- the other body carries a fault as well, perhaps with another text
    rw [hplain] at hsome
    obtain ⟨g, hmarked⟩ := Option.isSome_iff_exists.1 hsome.symm
    rw [decode, decode, hplain, hmarked]
    exact .fault f g
  | none =>
    rw [hplain] at hsome
    have hmarked : fault? d.marked = none := Option.isNone_iff_eq_none.1
      (Option.isSome_eq_false_iff.1 hsome.symm)
    rw [decode_of_no_fault hplain d.read_plain, decode_of_no_fault hmarked d.read_marked]
    refine SameOutcome.bind ?_ _
    -- the events before and behind are the same
    rw [Progress.run_append_eq, Progress.run_append_eq]
    cases hbefore : Progress.run {} d.es with
    | error e => exact .refl _
    | ok p =>
      show SameOutcome (p.run (d.plainEvents ++ _)) (p.run (d.markedEvents ++ _))
      rw [Progress.run_append_eq, Progress.run_append_eq]
      exact (run_edit fun hcell => h ⟨p, hbefore, hcell⟩).bind _

/-! ### Sequences of edits -/

/-- One body is the other with an inset in the place of some character data, which joins what stands
there if it is in a cell. -/
def Edited (body body' : Bytes) : Prop :=
  ∃ d : Edit, (InCell d → d.Joins) ∧ d.plain = body ∧ d.marked = body'

/-- One body is the other with an inset in the place of some character data, and a scan for a fault
does not see it. -/
def EditedBesideFaults (body body' : Bytes) : Prop :=
  ∃ d : Edit, d.SparesFault ∧ d.plain = body ∧ d.marked = body'

/-- Edits, forwards and backwards, leave the table as it is, or the kind of the error. -/
theorem decode_of_edits {body body' : Bytes} (h : Relation.EqvGen Edited body body') :
    SameOutcome (decode body) (decode body') := by
  induction h with
  | rel body body' hedit =>
    obtain ⟨d, hjoins, rfl, rfl⟩ := hedit
    exact decode_edit hjoins
  | refl body => exact .refl _
  | symm body body' _ ih => exact ih.symm
  | trans body middle body' _ _ ih ih' => exact ih.trans ih'

/-- Edits that a scan for a fault does not see leave the fault as it is. -/
theorem fault?_of_edits {body body' : Bytes} (h : Relation.EqvGen EditedBesideFaults body body') :
    fault? body = fault? body' := by
  induction h with
  | rel body body' hedit =>
    obtain ⟨d, hspares, rfl, rfl⟩ := hedit
    exact hspares.fault?_eq
  | refl body => rfl
  | symm body body' _ ih => exact ih.symm
  | trans body middle body' _ _ ih ih' => exact ih.trans ih'

/-- **How character data is written does not matter**, as far as no text is lost beside an edit. An
element of a row that holds no other elements is a cell with all its character data, one piece
behind the other; of such a field of a fault the last run of text counts. Bodies that come out of
each other by edits, forwards and backwards, have the same table or errors of one kind; and they
have the same fault, where no edit is inside the texts of one. -/
theorem same_results_of_edits (body body' : Bytes) :
    (∀ (p : Progress) (cells : RawRow) (tag : Tag) (es : List Event) (s : String),
      p.schema = none → p.place = .row cells → tag.localName ≠ "schema" →
      (∀ e ∈ es, e.isPlain = true) → joined? es = some s →
      p.run (.start tag :: (es ++ [.close tag.name])) =
        .ok { p.note tag.localName with place := .row ((tag.localName, s) :: cells) }) ∧
      (∀ (s : FaultScan) (f : FaultField) (tag : Tag) (es fs : List Event),
        s.place = .fault → tag.localName = f.name → (∀ e ∈ es, e.isPlain = true) →
        s.scan (.start tag :: (es ++ .close tag.name :: fs)) = FaultScan.scan
          { s.write f (FaultScan.runTexts es).getLast? with field := none } fs) ∧
      (Relation.EqvGen Edited body body' → SameOutcome (decode body) (decode body')) ∧
      (Relation.EqvGen EditedBesideFaults body body' → fault? body = fault? body') :=
  ⟨fun _ _ _ _ _ hschema hplace htag hes htext =>
      Progress.run_cell hschema hplace htag hes htext,
    fun _ _ _ _ fs hplace htag hes => FaultScan.scan_field hplace htag hes fs,
    decode_of_edits, fault?_of_edits⟩

/-- A cell whose escaped character becomes a CDATA section, behind which a comment is inserted; and
the events of both texts, in a row and in a fault. -/
theorem same_results_of_section_and_comment :
    let escaped := Utf8.encodeString "<root><row><A>a&lt;b</A></row></root>"
    let edited := Utf8.encodeString "<root><row><A>a<![CDATA[<]]><!--x-->b</A></row></root>"
    let es : List Event := [.text [0x61], .cdata [0x3C], .comment [0x78], .text [0x62]]
    let cell : Tag := ⟨Utf8.encodeString "A", []⟩
    let field : Tag := ⟨Utf8.encodeString "faultstring", []⟩
    (∃ p : Progress,
        Progress.run { place := .row [] } (.start cell :: (es ++ [.close cell.name])) = .ok p ∧
        p.place = .row [("A", "a<b")]) ∧
      FaultScan.scan { place := .fault } (.start field :: (es ++ [.close field.name])) =
        some ⟨"", "b"⟩ ∧
      (Relation.EqvGen Edited escaped edited ∧ SameOutcome (decode escaped) (decode edited)) ∧
      Relation.EqvGen EditedBesideFaults escaped edited ∧ fault? escaped = fault? edited := by
  intro escaped edited es tag field
  let root := Utf8.encodeString "root"
  let row := Utf8.encodeString "row"
  let cell := Utf8.encodeString "A"
  have hroot : ReadsBefore (0x3C :: (root ++ [0x3E])) [.start ⟨root, []⟩] [root] :=
    readsBefore_first fun _ => rfl
  have hrow : ReadsBefore (0x3C :: (root ++ [0x3E]) ++ 0x3C :: (row ++ [0x3E]))
      ([.start ⟨root, []⟩] ++ [.start ⟨row, []⟩]) [row, root] := hroot.markup fun _ => rfl
  have hcell : ReadsBefore
      (0x3C :: (root ++ [0x3E]) ++ 0x3C :: (row ++ [0x3E]) ++ 0x3C :: (cell ++ [0x3E]))
      ([.start ⟨root, []⟩] ++ [.start ⟨row, []⟩] ++ [.start ⟨cell, []⟩]) [cell, row, root] :=
    hrow.markup fun _ => rfl
  have hleft : 0x3C ∉ Utf8.encodeString "a" := by decide
  -- the character becomes a section
  let sectioned : Edit := {
    front := _, es := _, inside := _, before := hcell
    left := Utf8.encodeString "a", raw := Utf8.encodeString "&lt;", right := Utf8.encodeString "b"
    inset := .cdata (Utf8.encodeString "<") (by decide)
    back := Utf8.encodeString "/A></row></root>"
    no_angle := by decide
    same_text := by decide +kernel }
  have hkeeps : KeepsSpace (Utf8.encodeString "a") (Utf8.encodeString "&lt;")
      (Utf8.encodeString "b") :=
    keepsSpace_of_ends (by decide +kernel) (by decide +kernel) (by decide +kernel)
      (by decide +kernel)
  have hreads : text? (Utf8.encodeString "a") = some "a" := by decide +kernel
  have hsectioned : sectioned.Joins := ⟨hkeeps, cutsBetween_of_text? hreads _⟩
  -- a comment is inserted behind that
  let commented : Edit := {
    front := _, es := _, inside := _, before := hcell.inset hleft sectioned.inset
    left := [], raw := [], right := Utf8.encodeString "b"
    inset := .comment (Utf8.encodeString "x") (by decide)
    back := Utf8.encodeString "/A></row></root>"
    no_angle := by decide
    same_text := by decide +kernel }
  have hnothing : text? [] = some "" := by decide +kernel
  have hcommented : commented.Joins :=
    ⟨keepsSpace_of_end (.inl rfl), cutsBetween_of_text? hnothing _⟩
  let middle := Utf8.encodeString "<root><row><A>a<![CDATA[<]]>b</A></row></root>"
  have hescaped : sectioned.plain = escaped := rfl
  have hmiddle : sectioned.marked = middle := rfl
  have hmiddle' : commented.plain = middle := rfl
  have hedited : commented.marked = edited := rfl
  have hfault : fault? escaped = none := by decide +kernel
  have hfault' : fault? middle = none := by decide +kernel
  have hedits : Relation.EqvGen Edited escaped edited :=
    .trans _ middle _ (.rel _ _ ⟨sectioned, fun _ => hsectioned, hescaped, hmiddle⟩)
      (.rel _ _ ⟨commented, fun _ => hcommented, hmiddle', hedited⟩)
  have hbeside : Relation.EqvGen EditedBesideFaults escaped edited :=
    .trans _ middle _ (.rel _ _ ⟨sectioned, .no_fault hfault, hescaped, hmiddle⟩)
      (.rel _ _ ⟨commented, .no_fault hfault', hmiddle', hedited⟩)
  have hplain : ∀ e ∈ es, e.isPlain = true := by decide
  have hjoined : joined? es = some "a<b" := by decide +kernel
  have htag : tag.localName = "A" := by decide +kernel
  obtain ⟨hcell, hfield, hdecode, hfault⟩ := same_results_of_edits escaped edited
  have hcells := hcell { place := .row [] } [] tag es "a<b" rfl rfl
    (by decide +kernel) hplain hjoined
  have hmessage := hfield { place := .fault } .message field es [] rfl (by decide +kernel) hplain
  exact ⟨⟨_, hcells, by rw [htag]⟩, hmessage.trans (by decide +kernel),
    ⟨hedits, hdecode hedits⟩, hbeside, hfault hbeside⟩

/-- Inside the text of a fault only the last run counts, and a CDATA section not at all; and in a
cell white space is lost beside a comment. -/
theorem text_lost_beside_insets :
    let comment := Utf8.encodeString "<!--x-->"
    let cdata := Utf8.encodeString "<![CDATA[b]]>"
    let opening := Utf8.encodeString "<Envelope><Body><Fault><faultstring>a"
    let closing := Utf8.encodeString "</faultstring></Fault></Body></Envelope>"
    let letter := Utf8.encodeString "b"
    let cellOpening := Utf8.encodeString "<root><row><A>a "
    let cellClosing := Utf8.encodeString "b</A></row></root>"
    let rows (body : Bytes) := (decode body).toOption.map (·.rows)
    checkDocument (opening ++ letter ++ closing) = .ok () ∧
      fault? (opening ++ letter ++ closing) = some ⟨"", "ab"⟩ ∧
      fault? (opening ++ comment ++ letter ++ closing) = some ⟨"", "b"⟩ ∧
      fault? (opening ++ cdata ++ closing) = some ⟨"", "a"⟩ ∧
      checkDocument (cellOpening ++ cellClosing) = .ok () ∧
      rows (cellOpening ++ cellClosing) = some [[.text "a b"]] ∧
      rows (cellOpening ++ comment ++ cellClosing) = some [[.text "ab"]] := by
  refine ⟨?_, ?_, ?_, ?_, ?_, ?_, ?_⟩ <;> decide +kernel

end OlapClient.Rowset
