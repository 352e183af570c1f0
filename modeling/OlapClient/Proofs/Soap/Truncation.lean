import OlapClient.Proofs.Markup.Cut
import OlapClient.Proofs.Soap.Document

namespace OlapClient.Soap

open Markup

/-!
# Documents cut short

A document that was cut is accepted only from a certain place on: where the end tag of its element has
its name. That end tag counts although its closing angle is missing.

* `Document.opening` — the events of a document before the end tag of its element.
* `Document.EndsAt` — a body divided at that end tag.
* `exists_endsAt` — every accepted body can be.
* `check_of_cut`, `prefix_of_check` — which cuts are accepted.
* `check_cut_iff` — both of these.
-/

/-- Asides leave the open elements as they are. -/
theorem openAfter_asides {asides es : List Event} {opened : List Bytes}
    (h : ∀ e ∈ asides, isAside e = true) : openAfter opened (asides ++ es) = openAfter opened es :=
  openAfter_append (openAfter_of_plain fun e he => isPlain_of_isAside (h e he))

namespace Document

variable (d : Document)

/-- The events of a document before the end tag of its element. -/
def opening : List Event :=
  d.before ++ .start d.root :: d.content.events

/-- The end tag of the element of a document, up to its name. -/
def endTag : Bytes :=
  Markup.endTag d.root.name

theorem events_eq : d.events = d.opening ++ .close d.root.name :: d.after := by
  simp [events, opening]

theorem openAfter_opening : openAfter [] d.opening = some [d.root.name] := by
  rw [opening, openAfter_asides d.before_aside, openAfter_start,
    ← List.append_nil d.content.events, openAfter_content]
  rfl

/-- After a document no element is open. -/
theorem openAfter_events : openAfter [] d.events = some [] := by
  rw [events_eq, openAfter_append d.openAfter_opening, ← List.append_nil d.after]
  simp only [openAfter, Event.nest?, if_true, Option.bind_some]
  exact openAfter_asides d.after_aside

/-- A document whose element ends the input. -/
def ending : Document where
  before := d.before
  root := d.root
  content := d.content
  after := []
  before_aside := d.before_aside
  root_named := d.root_named
  after_aside := asides_nil

/-- What a body holds of a document before the end tag of its element, that end tag up to its name,
white space, and the rest, which begins with the angle that closes the tag if there is one. -/
structure EndsAt (d : Document) (body front gap last : Bytes) : Prop where
  describes : d.Describes body
  body_eq : body = front ++ (d.endTag ++ (gap ++ last))
  up_to : ReadsUpTo front d.opening [d.root.name]
  space : ∀ b ∈ gap, isSpace b = true
  angle : ∀ b ∈ last.head?, b = 0x3E

variable {d} {body front gap last cut : Bytes}

/-- The first events of a document tell what stands before the end tag of its element. -/
theorem opening_injective {d' : Document} {us vs : List Event} {n m : Bytes}
    (h : d.opening ++ .close n :: us = d'.opening ++ .close m :: vs) : d.opening = d'.opening ∧
      d.root = d'.root := by
  simp only [opening, List.append_assoc, List.cons_append] at h
  obtain ⟨hbefore, hroot, hinside⟩ := asides_append_inj d.before_aside d'.before_aside h
  obtain ⟨hcontent, -, -⟩ := Content.events_append_inj hinside
  exact ⟨by rw [opening, opening, hbefore, hroot, hcontent], hroot⟩

end Document

variable {body : Bytes}

/-- Every accepted body can be divided at the end tag of its document element. -/
theorem exists_endsAt (h : checkDocument body = .ok ()) :
    ∃ (d : Document) (front gap last : Bytes), d.EndsAt body front gap last := by
  obtain ⟨d, hd⟩ := exists_document h
  have hread : read body = ⟨d.opening ++ .close d.root.name :: d.after, none⟩ := by
    rw [← d.events_eq]
    exact hd
  obtain ⟨front, tail, inside, hbody, hopen, hfront, hclose⟩ := exists_readsUpTo (by simp) hread
  rw [d.openAfter_opening] at hopen
  cases hopen
  obtain ⟨outer, gap, last, -, htail, hspace, hangle, -⟩ := exists_endTag hclose
  exact ⟨d, front, gap, last, hd, by rw [hbody, htail]; rfl, hfront, hspace, hangle⟩

namespace Document.EndsAt

variable {d : Document} {front gap last cut g : Bytes} (h : d.EndsAt body front gap last)
include h

theorem reads_endTag :
    readFrom [d.root.name] (d.endTag ++ (gap ++ last)) = ⟨.close d.root.name :: d.after, none⟩ := by
  have hread := h.up_to (0x2F :: (d.root.name ++ (gap ++ last)))
  have hbody : front ++ 0x3C :: 0x2F :: (d.root.name ++ (gap ++ last)) = body := h.body_eq.symm
  rw [hbody, h.describes, d.events_eq, Reading.mk.injEq, List.append_right_inj] at hread
  exact Reading.eq_mk hread.1.symm hread.2.symm

/-- The end tag may be cut anywhere behind its name. -/
theorem reads_cut (hg : g <+: gap) :
    readFrom [d.root.name] (d.endTag ++ g) = ⟨[.close d.root.name], none⟩ := by
  obtain ⟨outer, gap', last', -, htail, hspace, hangle, hcut⟩ := exists_endTag h.reads_endTag
  have hrest : gap ++ last = gap' ++ last' := (List.append_right_inj d.endTag).1 htail
  have hstop {last : Bytes} (hlast : ∀ b ∈ last.head?, b = 0x3E) :
      ∀ b ∈ last.head?, isSpace b = false := fun b hb => by rw [hlast b hb]; rfl
  have hgap : gap = gap' := by
    rw [← takeWhile_front h.space (hstop h.angle), hrest, takeWhile_front hspace (hstop hangle)]
  exact hcut g (hgap ▸ hg)

/-- A body that ends behind the name of the end tag is a document. -/
theorem check_of_cut (hg : g <+: gap) : checkDocument (front ++ (d.endTag ++ g)) = .ok () := by
  have hread : read (front ++ (d.endTag ++ g)) = ⟨d.opening ++ [.close d.root.name], none⟩ := by
    have hup := h.up_to (0x2F :: (d.root.name ++ g))
    have hcut : readFrom [d.root.name] (0x3C :: 0x2F :: (d.root.name ++ g)) = _ := h.reads_cut hg
    rw [hcut] at hup
    exact hup
  have hevents : d.ending.events = d.opening ++ [.close d.root.name] := d.ending.events_eq
  exact check_of_describes (d := d.ending) (by rw [Document.Describes, hevents, hread])

/-- A cut that is a document has the name of the end tag: up to the end tag of its element it is read
as the whole body is, and so this is the same end tag. -/
theorem prefix_of_check (hcut : cut <+: body) (hcheck : checkDocument cut = .ok ()) :
    front ++ d.endTag <+: cut := by
  obtain ⟨d', front', gap', last', h'⟩ := exists_endsAt hcheck
  obtain ⟨more, hmore⟩ := hcut
  have hbody : body = front' ++ 0x3C :: 0x2F :: (d'.root.name ++ (gap' ++ (last' ++ more))) := by
    rw [← hmore, h'.body_eq]
    simp [Document.endTag, Markup.endTag]
  have hread := h'.up_to (0x2F :: (d'.root.name ++ (gap' ++ (last' ++ more))))
  rw [← hbody, h.describes, Reading.mk.injEq, d.events_eq] at hread
  obtain ⟨fs, hfs⟩ := readFrom_slash hread.2.symm
  rw [hfs] at hread
  obtain ⟨hopening, hroot⟩ := Document.opening_injective hread.1
  have hup' := h'.up_to
  rw [← hopening] at hup'
  have hfront : front = front' := h.up_to.unique hup' (h.body_eq.symm.trans hbody)
  refine ⟨gap' ++ last', ?_⟩
  rw [h'.body_eq, hfront, Document.endTag, Document.endTag, hroot, List.append_assoc]

/-- A body that was cut before the angle that closes the end tag of its document element is accepted
if and only if it has the name of that end tag. -/
theorem check_cut_iff (hcut : cut <+: front ++ (d.endTag ++ gap)) :
    checkDocument cut = .ok () ↔ front ++ d.endTag <+: cut := by
  constructor
  · intro hcheck
    refine h.prefix_of_check (hcut.trans ⟨last, ?_⟩) hcheck
    rw [h.body_eq, List.append_assoc, List.append_assoc]
  · rintro ⟨g, rfl⟩
    rw [List.append_assoc] at hcut ⊢
    rw [List.prefix_append_right_inj, List.prefix_append_right_inj] at hcut
    exact h.check_of_cut hcut

end Document.EndsAt

end OlapClient.Soap
