import OlapClient.Markup.Event

namespace OlapClient.Markup

/-!
# Content as a tree

The reader delivers a flat sequence of events and compares each end tag with the innermost element
that is open. What stands between a start tag and the end tag that closes it is a tree.

* `Content` — what an element holds, and `Content.events`, its events in document order.
* `Content.children`, `Content.openings` — its elements, and all tags that open an element.
* `openAfter` — the names of the open elements after some events.
* `readFrom_openAfter` — the reader's end tags match.
* `exists_content` — the events up to the end tag of an open element are those of a content;
  `exists_content_of_balanced` — so are events after which nothing is open.
* `Content.events_append_inj`, `Content.events_inj` — these events tell the content.
-/

/-- Whether an event is no tag. -/
def Event.isPlain : Event → Bool
  | .start _ | .empty _ | .close _ => false
  | _ => true

/-- What an element holds, in document order: elements, and events that are no tags. -/
inductive Content where
  | nil
  | event (e : Event) (plain : e.isPlain = true) (rest : Content)
  | empty (tag : Tag) (rest : Content)
  /-- An element with a start tag and an end tag, and what follows it. -/
  | element (tag : Tag) (inner rest : Content)
deriving DecidableEq

/-- The events of a content. An end tag repeats the whole name of its start tag. -/
def Content.events : Content → List Event
  | .nil => []
  | .event e _ rest => e :: rest.events
  | .empty tag rest => .empty tag :: rest.events
  | .element tag inner rest => .start tag :: (inner.events ++ .close tag.name :: rest.events)

/-! ### Elements -/

/-- An element of a content; one that is written as an empty tag has no content. -/
structure Child where
  tag : Tag
  inner : Option Content
deriving DecidableEq

/-- The elements that stand in a content, those inside them left out. -/
def Content.children : Content → List Child
  | .nil => []
  | .event _ _ rest => rest.children
  | .empty tag rest => ⟨tag, none⟩ :: rest.children
  | .element tag inner rest => ⟨tag, some inner⟩ :: rest.children

/-- Whether an event opens an element. -/
def Event.isOpening : Event → Bool
  | .start _ | .empty _ => true
  | _ => false

/-- The name of the element that an event opens, without its prefix. -/
def Event.elementName? : Event → Option String
  | .start tag | .empty tag => some tag.localName
  | _ => none

theorem elementName?_plain {e : Event} (h : e.isPlain = true) : e.elementName? = none := by
  cases e <;> first | rfl | cases h

/-- The tags among some events that open an element. -/
def openings (es : List Event) : List Event :=
  es.filter Event.isOpening

@[simp] theorem openings_nil : openings [] = [] := rfl

@[simp] theorem openings_start (tag : Tag) (es : List Event) :
    openings (.start tag :: es) = .start tag :: openings es := rfl

@[simp] theorem openings_empty (tag : Tag) (es : List Event) :
    openings (.empty tag :: es) = .empty tag :: openings es := rfl

@[simp] theorem openings_close (name : Bytes) (es : List Event) :
    openings (.close name :: es) = openings es := rfl

theorem openings_of_not_opening {e : Event} (h : e.isOpening = false) (es : List Event) :
    openings (e :: es) = openings es := by
  simp [openings, h]

theorem openings_plain {e : Event} (h : e.isPlain = true) (es : List Event) :
    openings (e :: es) = openings es := by
  cases e <;> first | rfl | cases h

theorem openings_of_plain {es : List Event} (h : ∀ e ∈ es, e.isPlain = true) : openings es = [] := by
  induction es with
  | nil => rfl
  | cons e es ih =>
    rw [openings_plain (h e List.mem_cons_self)]
    exact ih fun e' he' => h e' (List.mem_cons_of_mem e he')

@[simp] theorem openings_append (es fs : List Event) :
    openings (es ++ fs) = openings es ++ openings fs :=
  List.filter_append es fs

/-- The tags that open an element of a content, at any depth and in document order. -/
def Content.openings (c : Content) : List Event :=
  Markup.openings c.events

namespace Child

/-- The name of an element without its prefix. -/
def localName (c : Child) : String :=
  c.tag.localName

/-- The elements inside an element. -/
def children (c : Child) : List Child :=
  match c.inner with
  | none => []
  | some inner => inner.children

/-- The tags that open an element, from its own on. -/
def openings (c : Child) : List Event :=
  match c.inner with
  | none => [.empty c.tag]
  | some inner => .start c.tag :: inner.openings

@[simp] theorem children_element (tag : Tag) (inner : Content) :
    children ⟨tag, some inner⟩ = inner.children := rfl

@[simp] theorem openings_empty (tag : Tag) : openings ⟨tag, none⟩ = [.empty tag] := rfl

@[simp] theorem openings_element (tag : Tag) (inner : Content) :
    openings ⟨tag, some inner⟩ = .start tag :: inner.openings := rfl

end Child

/-- The tags of a content are those of its elements. -/
theorem Content.openings_eq_flatMap (c : Content) :
    c.openings = c.children.flatMap Child.openings := by
  unfold openings
  induction c with
  | nil => rfl
  | event e plain rest ih => simp [events, children, openings_plain plain, ih]
  | empty tag rest ih => simp [events, children, ih]
  | element tag inner rest ihinner ihrest => simp [events, children, openings, ihrest]

/-! ### Open elements -/

/-- The names of the open elements after an event, innermost first. An end tag that does not close
the innermost one has no outcome. -/
def Event.nest? (opened : List Bytes) : Event → Option (List Bytes)
  | .start tag => some (tag.name :: opened)
  | .close name =>
    match opened with
    | [] => none
    | expected :: outer => if name = expected then some outer else none
  | _ => some opened

/-- The names of the open elements after some events. -/
def openAfter (opened : List Bytes) : List Event → Option (List Bytes)
  | [] => some opened
  | e :: es => (e.nest? opened).bind (openAfter · es)

variable {opened opened' outer last : List Bytes} {input rest : Bytes} {e : Event}
  {es : List Event} {name : Bytes}

theorem Event.nest?_of_isPlain (h : e.isPlain = true) : e.nest? opened = some opened := by
  cases e <;> first | rfl | cases h

@[simp] theorem openAfter_start (tag : Tag) :
    openAfter opened (.start tag :: es) = openAfter (tag.name :: opened) es := rfl

@[simp] theorem openAfter_empty (tag : Tag) :
    openAfter opened (.empty tag :: es) = openAfter opened es := rfl

theorem openAfter_plain (h : e.isPlain = true) :
    openAfter opened (e :: es) = openAfter opened es := by
  simp [openAfter, Event.nest?_of_isPlain h]

theorem openAfter_close {expected : Bytes}
    (h : openAfter (expected :: outer) (.close name :: es) = some last) :
    name = expected ∧ openAfter outer es = some last := by
  by_cases heq : name = expected
  · exact ⟨heq, by simpa [openAfter, Event.nest?, heq] using h⟩
  · simp [openAfter, Event.nest?, heq] at h

theorem openAfter_of_plain (h : ∀ e ∈ es, e.isPlain = true) : openAfter opened es = some opened := by
  induction es with
  | nil => rfl
  | cons e es ih =>
    rw [openAfter_plain (h e List.mem_cons_self)]
    exact ih fun e' he' => h e' (List.mem_cons_of_mem e he')

theorem openAfter_append {fs : List Event} (h : openAfter opened es = some opened') :
    openAfter opened (es ++ fs) = openAfter opened' fs := by
  induction es generalizing opened with
  | nil =>
    cases h
    rfl
  | cons e es ih =>
    obtain ⟨opened₁, hnest, hopen⟩ := Option.bind_eq_some_iff.1 h
    rw [List.cons_append, openAfter, hnest]
    exact ih hopen

/-- Where events have open elements after them, so have those before the rest. -/
theorem exists_openAfter_of_append {fs : List Event} (h : openAfter opened (es ++ fs) = some last) :
    ∃ middle, openAfter opened es = some middle := by
  induction es generalizing opened with
  | nil => exact ⟨opened, rfl⟩
  | cons e es ih =>
    obtain ⟨opened₁, hnest, hopen⟩ := Option.bind_eq_some_iff.1 h
    obtain ⟨middle, hmiddle⟩ := ih hopen
    exact ⟨middle, by rw [openAfter, hnest, Option.bind_some, hmiddle]⟩

/-- After a content the elements around it are open. -/
theorem openAfter_content (c : Content) : openAfter opened (c.events ++ es) = openAfter opened es := by
  induction c generalizing opened es with
  | nil => rfl
  | event e plain rest ih =>
    rw [Content.events, List.cons_append, openAfter_plain plain]
    exact ih
  | empty tag rest ih => exact ih
  | element tag inner rest ihinner ihrest =>
    simp only [Content.events, List.cons_append, List.append_assoc, openAfter_start]
    rw [ihinner]
    simp only [openAfter, Event.nest?, if_true, Option.bind_some]
    exact ihrest

theorem readBang_nest? {bs : Bytes} (h : readBang opened bs = .event e opened' rest) :
    e.nest? opened = some opened' := by
  unfold readBang at h
  repeat' split at h
  all_goals cases h
  all_goals rfl

theorem readTag_nest? {bs : Bytes} (h : readTag opened bs = .event e opened' rest) :
    e.nest? opened = some opened' := by
  unfold readTag at h
  dsimp only at h
  split at h <;> cases h <;> rfl

theorem readClose_nest? {bs : Bytes} (h : readClose opened bs = .event e opened' rest) :
    e.nest? opened = some opened' := by
  unfold readClose at h
  cases opened with
  | nil => cases h
  | cons expected outer =>
    dsimp only at h
    split at h
    · rename_i hname
      cases h
      simp [Event.nest?, hname]
    · cases h

theorem readInstruction_nest? {bs : Bytes}
    (h : readInstruction opened bs = .event e opened' rest) : e.nest? opened = some opened' := by
  unfold readInstruction at h
  dsimp only at h
  split at h
  · cases h
    rfl
  · cases h

/-- The reader keeps the open elements as the events say. -/
theorem next_nest? (h : next opened input = .event e opened' rest) :
    e.nest? opened = some opened' := by
  unfold next at h
  split at h
  · cases h
  · split at h
    · unfold readMarkup at h
      split at h
      · cases h
      · split at h
        · exact readBang_nest? h
        split at h
        · exact readClose_nest? h
        split at h
        · exact readInstruction_nest? h
        · exact readTag_nest? h
    · cases h
      rfl

/-- Every end tag that is read closes the innermost open element. -/
theorem readFrom_openAfter (opened : List Bytes) (input : Bytes) :
    ∃ last, openAfter opened (readFrom opened input).events = some last := by
  fun_induction readFrom opened input with
  | case1 opened input h => exact ⟨opened, rfl⟩
  | case2 opened input e h => exact ⟨opened, rfl⟩
  | case3 opened input e opened' rest h _ r ih =>
    obtain ⟨last, hlast⟩ := ih
    exact ⟨last, by simp [openAfter, next_nest? h, r, hlast]⟩

/-! ### Trees from events -/

/-- Where the innermost open element is closed in the end, the events up to the end tag that closes
it are those of a content. -/
theorem exists_content (h : openAfter (name :: outer) es = some last)
    (hlast : last.length ≤ outer.length) :
    ∃ (c : Content) (after : List Event),
      es = c.events ++ .close name :: after ∧ openAfter outer after = some last := by
  -- after an inner element the events go on where its end tag stood, hence the strong induction
  induction hn : es.length using Nat.strongRecOn generalizing name outer es with
  | ind n ih =>
    cases es with
    | nil =>
      -- the element would still be open
      cases h
      simp only [List.length_cons] at hlast
      omega
    | cons e es =>
      simp only [List.length_cons] at hn
      -- an event that is no start tag and no end tag leaves the element open
      have hplain : e.isPlain = true → ∃ (c : Content) (after : List Event),
          e :: es = c.events ++ .close name :: after ∧ openAfter outer after = some last := by
        intro hp
        rw [openAfter_plain hp] at h
        obtain ⟨c, after, rfl, hafter⟩ := ih es.length (by omega) h hlast rfl
        exact ⟨.event e hp c, after, rfl, hafter⟩
      cases e with
      | start tag =>
        rw [openAfter_start] at h
        have hinner : last.length ≤ (name :: outer).length := by
          simp only [List.length_cons]
          omega
        obtain ⟨inner, behind, rfl, hbehind⟩ := ih es.length (by omega) h hinner rfl
        simp only [List.length_append, List.length_cons] at hn
        obtain ⟨c, after, rfl, hafter⟩ := ih behind.length (by omega) hbehind hlast rfl
        exact ⟨.element tag inner c, after, by simp [Content.events], hafter⟩
      | empty tag =>
        rw [openAfter_empty] at h
        obtain ⟨c, after, rfl, hafter⟩ := ih es.length (by omega) h hlast rfl
        exact ⟨.empty tag c, after, rfl, hafter⟩
      | close name' =>
        obtain ⟨rfl, hafter⟩ := openAfter_close h
        exact ⟨.nil, es, rfl, hafter⟩
      | text raw => exact hplain rfl
      | cdata raw => exact hplain rfl
      | comment raw => exact hplain rfl
      | doctype raw => exact hplain rfl
      | instruction raw => exact hplain rfl

/-- Events after which every element is closed again are those of a content. -/
theorem exists_content_of_balanced (h : openAfter [] es = some []) :
    ∃ c : Content, es = c.events := by
  -- after an element the events go on behind its end tag
  induction hn : es.length using Nat.strongRecOn generalizing es with
  | ind n ih =>
    cases es with
    | nil => exact ⟨.nil, rfl⟩
    | cons e es =>
      simp only [List.length_cons] at hn
      have hplain : e.isPlain = true → ∃ c : Content, e :: es = c.events := by
        intro hp
        rw [openAfter_plain hp] at h
        obtain ⟨c, rfl⟩ := ih es.length (by omega) h rfl
        exact ⟨.event e hp c, rfl⟩
      cases e with
      | start tag =>
        rw [openAfter_start] at h
        obtain ⟨inner, after, rfl, hafter⟩ := exists_content h (Nat.le_refl _)
        simp only [List.length_append, List.length_cons] at hn
        obtain ⟨c, rfl⟩ := ih after.length (by omega) hafter rfl
        exact ⟨.element tag inner c, rfl⟩
      | empty tag =>
        rw [openAfter_empty] at h
        obtain ⟨c, rfl⟩ := ih es.length (by omega) h rfl
        exact ⟨.empty tag c, rfl⟩
      | close name => cases h
      | text raw => exact hplain rfl
      | cdata raw => exact hplain rfl
      | comment raw => exact hplain rfl
      | doctype raw => exact hplain rfl
      | instruction raw => exact hplain rfl

/-- A content ends where an end tag stands that none of its start tags opened. -/
theorem Content.events_append_inj {c d : Content} {n m : Bytes} {xs ys : List Event}
    (h : c.events ++ .close n :: xs = d.events ++ .close m :: ys) : c = d ∧ n = m ∧ xs = ys := by
  induction c generalizing d n m xs ys with
  | nil =>
    cases d with
    | nil => simpa [events] using h
    | event e plain rest =>
      cases (List.cons.inj h).1
      cases plain
    | empty tag rest => simp [events] at h
    | element tag inner rest => simp [events] at h
  | event e plain rest ih =>
    cases d with
    | event e' plain' rest' =>
      obtain ⟨rfl, htail⟩ := List.cons.inj h
      obtain ⟨rfl, hrest⟩ := ih htail
      exact ⟨rfl, hrest⟩
    | _ =>
      cases (List.cons.inj h).1
      cases plain
  | empty tag rest ih =>
    cases d with
    | nil => simp [events] at h
    | event e plain rest' =>
      cases (List.cons.inj h).1
      cases plain
    | empty tag' rest' =>
      obtain ⟨htag, htail⟩ := List.cons.inj h
      cases htag
      obtain ⟨rfl, hrest⟩ := ih htail
      exact ⟨rfl, hrest⟩
    | element tag' inner rest' => simp [events] at h
  | element tag inner rest ihinner ihrest =>
    cases d with
    | nil => simp [events] at h
    | event e plain rest' =>
      cases (List.cons.inj h).1
      cases plain
    | empty tag' rest' => simp [events] at h
    | element tag' inner' rest' =>
      simp only [events, List.cons_append, List.append_assoc] at h
      obtain ⟨htag, htail⟩ := List.cons.inj h
      cases htag
      -- first the content up to its own end tag, then what follows that
      obtain ⟨rfl, _, hbehind⟩ := ihinner htail
      obtain ⟨rfl, hrest⟩ := ihrest hbehind
      exact ⟨rfl, hrest⟩

/-- The events tell the content. -/
theorem Content.events_inj {c d : Content} (h : c.events = d.events) : c = d := by
  have hclosed : c.events ++ [.close []] = d.events ++ [.close []] := by rw [h]
  exact (events_append_inj hclosed).1

end OlapClient.Markup
