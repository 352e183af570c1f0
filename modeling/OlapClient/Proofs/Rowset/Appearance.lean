import OlapClient.Proofs.Rowset.Edited

namespace OlapClient.Rowset

open Markup

/-!
# Tables without a schema

Without a schema the columns of a table are the names of its cells, in the order in which they first
appear in the document. The decoder notes them while it reads; here they are told by the tree that
the document is.

* `rowElements`, `columnNames`, `Child.cell` — the rows of a tree, its columns, and the cells.
* `Progress.Gathers` — the rows and the names of cells that are read with some events.
* `Progress.gathers_in_cell`, `Progress.gathers_in_row`, `Progress.gathers_outside` — reading a tree
  in a cell, in a row, and outside of rows.
* `decode_content` — the table of a tree.
* `decode_without_schema` — the table of a balanced document.
-/

/-! ### Rows, columns and cells of a tree -/

/-- The rows of a content: its elements that are named so, but for those inside another one. -/
def rowElements : Content → List Child
  | .nil => []
  | .event _ _ rest => rowElements rest
  | .empty tag rest =>
    if tag.localName = "row" then ⟨tag, none⟩ :: rowElements rest else rowElements rest
  | .element tag inner rest =>
    if tag.localName = "row" then ⟨tag, some inner⟩ :: rowElements rest
    else rowElements inner ++ rowElements rest

/-- The names of the cells of some rows, in document order. -/
def cellNames (rows : List Child) : List String :=
  rows.flatMap fun row => row.children.map Child.localName

/-- The columns of a content: the names of the cells of its rows, each at its first appearance. -/
def columnNames (c : Content) : List String :=
  (cellNames (rowElements c)).eraseDups

/-- The cell of a row in a column: the text of the last element of that name in the row, and absent
if there is none. -/
def cellIn (row : Child) (name : String) : Cell :=
  ((row.children.filter (·.localName == name)).getLast?).elim .null (.text ·.text)

/-- An element of a row as the decoder keeps it. -/
def rawCell (x : Child) : String × String :=
  (x.localName, x.text)

/-- A row as the decoder keeps it, the latest cell first. -/
def rawRow (row : Child) : RawRow :=
  (row.children.map rawCell).reverse

/-- A content without a schema whose character data can be read. -/
def Readable (c : Content) : Prop :=
  ∀ e ∈ c.events, e.elementName? ≠ some "schema" ∧ e.text? ≠ none

section Readable

variable {e : Event} {plain : e.isPlain = true} {tag : Tag} {inner rest : Content}

theorem Readable.of_event (h : Readable (.event e plain rest)) : e.text? ≠ none ∧ Readable rest :=
  ⟨(h e List.mem_cons_self).2, fun e' he' => h e' (List.mem_cons_of_mem e he')⟩

theorem Readable.of_empty (h : Readable (.empty tag rest)) :
    tag.localName ≠ "schema" ∧ Readable rest :=
  ⟨fun heq => (h _ List.mem_cons_self).1 (congrArg some heq),
    fun e he => h e (List.mem_cons_of_mem _ he)⟩

theorem Readable.of_element (h : Readable (.element tag inner rest)) :
    tag.localName ≠ "schema" ∧ Readable inner ∧ Readable rest := by
  refine ⟨fun heq => (h (.start tag) List.mem_cons_self).1 (congrArg some heq), fun e he => ?_,
    fun e he => ?_⟩
  · exact h e (by simp [Content.events, he])
  · exact h e (by simp [Content.events, he])

end Readable

/-! ### Reading a tree -/

namespace Progress

variable {p q r : Progress} {e : Event} {tag : Tag} {c inner rest : Content}
  {rows rows' : List RawRow} {names names' : List String} {place place' : Place}
  {cells : RawRow} {name text : String} {nested : Nat}

/-- From one state another is reached that stands at the given place, in no schema. On the way these
rows were read, and cells of these names. -/
structure Gathers (p q : Progress) (rows : List RawRow) (names : List String) (place : Place) :
    Prop where
  schema : q.schema = none
  declared : q.declared = p.declared
  rows : q.rows = rows.reverse ++ p.rows
  seen : ∀ before : List String, p.seen = before.eraseDups →
    q.seen = (before ++ names).eraseDups
  place : q.place = place
  sawRoot : p.sawRoot = true → q.sawRoot = true

theorem Gathers.refl (hp : p.schema = none) (hplace : p.place = place) : p.Gathers p [] [] place :=
  ⟨hp, rfl, rfl, fun before h => by rw [List.append_nil, h], hplace, id⟩

theorem Gathers.trans (h : p.Gathers q rows names place) (h' : q.Gathers r rows' names' place') :
    p.Gathers r (rows ++ rows') (names ++ names') place' where
  schema := h'.schema
  declared := h'.declared.trans h.declared
  rows := by rw [h'.rows, h.rows, List.reverse_append, List.append_assoc]
  seen before hseen := by rw [h'.seen _ (h.seen before hseen), List.append_assoc]
  place := h'.place
  sawRoot hroot := h'.sawRoot (h.sawRoot hroot)

/-- The place alone changes. -/
theorem Gathers.move (hp : p.schema = none) (place : Place) :
    p.Gathers { p with place := place } [] [] place :=
  ⟨hp, rfl, rfl, fun before h => by rw [List.append_nil, h], rfl, id⟩

/-- A root is seen. -/
theorem Gathers.root (hp : p.schema = none) (hplace : p.place = place) :
    p.Gathers { p with sawRoot := true } [] [] place :=
  ⟨hp, rfl, rfl, fun before h => by rw [List.append_nil, h], hplace, fun _ => rfl⟩

/-- A row ends, or stands there without cells. -/
theorem Gathers.row (hp : p.schema = none) (row : RawRow) :
    p.Gathers { p with rows := row :: p.rows, place := .outside } [row] [] .outside :=
  ⟨hp, rfl, rfl, fun before h => by rw [List.append_nil, h], rfl, id⟩

/-- The names that were noted are those of the cells, each at its first appearance. -/
theorem note_seen {before : List String} (h : p.seen = before.eraseDups) (name : String) :
    (p.note name).seen = (before ++ [name]).eraseDups := by
  rw [List.eraseDups_append, ← h]
  unfold note
  by_cases hseen : name ∈ p.seen
  · have hbefore : name ∈ before := List.mem_eraseDups.1 (h ▸ hseen)
    simp [hseen, List.cons_removeAll, hbefore]
  · have hbefore : name ∉ before := fun hin => hseen (h ▸ List.mem_eraseDups.2 hin)
    simp [hseen, List.cons_removeAll, hbefore, List.eraseDups_cons]

/-- A cell ends, or stands there without content. -/
theorem Gathers.cell (hp : p.schema = none) (name text : String) (cells : RawRow) :
    p.Gathers { p.note name with place := .row ((name, text) :: cells) } [] [name]
      (.row ((name, text) :: cells)) := by
  obtain ⟨seen, hnote⟩ := note_eq p name
  refine ⟨?_, ?_, ?_, fun before h => note_seen h name, rfl, ?_⟩
  · simp only [hnote, hp]
  · simp only [hnote]
  · simp only [hnote, List.reverse_nil, List.nil_append]
  · simp only [hnote, imp_self]

/-! ### Text -/

/-- An event that is no tag adds its text, where text belongs to a cell. -/
theorem step_plain (plain : e.isPlain = true) (htext : e.text? ≠ none) (p : Progress) :
    p.step e = .ok (p.takes e.chunk) := by
  by_cases hcell : p.InCell
  · obtain ⟨s, hs⟩ := Option.ne_none_iff_exists'.1 htext
    have hstep := takesUp_step hcell plain
    rw [hs] at hstep
    rw [Event.chunk, hs]
    generalize p.step e = x at hstep ⊢
    cases hstep
    rfl
  · rw [step_outside hcell plain, takes_outside hcell]

/-- In a cell a text is added, unless it stands in a further element. -/
theorem takes_gathers (hp : p.schema = none) (hplace : p.place = .cell cells name text nested)
    (s : String) :
    p.Gathers (p.takes s) [] []
      (.cell cells name (if nested = 0 then text ++ s else text) nested) := by
  cases nested with
  | zero =>
    rw [takes_of_place hplace]
    exact .move hp _
  | succ nested =>
    rw [takes_outside (not_inCell hplace (by simp))]
    exact .refl hp hplace

/-! ### Elements -/

/-- An element is read by its start tag, its content, its end tag and what follows it. -/
theorem run_element {m m' : Progress} (hstart : p.step (.start tag) = .ok m)
    (hinner : m.run inner.events = .ok m') :
    p.run (Content.element tag inner rest).events = m'.onClose.run rest.events := by
  rw [Content.events, run_cons hstart, run_append hinner]
  rfl

/-- In a cell the text that stands directly in it is taken up, and nothing else is read. -/
theorem gathers_in_cell (c : Content) (hc : Readable c) (hp : p.schema = none)
    (hplace : p.place = .cell cells name text nested) :
    ∃ q, p.run c.events = .ok q ∧ p.Gathers q [] []
      (.cell cells name (if nested = 0 then text ++ c.ownText else text) nested) := by
  induction c generalizing p text nested with
  | nil =>
    refine ⟨p, rfl, .refl hp ?_⟩
    rw [hplace, Content.ownText, String.append_empty, ite_self]
  | event e plain rest ih =>
    obtain ⟨htext, hrest⟩ := hc.of_event
    have hm := takes_gathers hp hplace e.chunk
    obtain ⟨q, hrun, hq⟩ := ih hrest hm.schema hm.place
    refine ⟨q, (run_cons (step_plain plain htext p)).trans hrun, ?_⟩
    have hall := hm.trans hq
    by_cases hnested : nested = 0 <;>
      simpa [hnested, Content.ownText, String.append_assoc] using hall
  | empty tag rest ih =>
    -- the element may have the name of a root
    obtain ⟨m, hstep, hm⟩ : ∃ m, p.step (.empty tag) = .ok m ∧
        p.Gathers m [] [] (.cell cells name text nested) := by
      by_cases hroot : tag.localName = "root"
      · exact ⟨{ p with sawRoot := true }, by simp only [step, onEmpty, hp, hplace, if_pos hroot],
          .root hp hplace⟩
      · exact ⟨p, by simp only [step, onEmpty, hp, hplace, if_neg hroot], .refl hp hplace⟩
    obtain ⟨q, hrun, hq⟩ := ih hc.of_empty.2 hm.schema hm.place
    exact ⟨q, (run_cons hstep).trans hrun, hm.trans hq⟩
  | element tag inner rest ihinner ihrest =>
    obtain ⟨hname, hinner, hrest⟩ := hc.of_element
    have hstart : p.step (.start tag) =
        .ok { p with place := .cell cells name text (nested + 1) } := by
      simp only [step, onStart, hp, hplace, hname, if_false]
    have hm := Gathers.move hp (.cell cells name text (nested + 1))
    obtain ⟨m, hrun, hm'⟩ := ihinner hinner hm.schema hm.place
    -- the end tag leaves the element
    rw [if_neg (Nat.succ_ne_zero nested)] at hm'
    have hclose : m.onClose = { m with place := .cell cells name text nested } := by
      simp only [onClose, hm'.schema, hm'.place]
    have hm'' := (hm.trans hm').trans (.move hm'.schema (.cell cells name text nested))
    obtain ⟨q, hrun', hq⟩ := ihrest hrest hm''.schema hm''.place
    rw [run_element hstart hrun, hclose]
    exact ⟨q, hrun', hm''.trans hq⟩

/-- In a row each element is a cell with the text that stands directly in it. -/
theorem gathers_in_row (c : Content) (hc : Readable c) (hp : p.schema = none)
    (hplace : p.place = .row cells) :
    ∃ q, p.run c.events = .ok q ∧ p.Gathers q [] (c.children.map Child.localName)
      (.row ((c.children.map rawCell).reverse ++ cells)) := by
  induction c generalizing p cells with
  | nil => exact ⟨p, rfl, .refl hp hplace⟩
  | event e plain rest ih =>
    rw [Content.events, run_cons (step_outside (not_inCell hplace (by simp)) plain)]
    exact ih hc.of_event.2 hp hplace
  | empty tag rest ih =>
    have hstep : p.step (.empty tag) =
        .ok { p.note tag.localName with place := .row ((tag.localName, "") :: cells) } := by
      simp only [step, onEmpty, hp, hplace]
    have hm := Gathers.cell hp tag.localName "" cells
    obtain ⟨q, hrun, hq⟩ := ih hc.of_empty.2 hm.schema hm.place
    refine ⟨q, (run_cons hstep).trans hrun, ?_⟩
    have hall := hm.trans hq
    simpa [Content.children, Child.localName, rawCell, Child.text] using hall
  | element tag inner rest ihinner ihrest =>
    obtain ⟨hname, hinner, hrest⟩ := hc.of_element
    have hstart : p.step (.start tag) =
        .ok { p with place := .cell cells tag.localName "" 0 } := by
      simp only [step, onStart, hp, hplace, hname, if_false]
    have hm := Gathers.move hp (.cell cells tag.localName "" 0)
    obtain ⟨m, hrun, hm'⟩ := gathers_in_cell inner hinner hm.schema hm.place
    rw [if_pos rfl, String.empty_append] at hm'
    have hclose : m.onClose = { m.note tag.localName with
        place := .row ((tag.localName, inner.ownText) :: cells) } := by
      simp only [onClose, hm'.schema, hm'.place]
    have hm'' := (hm.trans hm').trans (.cell hm'.schema tag.localName inner.ownText cells)
    obtain ⟨q, hrun', hq⟩ := ihrest hrest hm''.schema hm''.place
    rw [run_element hstart hrun, hclose]
    refine ⟨q, hrun', ?_⟩
    have hall := hm''.trans hq
    simpa [Content.children, Child.localName, rawCell, Child.text] using hall

/-- Outside of rows a tag that opens no row changes nothing, but a root is seen. -/
theorem opens_outside (hp : p.schema = none) (hplace : p.place = .outside)
    (hschema : tag.localName ≠ "schema") (hrow : tag.localName ≠ "row") :
    ∃ m, p.step (.start tag) = .ok m ∧ p.step (.empty tag) = .ok m ∧
      p.Gathers m [] [] .outside ∧
      (tag.localName = "root" ∨ tag.localName = "row" → m.sawRoot = true) := by
  by_cases hroot : tag.localName = "root"
  · refine ⟨{ p with sawRoot := true }, ?_, ?_, .root hp hplace, fun _ => rfl⟩
    · simp only [step, onStart, hp, hplace, if_neg hschema, if_neg hrow, if_pos hroot]
    · simp only [step, onEmpty, hp, hplace, if_neg hrow, if_pos hroot]
  · refine ⟨p, ?_, ?_, .refl hp hplace, fun hname => absurd hname (not_or.2 ⟨hroot, hrow⟩)⟩
    · simp only [step, onStart, hp, hplace, if_neg hschema, if_neg hrow, if_neg hroot]
    · simp only [step, onEmpty, hp, hplace, if_neg hrow, if_neg hroot]

/-- An element that is a row, outside of others, is read as that row. -/
theorem gathers_row (hp : p.schema = none) (hplace : p.place = .outside)
    (hrow : tag.localName = "row") (hinner : Readable inner) :
    ∃ m, (∀ rest, p.run (Content.element tag inner rest).events = m.run rest.events) ∧
      p.Gathers m [rawRow ⟨tag, some inner⟩] (inner.children.map Child.localName) .outside := by
  have hstart : p.step (.start tag) = .ok { p with place := .row [] } := by
    have hschema : tag.localName ≠ "schema" := by
      rw [hrow]
      decide
    simp only [step, onStart, hp, hplace, if_neg hschema, if_pos hrow]
  have hm := Gathers.move hp (.row [])
  obtain ⟨m, hrun, hm'⟩ := gathers_in_row inner hinner hm.schema hm.place
  rw [List.append_nil] at hm'
  have hclose : m.onClose =
      { m with rows := rawRow ⟨tag, some inner⟩ :: m.rows, place := .outside } := by
    simp only [onClose, hm'.schema, hm'.place]
    rfl
  have hall := (hm.trans hm').trans (.row hm'.schema (rawRow ⟨tag, some inner⟩))
  refine ⟨m.onClose, fun rest => run_element hstart hrun, ?_⟩
  rw [hclose]
  simpa using hall

/-- Outside of rows the rows are read. Of an element that is a root or a row, a root is seen or there
is a row. -/
theorem gathers_outside (c : Content) (hc : Readable c) (hp : p.schema = none)
    (hplace : p.place = .outside) :
    ∃ q, p.run c.events = .ok q ∧
      p.Gathers q ((rowElements c).map rawRow) (cellNames (rowElements c)) .outside ∧
      ∀ e ∈ c.events, e.elementName? = some "root" ∨ e.elementName? = some "row" →
        q.sawRoot = true ∨ rowElements c ≠ [] := by
  induction c generalizing p with
  | nil => exact ⟨p, rfl, .refl hp hplace, fun e he => absurd he List.not_mem_nil⟩
  | event e plain rest ih =>
    have hstep := step_outside (not_inCell hplace (by simp)) plain
    obtain ⟨q, hrun, hq, hfound⟩ := ih hc.of_event.2 hp hplace
    refine ⟨q, (run_cons hstep).trans hrun, hq, fun e' he' hname => ?_⟩
    rcases List.mem_cons.1 he' with rfl | hin
    · rw [elementName?_plain plain] at hname
      simp at hname
    · exact hfound e' hin hname
  | empty tag rest ih =>
    obtain ⟨hschema, hrest⟩ := hc.of_empty
    by_cases hrow : tag.localName = "row"
    · have hstep : p.step (.empty tag) =
          .ok { p with rows := [] :: p.rows, place := .outside } := by
        simp only [step, onEmpty, hp, hplace, if_pos hrow]
      have hm := Gathers.row hp []
      obtain ⟨q, hrun, hq, -⟩ := ih hrest hm.schema hm.place
      refine ⟨q, (run_cons hstep).trans hrun, ?_, fun _ _ _ => .inr (by simp [rowElements, hrow])⟩
      have hall := hm.trans hq
      simpa [rowElements, hrow, cellNames, rawRow, Child.children] using hall
    · obtain ⟨m, -, hstep, hm, hroot⟩ := opens_outside hp hplace hschema hrow
      obtain ⟨q, hrun, hq, hfound⟩ := ih hrest hm.schema hm.place
      have hrows : rowElements (.empty tag rest) = rowElements rest := if_neg hrow
      rw [hrows]
      refine ⟨q, (run_cons hstep).trans hrun, hm.trans hq, fun e he hname => ?_⟩
      rcases List.mem_cons.1 he with rfl | hin
      · exact .inl (hq.sawRoot (hroot (hname.imp Option.some.inj Option.some.inj)))
      · exact hfound e hin hname
  | element tag inner rest ihinner ihrest =>
    obtain ⟨hschema, hinner, hrest⟩ := hc.of_element
    by_cases hrow : tag.localName = "row"
    · obtain ⟨m, hrun, hm⟩ := gathers_row hp hplace hrow hinner
      obtain ⟨q, hrun', hq, -⟩ := ihrest hrest hm.schema hm.place
      refine ⟨q, (hrun rest).trans hrun', ?_, fun _ _ _ => .inr (by simp [rowElements, hrow])⟩
      have hall := hm.trans hq
      simpa [rowElements, hrow, cellNames] using hall
    · obtain ⟨m, hstart, -, hm, hroot⟩ := opens_outside hp hplace hschema hrow
      obtain ⟨m', hrun, hm', hfound⟩ := ihinner hinner hm.schema hm.place
      have hclose : m'.onClose = m' := by
        simp only [onClose, hm'.schema, hm'.place]
      have hm'' := hm.trans hm'
      obtain ⟨q, hrun', hq, hfound'⟩ := ihrest hrest hm''.schema hm''.place
      have hrows : rowElements (.element tag inner rest) =
          rowElements inner ++ rowElements rest := if_neg hrow
      rw [run_element hstart hrun, hclose, hrows]
      refine ⟨q, hrun', ?_, fun e he hname => ?_⟩
      · have hall := hm''.trans hq
        simpa [cellNames] using hall
      · simp only [Content.events, List.mem_cons, List.mem_append] at he
        rcases he with rfl | hin | rfl | hin
        · have hseen := hroot (hname.imp Option.some.inj Option.some.inj)
          exact .inl (hq.sawRoot (hm'.sawRoot hseen))
        · rcases hfound e hin hname with hseen | hne
          · exact .inl (hq.sawRoot hseen)
          · exact .inr (List.append_ne_nil_of_left_ne_nil hne _)
        · rcases hname with hname | hname <;> cases hname
        · exact (hfound' e hin hname).imp_right (List.append_ne_nil_of_right_ne_nil _)

end Progress

/-! ### Tables -/

/-- Of the cells that the decoder keeps of a row, the last one of a name counts. -/
theorem lookup_rawRow (row : Child) (name : String) :
    (rawRow row).lookup name =
      ((row.children.filter (·.localName == name)).getLast?).map Child.text := by
  rw [rawRow, ← List.map_reverse, List.getLast?_filter]
  induction row.children.reverse with
  | nil => rfl
  | cons x xs ih =>
    by_cases hname : x.localName = name
    · simp [rawCell, hname]
    · have hname' : (name == x.localName) = false := beq_false_of_ne (Ne.symm hname)
      simp [rawCell, List.lookup_cons, hname, hname', ih]

/-- A column that no schema declares holds the texts of its cells. -/
theorem cell_ofElement (row : RawRow) (name : String) :
    (Column.ofElement name).cell row = .ok ((row.lookup name).elim .null .text) := by
  unfold Column.cell
  rw [show (Column.ofElement name).element = name from rfl]
  cases row.lookup name <;> rfl

/-- The table of what was read without a schema. -/
theorem table_of_undeclared {p : Progress} (hdeclared : p.declared = [])
    (hfound : p.sawRoot = true ∨ p.rows ≠ []) :
    p.table = .ok (Table.ofRows (p.seen.map unescapeNameString)
      (p.rows.reverse.map fun row => p.seen.map fun name => (row.lookup name).elim .null .text)) := by
  have hcolumns : p.columns = p.seen.map Column.ofElement := if_pos hdeclared
  have hcells : p.rows.reverse.mapM (cellsOf p.columns) = .ok (p.rows.reverse.map fun row =>
      p.seen.map fun name => (row.lookup name).elim .null .text) := by
    refine mapM_eq_ok_map fun row _ => ?_
    rw [hcolumns]
    show (p.seen.map Column.ofElement).mapM (·.cell row) = _
    rw [List.mapM_map]
    exact mapM_eq_ok_map fun name _ => cell_ofElement row name
  have hnonempty : ¬(!p.sawRoot ∧ p.rows = [] ∧ p.declared = []) := by
    rintro ⟨hroot, hnil, -⟩
    rcases hfound with hseen | hne
    · simp [hseen] at hroot
    · exact hne hnil
  have hlabels : p.columns.map (·.label) = p.seen.map unescapeNameString := by
    rw [hcolumns, List.map_map]
    rfl
  rw [Progress.table, if_neg hnonempty, hcells, hlabels]

/-- The table of what was read of a tree. -/
theorem table_of_gathers {p : Progress} {rows : List Child} {place : Place}
    (h : Progress.Gathers {} p (rows.map rawRow) (cellNames rows) place)
    (hfound : p.sawRoot = true ∨ rows ≠ []) :
    p.table = .ok (Table.ofRows ((cellNames rows).eraseDups.map unescapeNameString)
      (rows.map fun row => (cellNames rows).eraseDups.map (cellIn row))) := by
  have hrows : p.rows = (rows.map rawRow).reverse := by
    rw [h.rows, List.append_nil]
  have hne : rows ≠ [] → p.rows ≠ [] := by
    rw [hrows, ne_eq, ne_eq, List.reverse_eq_nil_iff, List.map_eq_nil_iff]
    exact id
  have hcell (row : Child) (name : String) :
      ((rawRow row).lookup name).elim .null .text = cellIn row name := by
    rw [lookup_rawRow, cellIn, Option.elim_map]
    rfl
  rw [table_of_undeclared h.declared (hfound.imp_right hne), h.seen [] rfl, List.nil_append, hrows,
    List.reverse_reverse, List.map_map]
  simp only [Function.comp_def, hcell]

/-- A tree without a schema that holds a root or a row is decoded as the table of its rows. -/
theorem decode_content {body : Bytes} {c : Content} (hread : Markup.read body = ⟨c.events, none⟩)
    (hfault : Soap.fault? body = none) (hc : Readable c)
    (hfound : ∃ e ∈ c.events, e.elementName? = some "root" ∨ e.elementName? = some "row") :
    ∃ t, decode body = .ok t ∧ t.columns = (columnNames c).map unescapeNameString ∧
      t.rows = (rowElements c).map fun row => (columnNames c).map (cellIn row) := by
  obtain ⟨p, hrun, hp, hshows⟩ := Progress.gathers_outside (p := {}) c hc rfl rfl
  obtain ⟨e, he, hname⟩ := hfound
  have hdecode : decode body = p.table := by
    rw [decode_of_no_fault hfault hread, hrun]
    rfl
  refine ⟨_, hdecode.trans (table_of_gathers hp (hshows e he hname)), rfl, ?_⟩
  refine Table.rows_ofRows fun row hrow => ?_
  obtain ⟨x, -, rfl⟩ := List.mem_map.1 hrow
  exact (List.length_map _).trans (List.length_map _).symm

/-- **Columns in the order of their first appearance.** A document that is read to its end with every
element closed again is a tree. If it carries no fault, holds a root or a row but no schema, and all
its character data can be read, then it is decoded as a table: its columns are the names of the
elements in its rows, in the order in which they first appear in the document, with escaped
characters put back; and it has one row for each row of the tree, with the text of the last element
of its name in each column, or an absent cell. -/
theorem decode_without_schema (body : Bytes) (hend : (Markup.read body).failure = none)
    (hbalanced : openAfter [] (Markup.read body).events = some [])
    (hfault : Soap.fault? body = none)
    (hfound : ∃ e ∈ (Markup.read body).events,
      e.elementName? = some "root" ∨ e.elementName? = some "row")
    (hschema : ∀ e ∈ (Markup.read body).events, e.elementName? ≠ some "schema")
    (htext : ∀ e ∈ (Markup.read body).events, e.text? ≠ none) :
    ∃ (c : Content) (t : Table), (Markup.read body).events = c.events ∧ decode body = .ok t ∧
      t.columns = (columnNames c).map unescapeNameString ∧
      t.rows = ((rowElements c).map fun row => (columnNames c).map (cellIn row)) ∧
      ∀ row ∈ t.rows, row.length = t.columns.length := by
  obtain ⟨c, hevents⟩ := exists_content_of_balanced hbalanced
  have hread : Markup.read body = ⟨c.events, none⟩ := by
    rw [← hevents, ← hend]
  rw [hevents] at hfound hschema htext
  obtain ⟨t, hdecode, hcolumns, hrows⟩ :=
    decode_content hread hfault (fun e he => ⟨hschema e he, htext e he⟩) hfound
  exact ⟨c, t, hevents, hdecode, hcolumns, hrows, t.width_eq⟩

/-- A cell with text on both sides of an element that is named like a row, an empty cell, an empty row
inside another element, and a column that only the last row has. -/
theorem decode_late_column :
    let body := Utf8.encodeString <|
      "<root><row><B>x</B><A/><row>n</row><B>y<row><i>z</i></row>w</B></row><x><row/></x>" ++
        "<row><C_x0020_D>v</C_x0020_D></row></root>"
    ∃ t, decode body = .ok t ∧ t.columns = ["B", "A", "row", "C D"] ∧
      t.rows = [[.text "yw", .text "", .text "n", .null], [.null, .null, .null, .null],
        [.null, .null, .null, .text "v"]] := by
  intro body
  let tag (name : String) : Tag := ⟨Utf8.encodeString name, []⟩
  let leaf (name text : String) (rest : Content) : Content :=
    .element (tag name) (.event (.text (Utf8.encodeString text)) rfl .nil) rest
  let last : Content := .event (.text (Utf8.encodeString "w")) rfl .nil
  let first : Content := leaf "B" "x" (.empty (tag "A") (leaf "row" "n" (.element (tag "B")
    (.event (.text (Utf8.encodeString "y")) rfl (.element (tag "row") (leaf "i" "z" .nil) last))
    .nil)))
  let tree : Content := .element (tag "root") (.element (tag "row") first
    (.element (tag "x") (.empty (tag "row") .nil)
      (.element (tag "row") (leaf "C_x0020_D" "v" .nil) .nil))) .nil
  have hread : Markup.read body = ⟨tree.events, none⟩ := by decide +kernel
  have hfault : Soap.fault? body = none := by
    rw [Soap.fault?, hread]
    decide +kernel
  obtain ⟨c, t, hc, hdecode, hcolumns, hrows, -⟩ := decode_without_schema body
    (by rw [hread]) (by rw [hread]; decide +kernel) hfault (by rw [hread]; decide +kernel)
    (by rw [hread]; decide +kernel) (by rw [hread]; decide +kernel)
  rw [hread] at hc
  obtain rfl : c = tree := Content.events_inj hc.symm
  exact ⟨t, hdecode, hcolumns.trans (by decide +kernel), hrows.trans (by decide +kernel)⟩

end OlapClient.Rowset
