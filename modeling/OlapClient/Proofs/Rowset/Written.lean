import OlapClient.Proofs.Markup.Written
import OlapClient.Proofs.Rowset.Sheet

namespace OlapClient.Rowset

open Markup
open Utf8 (encodeString)

/-!
# Sheets are read back

A sheet is written as a document with a schema that declares its columns, and then its rows.

* `Sheet.body` — the bytes of that document, `Sheet.events` — what they are read as.
* `Progress.run_declarations`, `Progress.run_row` — reading the schema and the rows.
* `Sheet.decode_body` — the table of the document is the sheet.
-/

/-! ### Documents -/

/-- The schema type of a kind. -/
def Kind.schemaType : Kind → String
  | .int => "xsd:long"
  | .double => "xsd:double"
  | .bool => "xsd:boolean"
  | .text => "xsd:string"

/-- The attributes of the declaration of a column. -/
def Column.attributes (c : Column) : List (String × String) :=
  [("name", c.element), ("sql:field", c.label), ("type", c.kind.schemaType)]

/-- The tag that declares a column. -/
def Column.tag (c : Column) : Tag :=
  writtenTag "xsd:element" (writeAttributes c.attributes)

/-- The declaration of a column. -/
def Column.declaration (c : Column) : List Char :=
  emptyElement "xsd:element" (writeAttributes c.attributes)

example : (Column.mk "A" "a < b" .int).declaration =
    "<xsd:element name=\"A\" sql:field=\"a &lt; b\" type=\"xsd:long\"/>".toList := by
  decide

/-- The schema that declares some columns. -/
def schemaText (columns : List Column) : List Char :=
  Soap.element "xsd:schema"
    (Soap.elementWith "xsd:complexType" (nameAttribute "row")
      (columns.flatMap Column.declaration))

/-- A row as it is written: absent cells are left out. -/
def SheetRow.text {columns : List Column} (r : SheetRow columns) : List Char :=
  Soap.element "row" (r.elements.flatMap fun e => Soap.leaf e.1 e.2)

/-- The document of a sheet. -/
def Sheet.text (s : Sheet) : List Char :=
  Soap.element "root" (schemaText s.columns ++ s.rows.flatMap SheetRow.text)

/-- The bytes of the document of a sheet. -/
def Sheet.body (s : Sheet) : Bytes :=
  Utf8.encode s.text

/-! ### Names -/

theorem localName_xsd {name : String} (after : List Char)
    (hname : name.toList = "xsd:".toList ++ after) (attributes : String) :
    (writtenTag name attributes).localName = String.ofList after :=
  localName_prefixed ['x', 's', 'd'] after hname (by decide)

theorem localName_plain {name : String} (hname : ':' ∉ name.toList) (attributes : String) :
    (writtenTag name attributes).localName = name :=
  localName_encodeString hname

namespace CellName

variable {name : String} (h : CellName name)
include h

/-- The name of a cell may stand in a tag. -/
theorem isTagName : isTagName name.toList = true :=
  isTagName_of_isName h.named

/-- The name of a cell has no prefix. -/
theorem localName (attributes : String) : (writtenTag name attributes).localName = name :=
  localName_plain (fun hcolon => absurd (isNamePart_of_mem h.named hcolon) (by decide)) attributes

end CellName

/-! ### Events of documents -/

/-- The events of the schema that declares some columns. -/
def schemaEvents (columns : List Column) : List Event :=
  elementEvents "xsd:schema" ""
    (elementEvents "xsd:complexType" (nameAttribute "row")
      (columns.flatMap fun c => [.empty c.tag]))

/-- The events of an element that holds the text of a cell. -/
def cellEvents (e : String × String) : List Event :=
  elementEvents e.1 "" (textEvents e.2)

/-- The events of a row. -/
def SheetRow.events {columns : List Column} (r : SheetRow columns) : List Event :=
  elementEvents "row" "" (r.elements.flatMap cellEvents)

/-- The events of the document of a sheet. -/
def Sheet.events (s : Sheet) : List Event :=
  elementEvents "root" "" (schemaEvents s.columns ++ s.rows.flatMap SheetRow.events)

theorem reads_declaration (c : Column) : Reads c.declaration [.empty c.tag] :=
  reads_emptyElement (by decide) (attributeBytes_write (by
    simp only [Column.attributes, List.forall_mem_cons]
    decide))

theorem reads_schemaText (columns : List Column) :
    Reads (schemaText columns) (schemaEvents columns) :=
  .element (by decide) (.elementWith (by decide) (attributeBytes_nameAttribute "row")
    (.flatMap fun c _ => reads_declaration c))

namespace Sheet

variable (s : Sheet)

theorem cellName_of_mem_elements {r : SheetRow s.columns} {e : String × String}
    (he : e ∈ r.elements) : CellName e.1 := by
  obtain ⟨c, hc, hname⟩ := List.mem_map.1 (r.element_spec he).1
  rw [← hname]
  exact s.named c hc

/-- The document of a sheet is read without an error. -/
theorem read_body : Markup.read s.body = ⟨s.events, none⟩ := by
  have hcell : ∀ r : SheetRow s.columns, ∀ e ∈ r.elements,
      Reads (Soap.leaf e.1 e.2) (cellEvents e) := fun r e he =>
    reads_leaf (s.cellName_of_mem_elements he).isTagName (r.element_spec he).2
  have hrow : ∀ r ∈ s.rows, Reads r.text r.events := fun r _ =>
    .element (by decide) (.flatMap (hcell r))
  have hcontent := (reads_schemaText s.columns).append (.flatMap hrow)
  exact read_of_reads (.element (by decide) hcontent)

end Sheet

/-! ### Declarations -/

/-- The declaration of a column is read as that column. -/
theorem ofDeclaration_tag (c : Column) :
    Column.ofDeclaration c.tag = some c := by
  have hnames : ∀ a ∈ c.attributes, isTagName a.1.toList = true := by
    simp only [Column.attributes, List.forall_mem_cons]
    decide
  have hdistinct : (c.attributes.map (·.1)).Nodup := by
    simp only [Column.attributes, List.map_cons, List.map_nil]
    decide
  have hlocalName : localName (encodeString "name") = "name" :=
    localName_encodeString (by decide)
  have hlocalField : localName (encodeString "sql:field") = "field" :=
    localName_prefixed ['s', 'q', 'l'] "field".toList rfl (by decide)
  have hlocalType : localName (encodeString "type") = "type" :=
    localName_encodeString (by decide)
  have hread {key : String} {a : String × String}
      (hfind : c.attributes.find? (fun a => localName (encodeString a.1) == key) = some a) :
      c.tag.attribute? key = some a.2 :=
    attribute?_write hnames hdistinct hfind
  have hname : c.tag.attribute? "name" = some c.element :=
    hread (a := ("name", c.element)) (by simp [Column.attributes, hlocalName])
  have hfield : c.tag.attribute? "field" = some c.label :=
    hread (a := ("sql:field", c.label)) (by simp [Column.attributes, hlocalName, hlocalField])
  have htype : c.tag.attribute? "type" = some c.kind.schemaType :=
    hread (a := ("type", c.kind.schemaType))
      (by simp [Column.attributes, hlocalName, hlocalField, hlocalType])
  have hkind : Kind.ofType c.kind.schemaType = c.kind := by
    cases c.kind <;> decide
  simp only [Column.ofDeclaration, hname, hfield, htype, Option.getD_some, Option.map_some, hkind]

/-! ### Reading the events -/

namespace Progress

variable {p q : Progress} {e : Event} {es fs : List Event}

theorem run_cons_bind (p : Progress) (e : Event) (es : List Event) :
    p.run (e :: es) = (p.step e).bind fun q => q.run es := by
  rw [run]
  cases p.step e <;> rfl

theorem run_cons (h : p.step e = .ok q) : p.run (e :: es) = q.run es := by
  rw [run, h]

theorem run_append (h : p.run es = .ok q) : p.run (es ++ fs) = q.run fs := by
  rw [run_append_eq, h]
  rfl

/-- An element is read by its start tag, its content and its end tag. -/
theorem run_elementEvents {name attributes : String} {m : Progress}
    (hstart : p.onStart (writtenTag name attributes) = .ok m) (hcontent : m.run es = .ok q) :
    p.run (elementEvents name attributes es) = .ok q.onClose := by
  have hstep : p.step (.start (writtenTag name attributes)) = .ok m := hstart
  rw [elementEvents, run_cons hstep, run_append hcontent]
  rfl

/-- In the type of the rows, the declarations are columns. -/
theorem run_declarations {n : Nat} (columns : List Column) (hp : p.schema = some ⟨n, true⟩) :
    p.run (columns.flatMap fun c => [.empty c.tag]) =
      .ok { p with declared := p.declared ++ columns } := by
  induction columns generalizing p with
  | nil => simp [run]
  | cons c columns ih =>
    have hname : c.tag.localName = "element" := localName_xsd "element".toList rfl _
    have hstep : p.step (.empty c.tag) = .ok { p with declared := p.declared ++ [c] } := by
      simp [step, onEmpty, hp, hname, declare, ofDeclaration_tag]
    have hrest := ih (p := { p with declared := p.declared ++ [c] }) hp
    rw [List.flatMap_cons, List.singleton_append, run_cons hstep, hrest]
    simp

/-- The schema of a sheet declares its columns. -/
theorem run_schemaEvents (columns : List Column) (hp : p.schema = none) :
    p.run (schemaEvents columns) = .ok { p with declared := p.declared ++ columns } := by
  have hschema : (writtenTag "xsd:schema" "").localName = "schema" :=
    localName_xsd "schema".toList rfl ""
  have htype : (writtenTag "xsd:complexType" (nameAttribute "row")).localName =
      "complexType" :=
    localName_xsd "complexType".toList rfl _
  have hstart : p.onStart (writtenTag "xsd:schema" "") = .ok { p with schema := some {} } := by
    simp [onStart, hp, hschema]
  have hinner : onStart { p with schema := some {} }
      (writtenTag "xsd:complexType" (nameAttribute "row")) =
        .ok { p with schema := some ⟨1, true⟩ } := by
    simp [onStart, htype, attribute?_nameAttribute]
  have hdeclared := run_declarations (p := { p with schema := some ⟨1, true⟩ }) columns rfl
  have hrun := run_elementEvents hstart (run_elementEvents hinner hdeclared)
  rw [schemaEvents, hrun]
  simp [onClose, hp]

/-- The text of a cell is added to it. -/
theorem run_textEvents {cells : RawRow} {name : String} (value : String)
    (hplace : p.place = .cell cells name "" 0) :
    p.run (textEvents value) = .ok { p with place := .cell cells name value 0 } := by
  unfold textEvents
  by_cases hempty : value = ""
  · rw [if_pos hempty, hempty, ← hplace]
    rfl
  · rw [if_neg hempty]
    have hstep : p.step (.text (Utf8.encode (escape value.toList))) =
        .ok { p with place := .cell cells name value 0 } := by
      simp [step, onText, hplace, characters_encode_escape, Except.mapError]
    rw [run_cons hstep]
    rfl

theorem note_eq (p : Progress) (name : String) : ∃ seen, p.note name = { p with seen := seen } := by
  unfold note
  split
  · exact ⟨p.seen, rfl⟩
  · exact ⟨p.seen ++ [name], rfl⟩

/-- The element of a cell in a row is that cell. -/
theorem run_cellEvents {cells : RawRow} {e : String × String} (hname : CellName e.1)
    (hp : p.schema = none) (hplace : p.place = .row cells) :
    ∃ seen, p.run (cellEvents e) = .ok { p with place := .row (e :: cells), seen := seen } := by
  have hstart : p.onStart (writtenTag e.1 "") = .ok { p with place := .cell cells e.1 "" 0 } := by
    simp [onStart, hp, hplace, hname.localName, hname.not_schema]
  have htext := run_textEvents (p := { p with place := .cell cells e.1 "" 0 }) e.2 rfl
  -- at the end tag the name is noted, and the cell put before those of the row
  obtain ⟨seen, hseen⟩ := note_eq { p with place := .cell cells e.1 e.2 0 } e.1
  refine ⟨seen, ?_⟩
  rw [cellEvents, run_elementEvents hstart htext]
  simp only [onClose, hp] at hseen ⊢
  rw [hseen]

/-- The elements of a row are its cells, the latest first. -/
theorem run_cells {cells elements : RawRow}
    (hnames : ∀ e ∈ elements, CellName e.1)
    (hp : p.schema = none) (hplace : p.place = .row cells) :
    ∃ seen, p.run (elements.flatMap cellEvents) =
      .ok { p with place := .row (elements.reverse ++ cells), seen := seen } ∧
        (elements = [] → seen = p.seen) := by
  induction elements generalizing p cells with
  | nil => exact ⟨p.seen, by rw [List.reverse_nil, List.nil_append, ← hplace]; rfl, fun _ => rfl⟩
  | cons e elements ih =>
    obtain ⟨seen, hfirst⟩ := run_cellEvents (hnames e List.mem_cons_self) hp hplace
    -- the row goes on behind its first cell, whose name is noted
    obtain ⟨seen', hrun, -⟩ := ih (p := { p with place := .row (e :: cells), seen := seen })
      (fun e' he' => hnames e' (List.mem_cons_of_mem e he')) hp rfl
    refine ⟨seen', ?_, fun hnil => by cases hnil⟩
    rw [List.flatMap_cons, run_append hfirst, hrun]
    simp

/-- A row is read as its elements, the latest first. -/
theorem run_row {columns : List Column} (r : SheetRow columns)
    (hnames : ∀ e ∈ r.elements, CellName e.1)
    (hp : p.schema = none) (hplace : p.place = .outside) :
    ∃ seen, p.run r.events = .ok { p with rows := r.elements.reverse :: p.rows, seen := seen } ∧
      (r.elements = [] → seen = p.seen) := by
  have hlocal : (writtenTag "row" "").localName = "row" := localName_plain (by decide) ""
  have hstart : p.onStart (writtenTag "row" "") = .ok { p with place := .row [] } := by
    simp [onStart, hp, hplace, hlocal]
  obtain ⟨seen, hrun, hseen⟩ := run_cells (p := { p with place := .row [] }) hnames hp rfl
  refine ⟨seen, ?_, hseen⟩
  rw [SheetRow.events, run_elementEvents hstart hrun]
  simp [onClose, hp, hplace]

/-- Rows are read in order, the latest first. Where none has an element, no column is seen. -/
theorem run_rows {columns : List Column} (rows : List (SheetRow columns))
    (hnames : ∀ r ∈ rows, ∀ e ∈ r.elements, CellName e.1)
    (hp : p.schema = none) (hplace : p.place = .outside) :
    ∃ seen, p.run (rows.flatMap SheetRow.events) =
      .ok { p with rows := (rows.map (·.elements.reverse)).reverse ++ p.rows, seen := seen } ∧
        ((∀ r ∈ rows, r.elements = []) → seen = p.seen) := by
  induction rows generalizing p with
  | nil => exact ⟨p.seen, rfl, fun _ => rfl⟩
  | cons r rows ih =>
    obtain ⟨seen, hfirst, hseen⟩ := run_row r (hnames r List.mem_cons_self) hp hplace
    obtain ⟨seen', hrun, hseen'⟩ :=
      ih (p := { p with rows := r.elements.reverse :: p.rows, seen := seen })
        (fun r' hr' => hnames r' (List.mem_cons_of_mem r hr')) hp hplace
    refine ⟨seen', ?_, fun hempty => ?_⟩
    · rw [List.flatMap_cons, run_append hfirst, hrun]
      simp
    · rw [hseen' fun r' hr' => hempty r' (List.mem_cons_of_mem r hr')]
      exact hseen (hempty r List.mem_cons_self)

end Progress

/-! ### Tables -/

namespace Sheet

variable (s : Sheet)

/-- What has been read of a sheet at the end of its document. -/
theorem run_events :
    ∃ p, Progress.run {} s.events = .ok p ∧ p.sawRoot = true ∧ p.columns = s.columns ∧
      p.rows.reverse = s.rows.map (·.elements.reverse) := by
  have hlocal : (writtenTag "root" "").localName = "root" := localName_plain (by decide) ""
  have hstart : Progress.onStart {} (writtenTag "root" "") = .ok { sawRoot := true } := by
    simp [Progress.onStart, hlocal]
  have hschema := Progress.run_schemaEvents (p := { sawRoot := true }) s.columns rfl
  obtain ⟨seen, hrows, hseen⟩ := Progress.run_rows (p := { sawRoot := true, declared := s.columns })
    s.rows (fun r _ _ => s.cellName_of_mem_elements) rfl rfl
  have hcontent := (Progress.run_append hschema).trans hrows
  refine ⟨_, Progress.run_elementEvents hstart hcontent, rfl, ?_, by simp [Progress.onClose]⟩
  by_cases hnone : s.columns = []
  · -- without columns no row has an element, so none is seen
    have hempty : ∀ r ∈ s.rows, r.elements = [] := by
      intro r _
      refine List.eq_nil_iff_forall_not_mem.2 fun e he => ?_
      have hname := (r.element_spec he).1
      rw [hnone] at hname
      cases hname
    have hseen' : seen = [] := hseen hempty
    simp [Progress.columns, Progress.onClose, hnone, hseen']
  · simp [Progress.columns, Progress.onClose, hnone]

/-- The body of a sheet carries no fault: its first element is no envelope. -/
theorem fault?_body : Soap.fault? s.body = none := by
  have hlocal : (writtenTag "root" "").localName = "root" := localName_plain (by decide) ""
  rw [Soap.fault?, s.read_body]
  simp [events, elementEvents, Soap.FaultScan.scan, Soap.FaultScan.step, Soap.FaultScan.onStart,
    hlocal]

/-- **Sheets are read back.** The document of a sheet, with the elements of each row in any order, is
decoded as a table with the labels of its columns and the cells of its rows. -/
theorem decode_body :
    ∃ t, decode s.body = .ok t ∧ t.columns = s.columns.map (·.label) ∧
      t.rows = s.rows.map (·.cells) := by
  obtain ⟨p, hrun, hroot, hcolumns, hrows⟩ := s.run_events
  have hcells : p.rows.reverse.mapM (cellsOf p.columns) = .ok (s.rows.map (·.cells)) := by
    rw [hrows, hcolumns]
    refine mapM_eq_ok_of_zip (by rw [List.length_map, List.length_map]) fun q hq => ?_
    rw [List.zip_map'] at hq
    obtain ⟨r, -, rfl⟩ := List.mem_map.1 hq
    exact r.cellsOf_elements s.distinct
  have htable : p.table = .ok (Table.ofRows (s.columns.map (·.label)) (s.rows.map (·.cells))) := by
    unfold Progress.table
    rw [if_neg (by simp [hroot]), hcells, hcolumns]
  have hdecode : decode s.body = p.table := by
    simp only [decode, s.fault?_body, s.read_body, hrun]
  refine ⟨_, hdecode.trans htable, rfl, ?_⟩
  -- every row is as wide as the columns
  have hfit : ∀ row ∈ s.rows.map (·.cells), fit (s.columns.map (·.label)).length row = row := by
    intro row hrow
    obtain ⟨r, -, rfl⟩ := List.mem_map.1 hrow
    exact fit_of_length (by rw [List.length_map, r.width_eq])
  exact (List.map_congr_left hfit).trans (List.map_id _)

/-- A sheet whose cells are written in another order than its columns. An empty text is no absent
cell, and a column may have the name of another part of the document. -/
theorem decode_body_reordered :
    ∃ s t, decode (Sheet.body s) = .ok t ∧ t.columns = ["row & <total>", "", "note"] ∧
      t.rows = [[.int (-7), .text "", .null], [.null, .text "a < \"b\"", .bool true]] := by
  let columns : List Column :=
    [⟨"n", "row & <total>", .int⟩, ⟨"root", "", .text⟩, ⟨"row", "note", .bool⟩]
  let first : SheetRow columns :=
    { cells := [.int (-7), .text "", .null]
      elements := [("root", ""), ("n", "-7")]
      width_eq := rfl
      held := by decide
      order := by decide }
  let second : SheetRow columns :=
    { cells := [.null, .text "a < \"b\"", .bool true]
      elements := [("row", "true"), ("root", "a < \"b\"")]
      width_eq := rfl
      held := by decide
      order := by decide }
  let s : Sheet :=
    { columns := columns
      rows := [first, second]
      named := by
        have hnamed : ∀ c ∈ columns, Soap.isName c.element.toList = true ∧ c.element ≠ "schema" := by
          decide
        exact fun c hc => ⟨(hnamed c hc).1, (hnamed c hc).2⟩
      distinct := by decide }
  obtain ⟨t, hdecode, hcolumns, hrows⟩ := decode_body s
  exact ⟨s, t, hdecode, hcolumns, hrows⟩

end Sheet

end OlapClient.Rowset
