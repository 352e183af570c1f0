import OlapClient.Proofs.Rowset.Appearance
import OlapClient.Proofs.Rowset.Schema
import OlapClient.Proofs.Soap.Skeleton

/-!
# Renamed cells

The decoder compares the names of elements with the words that it knows: a row, a root, a schema. In
a row it should not matter whether a cell is named so. It does for one of them: a cell with a start
tag that is named like a schema is left out. With other names a table changes in its labels alone.

* `Content.mapTags`, `Content.mapInner` — the elements of a content by other tags, or with other
  contents.
* `Document.IsRowset`, `Document.renameCells` — a root with rows of cells, and the same with other
  names for the cells.
* `Progress.rename`, `Mirrors` — a reader of the renamed document beside one of the document.
* `Alike`, `alike_row`, `alike_rows` — both read on alike.
* `run_withoutSchemas` — cells named like a schema add nothing.
* `decode_renamed_cells` — the tables of both.
-/

namespace OlapClient.Markup

/-- A tag with a name in the place of its local one. -/
def renameTag (f : String → String) (tag : Tag) : Tag :=
  { tag with name := Utf8.encodeString (f tag.localName) }

theorem localName_renameTag {f : String → String} {tag : Tag}
    (h : ':' ∉ (f tag.localName).toList) : (renameTag f tag).localName = f tag.localName :=
  localName_encodeString h

namespace Content

/-- The elements of a content by other tags; those inside them stay as they are. -/
def mapTags (g : Tag → Tag) : Content → Content
  | .nil => .nil
  | .event e plain rest => .event e plain (rest.mapTags g)
  | .empty tag rest => .empty (g tag) (rest.mapTags g)
  | .element tag inner rest => .element (g tag) inner (rest.mapTags g)

/-- The elements of a content with other contents. -/
def mapInner (g : Content → Content) : Content → Content
  | .nil => .nil
  | .event e plain rest => .event e plain (rest.mapInner g)
  | .empty tag rest => .empty tag (rest.mapInner g)
  | .element tag inner rest => .element tag (g inner) (rest.mapInner g)

/-- A content without its elements that begin with a start tag named like a schema. -/
def withoutSchemas : Content → Content
  | .nil => .nil
  | .event e plain rest => .event e plain rest.withoutSchemas
  | .empty tag rest => .empty tag rest.withoutSchemas
  | .element tag inner rest =>
    if tag.localName = "schema" then rest.withoutSchemas
    else .element tag inner rest.withoutSchemas

/-- Without elements there are no tags. -/
theorem isPlain_of_children_nil {c : Content} (h : c.children = []) :
    ∀ e ∈ c.events, e.isPlain = true := by
  induction c with
  | nil => exact List.forall_mem_nil _
  | event e plain rest ih => exact List.forall_mem_cons.2 ⟨plain, ih h⟩
  | empty tag rest => cases h
  | element tag inner rest => cases h

theorem children_mapTags (g : Tag → Tag) (c : Content) :
    (c.mapTags g).children = c.children.map fun x => ⟨g x.tag, x.inner⟩ := by
  induction c with
  | nil => rfl
  | event e plain rest ih => exact ih
  | empty tag rest ih => exact congrArg _ ih
  | element tag inner rest ihinner ihrest => exact congrArg _ ihrest

theorem children_mapInner (g : Content → Content) (c : Content) :
    (c.mapInner g).children = c.children.map fun x => ⟨x.tag, x.inner.map g⟩ := by
  induction c with
  | nil => rfl
  | event e plain rest ih => exact ih
  | empty tag rest ih => exact congrArg _ ih
  | element tag inner rest ihinner ihrest => exact congrArg _ ihrest

end Content

end OlapClient.Markup

namespace OlapClient.Soap

open Markup

namespace Document

/-- A root that holds rows, the elements of which hold no elements. -/
structure IsRowset (d : Document) : Prop where
  root : d.root.localName = "root"
  rows : ∀ x ∈ d.content.children, x.localName = "row"
  leaves : ∀ x ∈ d.content.children, ∀ y ∈ x.children, y.children = []

/-- A document with other contents of the elements of its root. -/
def mapRows (g : Content → Content) (d : Document) : Document :=
  { d with content := d.content.mapInner g }

/-- A document with other names of the cells of its rows. -/
def renameCells (f : String → String) : Document → Document :=
  mapRows (·.mapTags (renameTag f))

/-- By other names the cells still stand in rows. -/
theorem IsRowset.renameCells {d : Document} (hd : d.IsRowset) (f : String → String) :
    (d.renameCells f).IsRowset := by
  have hrow : ∀ x ∈ (d.renameCells f).content.children, ∃ y ∈ d.content.children,
      x = ⟨y.tag, y.inner.map (·.mapTags (renameTag f))⟩ := by
    intro x hx
    have hx : x ∈ (d.content.mapInner (·.mapTags (renameTag f))).children := hx
    rw [Content.children_mapInner] at hx
    obtain ⟨y, hy, rfl⟩ := List.mem_map.1 hx
    exact ⟨y, hy, rfl⟩
  refine ⟨hd.root, fun x hx => ?_, fun x hx z hz => ?_⟩
  · obtain ⟨y, hy, rfl⟩ := hrow x hx
    exact hd.rows y hy
  · obtain ⟨⟨tag, inner⟩, hy, rfl⟩ := hrow x hx
    cases inner with
    | none => cases hz
    | some inner =>
      have hz : z ∈ (inner.mapTags (renameTag f)).children := hz
      rw [Content.children_mapTags] at hz
      obtain ⟨w, hw, rfl⟩ := List.mem_map.1 hz
      exact hd.leaves _ hy w hw

/-- A document without the cells that begin with a start tag named like a schema. -/
def withoutSchemaCells : Document → Document :=
  mapRows (·.withoutSchemas)

end Document

end OlapClient.Soap

namespace OlapClient.Rowset

open Markup Soap

/-! ### The reader of renamed cells -/

/-- The cells of a row by other names. -/
def renameRow (f : String → String) (row : RawRow) : RawRow :=
  row.map fun cell => (f cell.1, cell.2)

/-- A place without what has been read: in a row, or in a cell of that name. -/
inductive Spot where
  | outside
  | row
  | cell (name : String) (nested : Nat)
deriving DecidableEq

namespace Place

def spot : Place → Spot
  | .outside => .outside
  | .row _ => .row
  | .cell _ name _ nested => .cell name nested

/-- The names of the cells of the row that is open at a place. -/
def names : Place → List String
  | .outside => []
  | .row cells => cells.map Prod.fst
  | .cell cells name _ _ => name :: cells.map Prod.fst

/-- A place with other names of the cells. -/
def rename (f : String → String) : Place → Place
  | .outside => .outside
  | .row cells => .row (renameRow f cells)
  | .cell cells name text nested => .cell (renameRow f cells) (f name) text nested

variable {place : Place} {name : String} {nested : Nat}

theorem eq_outside (h : place.spot = .outside) : place = .outside := by
  cases place <;> first | rfl | cases h

theorem exists_row (h : place.spot = .row) : ∃ cells, place = .row cells := by
  cases place with
  | row cells => exact ⟨cells, rfl⟩
  | outside => cases h
  | cell cells name text nested => cases h

theorem exists_cell (h : place.spot = .cell name nested) :
    ∃ cells text, place = .cell cells name text nested := by
  cases place with
  | cell cells name text nested =>
    cases h
    exact ⟨cells, text, rfl⟩
  | outside => cases h
  | row cells => cases h

end Place

/-- The names of cells may be renamed: to different names without a prefix. -/
structure Renames (f : String → String) (names : List String) : Prop where
  injective : ∀ a ∈ names, ∀ b ∈ names, f a = f b → a = b
  unprefixed : ∀ a ∈ names, ':' ∉ (f a).toList

namespace Progress

variable {f : String → String} {names before more : List String} {p q : Progress}
  {spot spot' : Spot} {tag : Tag} {name text : String} {inner rest : Content} {e : Event}
  {es : List Event}

/-- What has been read, with other names of the cells. -/
def rename (f : String → String) (p : Progress) : Progress :=
  { p with
    rows := p.rows.map (renameRow f), seen := p.seen.map f, place := p.place.rename f }

/-- A reader that has read the same cells by other names, in a root and beside schemas. The names of
the cells are among the ones that may be renamed; those noted as columns are some of them, each at
its first appearance. -/
structure Mirrors (f : String → String) (names before : List String) (spot : Spot)
    (p q : Progress) : Prop where
  renamed : q = p.rename f
  schema : p.schema = none
  declared : p.declared = []
  saw_root : p.sawRoot = true
  spot_eq : p.place.spot = spot
  seen : p.seen = before.eraseDups
  seen_names : ∀ a ∈ before, a ∈ names
  place_names : ∀ a ∈ p.place.names, a ∈ names
  row_names : ∀ row ∈ p.rows, ∀ a ∈ row.map Prod.fst, a ∈ names

/-- Both readers fail at the same text, or both go on to a spot. -/
inductive Alike (f : String → String) (names before : List String) (spot : Spot) :
    Except DecodeError Progress → Except DecodeError Progress → Prop
  | error (e : TextError) : Alike f names before spot (.error (.badText e)) (.error (.badText e))
  | ok {p q : Progress} :
      Mirrors f names before spot p q → Alike f names before spot (.ok p) (.ok q)

theorem Alike.bind {x y : Except DecodeError Progress}
    {g h : Progress → Except DecodeError Progress} (hxy : Alike f names before spot x y)
    (hgh : ∀ p q, Mirrors f names before spot p q → Alike f names more spot' (g p) (h q)) :
    Alike f names more spot' (x.bind g) (y.bind h) := by
  cases hxy with
  | error e => exact .error e
  | ok hpq => exact hgh _ _ hpq

/-- A name is noted as its new one is: another name that was noted stays another one. -/
theorem note_rename (hf : Renames f names) (hseen : ∀ a ∈ p.seen, a ∈ names)
    (hname : name ∈ names) : (p.rename f).note (f name) = (p.note name).rename f := by
  have hmem : f name ∈ (p.rename f).seen ↔ name ∈ p.seen := by
    constructor
    · intro h
      obtain ⟨a, ha, heq⟩ := List.mem_map.1 h
      exact hf.injective a (hseen a ha) name hname heq ▸ ha
    · exact fun h => List.mem_map_of_mem h
  unfold note
  by_cases h : name ∈ p.seen
  · rw [if_pos h, if_pos (hmem.2 h)]
  · rw [if_neg h, if_neg (hmem.not.2 h)]
    simp [rename]

namespace Mirrors

theorem place_eq (h : Mirrors f names before spot p q) : q.place = p.place.rename f := by
  rw [h.renamed]
  rfl

theorem schema_eq (h : Mirrors f names before spot p q) : q.schema = none := by
  rw [h.renamed]
  exact h.schema

theorem outside (h : Mirrors f names before .outside p q) :
    p.place = .outside ∧ q.place = .outside := by
  have hplace := Place.eq_outside h.spot_eq
  exact ⟨hplace, by rw [h.place_eq, hplace]; rfl⟩

theorem exists_row (h : Mirrors f names before .row p q) :
    ∃ cells, p.place = .row cells ∧ q.place = .row (renameRow f cells) ∧
      ∀ a ∈ cells.map Prod.fst, a ∈ names := by
  obtain ⟨cells, hplace⟩ := Place.exists_row h.spot_eq
  have hnames := h.place_names
  rw [hplace] at hnames
  exact ⟨cells, hplace, by rw [h.place_eq, hplace]; rfl, hnames⟩

theorem exists_cell {nested : Nat} (h : Mirrors f names before (.cell name nested) p q) :
    ∃ cells text, p.place = .cell cells name text nested ∧
      q.place = .cell (renameRow f cells) (f name) text nested ∧
      ∀ a ∈ name :: cells.map Prod.fst, a ∈ names := by
  obtain ⟨cells, text, hplace⟩ := Place.exists_cell h.spot_eq
  have hnames := h.place_names
  rw [hplace] at hnames
  exact ⟨cells, text, hplace, by rw [h.place_eq, hplace]; rfl, hnames⟩

theorem seen_mem (h : Mirrors f names before spot p q) : ∀ a ∈ p.seen, a ∈ names :=
  fun a ha => h.seen_names a (List.mem_eraseDups.1 (h.seen ▸ ha))

/-- Both go to a place, and to the same place by other names. -/
theorem move (h : Mirrors f names before spot p q) {place : Place}
    (hspot : place.spot = spot') (hnames : ∀ a ∈ place.names, a ∈ names) :
    Mirrors f names before spot' { p with place := place }
      { q with place := place.rename f } where
  renamed := by rw [h.renamed]; rfl
  schema := h.schema
  declared := h.declared
  saw_root := h.saw_root
  spot_eq := hspot
  seen := h.seen
  seen_names := h.seen_names
  place_names := hnames
  row_names := h.row_names

/-- Both note a column, and keep its cell in the row. -/
theorem keep (hf : Renames f names) (h : Mirrors f names before spot p q) {cells : RawRow}
    (hnames : ∀ a ∈ name :: cells.map Prod.fst, a ∈ names) :
    Mirrors f names (before ++ [name]) .row
      { p.note name with place := .row ((name, text) :: cells) }
      { q.note (f name) with place := (Place.row ((name, text) :: cells)).rename f } := by
  have hname := hnames name List.mem_cons_self
  obtain ⟨seen, hnote⟩ := p.note_eq name
  have hnoted : Mirrors f names (before ++ [name]) spot (p.note name) (q.note (f name)) := by
    refine ⟨?_, ?_, ?_, ?_, ?_, note_seen h.seen name, ?_, ?_, ?_⟩
    · rw [h.renamed, note_rename hf h.seen_mem hname]
    · simpa only [hnote] using h.schema
    · simpa only [hnote] using h.declared
    · simpa only [hnote] using h.saw_root
    · simpa only [hnote] using h.spot_eq
    · intro a ha
      rcases List.mem_append.1 ha with ha | ha
      · exact h.seen_names a ha
      · exact List.mem_singleton.1 ha ▸ hname
    · simpa only [hnote] using h.place_names
    · simpa only [hnote] using h.row_names
  exact hnoted.move rfl hnames

end Mirrors

/-! ### Events that are no tags -/

theorem alike_onText (h : Mirrors f names before spot p q) (text : Except TextError String) :
    Alike f names before spot (p.onText (text.mapError .badText))
      (q.onText (text.mapError .badText)) := by
  by_cases hcell : p.InCell
  · obtain ⟨cells, name, old, hplace⟩ := hcell
    have hplace' : q.place = .cell (renameRow f cells) (f name) old 0 := by
      rw [h.place_eq, hplace]
      rfl
    cases text with
    | error e =>
      rw [Except.mapError, onText_error ⟨_, _, _, hplace⟩, onText_error ⟨_, _, _, hplace'⟩]
      exact .error e
    | ok s =>
      rw [Except.mapError, onText_ok, onText_ok, takes_of_place hplace, takes_of_place hplace']
      have hspot := h.spot_eq
      have hnames := h.place_names
      rw [hplace] at hspot hnames
      let place : Place := .cell cells name (old ++ s) 0
      have hgrown : place.spot = spot := hspot
      exact .ok (h.move hgrown hnames)
  · -- the other one stands in no cell either, so both pass over the text
    have hcell' : ¬q.InCell := by
      rintro ⟨cells, name, old, hplace'⟩
      rw [h.place_eq] at hplace'
      cases hplace : p.place with
      | cell cells' name' text nested =>
        rw [hplace] at hplace'
        cases hplace'
        exact hcell ⟨_, _, _, hplace⟩
      | outside => rw [hplace] at hplace'; cases hplace'
      | row cells' => rw [hplace] at hplace'; cases hplace'
    rw [onText_outside hcell, onText_outside hcell']
    exact .ok h

theorem alike_plain (h : Mirrors f names before spot p q) (he : e.isPlain = true) :
    Alike f names before spot (p.step e) (q.step e) := by
  cases e with
  | text raw => exact alike_onText h (characters raw)
  | cdata raw => exact alike_onText h (.ok (Utf8.lossyString raw))
  | start tag => cases he
  | empty tag => cases he
  | close name => cases he
  | _ => exact .ok h

theorem alike_plains (h : Mirrors f names before spot p q) (hes : ∀ e ∈ es, e.isPlain = true) :
    Alike f names before spot (p.run es) (q.run es) := by
  induction es generalizing p q with
  | nil => exact .ok h
  | cons e es ih =>
    rw [run_cons_bind, run_cons_bind]
    exact (alike_plain h (hes e List.mem_cons_self)).bind fun _ _ h' =>
      ih h' fun e' he' => hes e' (List.mem_cons_of_mem e he')

/-! ### Cells, rows and documents -/

/-- An element is read by its start tag, its content, its end tag and what follows it. -/
theorem run_element_bind (p : Progress) (tag : Tag) (inner rest : Content) :
    p.run (Content.element tag inner rest).events =
      ((p.step (.start tag)).bind fun m => m.run inner.events).bind fun m =>
        m.onClose.run rest.events := by
  rw [Content.events, run_cons_bind]
  cases p.step (.start tag) with
  | error e => rfl
  | ok m =>
    show m.run (inner.events ++ _) = (m.run inner.events).bind _
    rw [run_append_eq]
    rfl

/-- An empty cell is read alike. -/
theorem alike_empty_cell (hf : Renames f names) (h : Mirrors f names before .row p q)
    (hname : tag.localName ∈ names) :
    Alike f names (before ++ [tag.localName]) .row (p.step (.empty tag))
      (q.step (.empty (renameTag f tag))) := by
  obtain ⟨cells, hplace, hplace', hnames⟩ := h.exists_row
  have hlocal := localName_renameTag (hf.unprefixed _ hname)
  have hstep : p.step (.empty tag) =
      .ok { p.note tag.localName with place := .row ((tag.localName, "") :: cells) } := by
    simp only [step, onEmpty, h.schema, hplace]
  have hstep' : q.step (.empty (renameTag f tag)) =
      .ok { q.note (f tag.localName) with
        place := (Place.row ((tag.localName, "") :: cells)).rename f } := by
    simp only [step, onEmpty, h.schema_eq, hplace', hlocal]
    rfl
  rw [hstep, hstep']
  exact .ok (h.keep hf (List.forall_mem_cons.2 ⟨hname, hnames⟩))

/-- A start tag opens a cell for both, unless it is named like a schema for one of them. -/
theorem alike_start_cell (hf : Renames f names) (h : Mirrors f names before .row p q)
    (hname : tag.localName ∈ names) (hschema : tag.localName ≠ "schema")
    (hschema' : f tag.localName ≠ "schema") :
    Alike f names before (.cell tag.localName 0) (p.step (.start tag))
      (q.step (.start (renameTag f tag))) := by
  obtain ⟨cells, hplace, hplace', hnames⟩ := h.exists_row
  have hlocal := localName_renameTag (hf.unprefixed _ hname)
  have hstep : p.step (.start tag) = .ok { p with place := .cell cells tag.localName "" 0 } := by
    simp only [step, onStart, h.schema, hplace, if_neg hschema]
  have hstep' : q.step (.start (renameTag f tag)) =
      .ok { q with place := (Place.cell cells tag.localName "" 0).rename f } := by
    simp only [step, onStart, h.schema_eq, hplace', hlocal, if_neg hschema']
    rfl
  rw [hstep, hstep']
  exact .ok (h.move rfl (List.forall_mem_cons.2 ⟨hname, hnames⟩))

/-- The end tag of a cell keeps it, by its name. -/
theorem Mirrors.close_cell (hf : Renames f names) (h : Mirrors f names before (.cell name 0) p q) :
    Mirrors f names (before ++ [name]) .row p.onClose q.onClose := by
  obtain ⟨cells, text, hplace, hplace', hnames⟩ := h.exists_cell
  have hclose : p.onClose = { p.note name with place := .row ((name, text) :: cells) } := by
    simp only [onClose, h.schema, hplace]
  have hclose' : q.onClose =
      { q.note (f name) with place := (Place.row ((name, text) :: cells)).rename f } := by
    simp only [onClose, h.schema_eq, hplace']
    rfl
  rw [hclose, hclose']
  exact h.keep hf hnames

/-- Cells that both readers take for cells: without elements in them, of names that may be renamed,
and with start tags that are not named like a schema. -/
structure CellsFor (f : String → String) (names : List String) (cells : List Child) : Prop where
  leaves : ∀ x ∈ cells, x.children = []
  names : ∀ x ∈ cells, x.localName ∈ names
  no_schema : ∀ x ∈ cells, x.inner ≠ none → x.localName ≠ "schema" ∧ f x.localName ≠ "schema"

theorem CellsFor.tail {x : Child} {cells : List Child} (h : CellsFor f names (x :: cells)) :
    CellsFor f names cells :=
  ⟨fun y hy => h.leaves y (List.mem_cons_of_mem x hy),
    fun y hy => h.names y (List.mem_cons_of_mem x hy),
    fun y hy => h.no_schema y (List.mem_cons_of_mem x hy)⟩

/-- The cells of a row are read alike. -/
theorem alike_row (c : Content) (hf : Renames f names) (hc : CellsFor f names c.children)
    (h : Mirrors f names before .row p q) :
    Alike f names (before ++ c.children.map Child.localName) .row (p.run c.events)
      (q.run (c.mapTags (renameTag f)).events) := by
  induction c generalizing p q before with
  | nil =>
    rw [Content.children, List.map_nil, List.append_nil]
    exact .ok h
  | event e plain rest ih =>
    rw [Content.mapTags, Content.events, Content.events, run_cons_bind, run_cons_bind]
    exact (alike_plain h plain).bind fun _ _ h' => ih hc h'
  | empty tag rest ih =>
    rw [Content.mapTags, Content.events, Content.events, run_cons_bind, run_cons_bind,
      Content.children, List.map_cons, List.append_cons]
    have hname : tag.localName ∈ names := hc.names _ List.mem_cons_self
    exact (alike_empty_cell hf h hname).bind fun _ _ h' => ih hc.tail h'
  | element tag inner rest ihinner ihrest =>
    rw [Content.mapTags, run_element_bind, run_element_bind, Content.children, List.map_cons,
      List.append_cons]
    have hname : tag.localName ∈ names := hc.names _ List.mem_cons_self
    have hinner : inner.children = [] := hc.leaves _ List.mem_cons_self
    obtain ⟨hschema, hschema'⟩ := hc.no_schema _ List.mem_cons_self (Option.some_ne_none inner)
    have hread := (alike_start_cell hf h hname hschema hschema').bind fun _ _ h' =>
      alike_plains h' (Content.isPlain_of_children_nil hinner)
    exact hread.bind fun _ _ h' => ihrest hc.tail (h'.close_cell hf)

/-- A row is opened by both. -/
theorem Mirrors.open_row (h : Mirrors f names before .outside p q) (htag : tag.localName = "row") :
    Alike f names before .row (p.step (.start tag)) (q.step (.start tag)) := by
  obtain ⟨hplace, hplace'⟩ := h.outside
  have hschema : tag.localName ≠ "schema" := by
    rw [htag]
    decide
  have hstep : p.step (.start tag) = .ok { p with place := .row [] } := by
    simp only [step, onStart, h.schema, hplace, if_neg hschema, if_pos htag]
  have hstep' : q.step (.start tag) = .ok { q with place := (Place.row []).rename f } := by
    simp only [step, onStart, h.schema_eq, hplace', if_neg hschema, if_pos htag]
    rfl
  rw [hstep, hstep']
  exact .ok (h.move rfl (List.forall_mem_nil _))

/-- The end tag of a row keeps it. -/
theorem Mirrors.close_row (h : Mirrors f names before .row p q) :
    Mirrors f names before .outside p.onClose q.onClose := by
  obtain ⟨cells, hplace, hplace', hnames⟩ := h.exists_row
  have hclose : p.onClose = { p with rows := cells :: p.rows, place := .outside } := by
    simp only [onClose, h.schema, hplace]
  have hclose' : q.onClose =
      { q with rows := renameRow f cells :: q.rows, place := .outside } := by
    simp only [onClose, h.schema_eq, hplace']
  rw [hclose, hclose']
  exact {
    renamed := by rw [h.renamed]; rfl
    schema := h.schema
    declared := h.declared
    saw_root := h.saw_root
    spot_eq := rfl
    seen := h.seen
    seen_names := h.seen_names
    place_names := List.forall_mem_nil _
    row_names := List.forall_mem_cons.2 ⟨hnames, h.row_names⟩ }

/-- A row without cells is read by both. -/
theorem Mirrors.empty_row (h : Mirrors f names before .outside p q) (htag : tag.localName = "row") :
    Alike f names before .outside (p.step (.empty tag)) (q.step (.empty tag)) := by
  obtain ⟨hplace, hplace'⟩ := h.outside
  have hstep : p.step (.empty tag) = .ok { p with rows := [] :: p.rows } := by
    simp only [step, onEmpty, h.schema, hplace, if_pos htag]
  have hstep' : q.step (.empty tag) = .ok { q with rows := [] :: q.rows } := by
    simp only [step, onEmpty, h.schema_eq, hplace', if_pos htag]
  rw [hstep, hstep']
  exact .ok { h with
    renamed := by rw [h.renamed]; rfl
    row_names := List.forall_mem_cons.2 ⟨List.forall_mem_nil _, h.row_names⟩ }

/-- The rows of a root are read alike. -/
theorem alike_rows (c : Content) (hf : Renames f names)
    (hrows : ∀ x ∈ c.children, x.localName = "row")
    (hcells : ∀ x ∈ c.children, CellsFor f names x.children)
    (h : Mirrors f names before .outside p q) :
    Alike f names (before ++ cellNames c.children) .outside (p.run c.events)
      (q.run (c.mapInner (·.mapTags (renameTag f))).events) := by
  induction c generalizing p q before with
  | nil =>
    rw [Content.children, cellNames, List.flatMap_nil, List.append_nil]
    exact .ok h
  | event e plain rest ih =>
    rw [Content.mapInner, Content.events, Content.events, run_cons_bind, run_cons_bind]
    exact (alike_plain h plain).bind fun _ _ h' => ih hrows hcells h'
  | empty tag rest ih =>
    obtain ⟨htag, hrows⟩ := List.forall_mem_cons.1 hrows
    obtain ⟨-, hcells⟩ := List.forall_mem_cons.1 hcells
    rw [Content.mapInner, Content.events, Content.events, run_cons_bind, run_cons_bind]
    exact (h.empty_row htag).bind fun _ _ h' => ih hrows hcells h'
  | element tag inner rest ihinner ihrest =>
    obtain ⟨htag, hrows⟩ := List.forall_mem_cons.1 hrows
    obtain ⟨hinner, hcells⟩ := List.forall_mem_cons.1 hcells
    have hnames : before ++ cellNames (Content.element tag inner rest).children =
        before ++ inner.children.map Child.localName ++ cellNames rest.children := by
      simp [cellNames, Content.children]
    rw [Content.mapInner, run_element_bind, run_element_bind, hnames]
    have hread := (h.open_row htag).bind fun _ _ h' => alike_row inner hf hinner h'
    exact hread.bind fun _ _ h' => ihrest hrows hcells h'.close_row

/-! ### Cells named like a schema -/

/-- The reader stands in a row, beside schemas. -/
def InRow (p : Progress) : Prop :=
  p.schema = none ∧ p.place.spot = .row

/-- In a row a schema is read over. -/
theorem run_schema_cell (h : p.InRow) (htag : tag.localName = "schema")
    (hinner : ∀ e ∈ inner.events, e.isPlain = true) :
    p.run (Content.element tag inner rest).events = p.run rest.events := by
  obtain ⟨cells, hplace⟩ := Place.exists_row h.2
  let m : Progress := { p with schema := some {} }
  have hstart : p.step (.start tag) = .ok m := by
    simp only [step, onStart, h.1, if_pos htag, m]
  have hread : m.run inner.events = .ok m := run_outside (not_inCell hplace (by simp)) hinner
  have hclose : m.onClose = p := by
    have hschema := h.1
    cases p
    cases hschema
    rfl
  rw [run_element hstart hread, hclose]

/-- The end tag of a cell leads back to its row. -/
theorem inRow_onClose {cells : RawRow} (hschema : p.schema = none)
    (hplace : p.place = .cell cells name text 0) : p.onClose.InRow := by
  simp only [InRow, onClose, hschema, hplace]
  exact ⟨(note_schema p name).trans hschema, rfl⟩

/-- Any other cell without elements in it is read up to the row, or its text cannot be read. -/
theorem run_other_cell (h : p.InRow) (htag : tag.localName ≠ "schema")
    (hinner : ∀ e ∈ inner.events, e.isPlain = true) :
    (∃ e, ∀ rest, p.run (Content.element tag inner rest).events = .error e) ∨
      ∃ m : Progress, m.InRow ∧
        ∀ rest, p.run (Content.element tag inner rest).events = m.run rest.events := by
  obtain ⟨cells, hplace⟩ := Place.exists_row h.2
  let m : Progress := { p with place := .cell cells tag.localName "" 0 }
  have hstart : p.step (.start tag) = .ok m := by
    simp only [step, onStart, h.1, hplace, if_neg htag, m]
  have hread := takesUp_run (p := m) ⟨_, _, _, rfl⟩ hinner
  generalize hx : m.run inner.events = x at hread
  generalize joined? inner.events = o at hread
  -- without elements in it a cell is read as its text
  cases hread with
  | unreadable e =>
    refine .inl ⟨.badText e, fun rest => ?_⟩
    rw [run_element_bind, hstart, Except.bind, hx]
    rfl
  | text s =>
    refine .inr ⟨(m.takes s).onClose, ?_, fun rest => run_element hstart hx⟩
    rw [takes_of_place rfl]
    exact inRow_onClose h.1 rfl

/-- An empty cell is read up to the row. -/
theorem step_empty_cell (tag : Tag) (h : p.InRow) :
    ∃ m : Progress, m.InRow ∧ p.step (.empty tag) = .ok m := by
  obtain ⟨cells, hplace⟩ := Place.exists_row h.2
  refine ⟨{ p.note tag.localName with place := .row ((tag.localName, "") :: cells) },
    ⟨(note_schema p _).trans h.1, rfl⟩, ?_⟩
  simp only [step, onEmpty, h.1, hplace]

/-- The cells of a row are read as without those named like a schema, and up to the row. -/
theorem run_withoutSchemas (c : Content) (hleaves : ∀ x ∈ c.children, x.children = [])
    (h : p.InRow) :
    p.run c.events = p.run c.withoutSchemas.events ∧
      ∀ q, p.run c.events = .ok q → q.InRow := by
  induction c generalizing p with
  | nil =>
    refine ⟨rfl, fun q hq => ?_⟩
    cases hq
    exact h
  | event e plain rest ih =>
    obtain ⟨cells, hplace⟩ := Place.exists_row h.2
    have hstep := step_outside (not_inCell hplace (by simp)) plain
    rw [Content.withoutSchemas, Content.events, Content.events, run_cons hstep, run_cons hstep]
    exact ih hleaves h
  | empty tag rest ih =>
    obtain ⟨-, hleaves⟩ := List.forall_mem_cons.1 hleaves
    obtain ⟨m, hm, hstep⟩ := step_empty_cell tag h
    rw [Content.withoutSchemas, Content.events, Content.events, run_cons hstep, run_cons hstep]
    exact ih hleaves hm
  | element tag inner rest ihinner ihrest =>
    obtain ⟨hinner, hleaves⟩ := List.forall_mem_cons.1 hleaves
    have hplain := Content.isPlain_of_children_nil hinner
    by_cases htag : tag.localName = "schema"
    · rw [Content.withoutSchemas, if_pos htag, run_schema_cell h htag hplain]
      exact ihrest hleaves h
    · rw [Content.withoutSchemas, if_neg htag]
      obtain ⟨e, herror⟩ | ⟨m, hm, hrun⟩ := run_other_cell h htag hplain
      · rw [herror, herror]
        exact ⟨rfl, fun q hq => by cases hq⟩
      · rw [hrun, hrun]
        exact ihrest hleaves hm

/-- The rows of a root are read as without the cells named like a schema. -/
theorem run_mapInner_withoutSchemas (c : Content)
    (hrows : ∀ x ∈ c.children, x.localName = "row")
    (hleaves : ∀ x ∈ c.children, ∀ y ∈ x.children, y.children = [])
    (hschema : p.schema = none) (hplace : p.place = .outside) :
    p.run c.events = p.run (c.mapInner Content.withoutSchemas).events := by
  induction c generalizing p with
  | nil => rfl
  | event e plain rest ih =>
    have hstep := step_outside (not_inCell hplace (by simp)) plain
    rw [Content.mapInner, Content.events, Content.events, run_cons hstep, run_cons hstep]
    exact ih hrows hleaves hschema hplace
  | empty tag rest ih =>
    obtain ⟨htag, hrows⟩ := List.forall_mem_cons.1 hrows
    obtain ⟨-, hleaves⟩ := List.forall_mem_cons.1 hleaves
    have htag : tag.localName = "row" := htag
    have hstep : p.step (.empty tag) = .ok { p with rows := [] :: p.rows } := by
      simp only [step, onEmpty, hschema, hplace, if_pos htag]
    rw [Content.mapInner, Content.events, Content.events, run_cons hstep, run_cons hstep]
    exact ih hrows hleaves hschema hplace
  | element tag inner rest ihinner ihrest =>
    obtain ⟨htag, hrows⟩ := List.forall_mem_cons.1 hrows
    obtain ⟨hinner, hleaves⟩ := List.forall_mem_cons.1 hleaves
    have htag : tag.localName = "row" := htag
    have hname : tag.localName ≠ "schema" := by
      rw [htag]
      decide
    let m : Progress := { p with place := .row [] }
    have hstart : p.step (.start tag) = .ok m := by
      simp only [step, onStart, hschema, hplace, if_neg hname, if_pos htag, m]
    obtain ⟨hsame, hback⟩ := run_withoutSchemas (p := m) inner hinner ⟨hschema, rfl⟩
    rw [Content.mapInner, run_element_bind, run_element_bind, hstart, Except.bind, Except.bind,
      ← hsame]
    cases hread : m.run inner.events with
    | error e => rfl
    | ok q =>
      obtain ⟨hq, hspot⟩ := hback q hread
      obtain ⟨cells, hrow⟩ := Place.exists_row hspot
      have hclose : q.onClose = { q with rows := cells :: q.rows, place := .outside } := by
        simp only [onClose, hq, hrow]
      rw [Except.bind, Except.bind, hclose]
      exact ihrest hrows hleaves hq rfl

end Progress

/-! ### Documents -/

/-- A document with a bare root is read from the content of the root on. -/
theorem run_root {d : Document} (hroot : d.root.localName = "root") :
    Progress.run {} d.events = (Progress.run { sawRoot := true } d.content.events).bind fun m =>
      m.onClose.run d.after := by
  have hbefore : Progress.run {} d.before = .ok {} := Progress.run_outside
    (Progress.not_inCell rfl (by simp)) fun e he => isPlain_of_isAside (d.before_aside e he)
  have hstart : Progress.step {} (.start d.root) = .ok { sawRoot := true } := by
    show Progress.onStart {} d.root = _
    simp [Progress.onStart, hroot]
  rw [Document.events, Progress.run_append hbefore, Progress.run_cons hstart,
    Progress.run_append_eq]
  rfl

/-- A document with a bare root carries no fault. -/
theorem decode_root {d : Document} {body : Bytes} (hroot : d.root.localName = "root")
    (hbody : d.Describes body) : decode body = (Progress.run {} d.events).bind Progress.table := by
  have hfault : fault? body = none := by
    have hnot : ¬(fault? body).isSome = true := by
      rw [fault?_isSome hbody, hroot]
      exact fun h => absurd h.1 (by decide)
    simpa using hnot
  exact decode_of_no_fault hfault hbody

/-- A cell with a start tag that is named like a schema adds nothing to the table. -/
theorem decode_withoutSchemaCells {d : Document} {body kept : Bytes} (hd : d.IsRowset)
    (hbody : d.Describes body) (hkept : d.withoutSchemaCells.Describes kept) :
    decode body = decode kept := by
  rw [decode_root hd.root hbody, decode_root (d := d.withoutSchemaCells) hd.root hkept,
    run_root hd.root, run_root (d := d.withoutSchemaCells) hd.root]
  have hsame := Progress.run_mapInner_withoutSchemas (p := { sawRoot := true }) d.content hd.rows
    hd.leaves rfl rfl
  rw [hsame]
  rfl

/-- A root with rows of cells and the same one with other names for the cells are read alike. -/
theorem alike_document {d : Document} {f : String → String} {names : List String}
    (hd : d.IsRowset) (hf : Renames f names)
    (hcells : ∀ x ∈ d.content.children, Progress.CellsFor f names x.children) :
    Progress.Alike f names (cellNames d.content.children) .outside (Progress.run {} d.events)
      (Progress.run {} (d.renameCells f).events) := by
  rw [run_root hd.root, run_root (d := d.renameCells f) hd.root]
  have hbegin : Progress.Mirrors f names [] .outside { sawRoot := true } { sawRoot := true } :=
    ⟨rfl, rfl, rfl, rfl, rfl, rfl, List.forall_mem_nil _, List.forall_mem_nil _,
      List.forall_mem_nil _⟩
  refine (Progress.alike_rows d.content hf hd.rows hcells hbegin).bind fun p q h => ?_
  -- the end tag of the root closes neither a row nor a cell
  have hclose {m : Progress} (hschema : m.schema = none) (hplace : m.place = .outside) :
      m.onClose = m := by
    simp only [Progress.onClose, hschema, hplace]
  obtain ⟨hplace, hplace'⟩ := h.outside
  rw [hclose h.schema hplace, hclose h.schema_eq hplace']
  exact Progress.alike_plains h fun e he => isPlain_of_isAside (d.after_aside e he)

/-! ### Tables -/

/-- Two tables have the same cells, in columns of names and of the same names by other ones; or the
same text could not be read for both. -/
inductive SameCells (f : String → String) (names : List String) :
    Except DecodeError Table → Except DecodeError Table → Prop
  | error (e : TextError) : SameCells f names (.error (.badText e)) (.error (.badText e))
  | table {t t' : Table} : t.columns = names.map unescapeNameString →
      t'.columns = names.map (fun name => unescapeNameString (f name)) → t'.rows = t.rows →
        SameCells f names (.ok t) (.ok t')

/-- A cell is found by its new name. -/
theorem lookup_renameRow {f : String → String} {names : List String} (hf : Renames f names)
    {name : String} (hname : name ∈ names) {row : RawRow}
    (hrow : ∀ a ∈ row.map Prod.fst, a ∈ names) :
    (renameRow f row).lookup (f name) = row.lookup name := by
  induction row with
  | nil => rfl
  | cons cell row ih =>
    obtain ⟨hcell, hrow⟩ := List.forall_mem_cons.1 hrow
    have hsame : (f name == f cell.1) = (name == cell.1) := by
      by_cases heq : name = cell.1
      · rw [heq, beq_self_eq_true, beq_self_eq_true]
      · have hne : f name ≠ f cell.1 := fun h => heq (hf.injective _ hname _ hcell h)
        rw [beq_false_of_ne heq, beq_false_of_ne hne]
    show ((f cell.1, cell.2) :: renameRow f row).lookup (f name) = _
    rw [List.lookup_cons, List.lookup_cons, hsame, ih hrow]

/-- What both readers make of what they have read. -/
theorem Progress.Mirrors.sameCells {f : String → String} {names before : List String}
    {p q : Progress} (hf : Renames f names) (h : Mirrors f names before .outside p q) :
    SameCells f before.eraseDups p.table q.table := by
  have hrows : q.rows.reverse.map (fun row => q.seen.map fun name =>
        (row.lookup name).elim Cell.null .text) =
      p.rows.reverse.map fun row => p.seen.map fun name => (row.lookup name).elim .null .text := by
    rw [h.renamed]
    show (p.rows.map (renameRow f)).reverse.map _ = _
    rw [← List.map_reverse, List.map_map]
    refine List.map_congr_left fun row hrow => ?_
    show (p.seen.map f).map _ = _
    rw [List.map_map]
    refine List.map_congr_left fun name hname => ?_
    show ((renameRow f row).lookup (f name)).elim Cell.null .text = _
    rw [lookup_renameRow hf (h.seen_mem name hname) (h.row_names row (List.mem_reverse.1 hrow))]
  have hq : q.declared = [] ∧ q.sawRoot = true ∧ q.seen = p.seen.map f := by
    rw [h.renamed]
    exact ⟨h.declared, h.saw_root, rfl⟩
  rw [table_of_undeclared h.declared (.inl h.saw_root), table_of_undeclared hq.1 (.inl hq.2.1),
    hrows, hq.2.2, ← h.seen]
  refine .table rfl (List.map_map ..) ?_
  rw [Table.rows_ofRows (by simp), Table.rows_ofRows (by simp)]

/-- Two documents that are read alike have the same cells. -/
theorem Progress.Alike.sameCells {f : String → String} {names before : List String}
    {x y : Except DecodeError Progress} (hf : Renames f names)
    (h : Progress.Alike f names before .outside x y) :
    SameCells f before.eraseDups (x.bind Progress.table) (y.bind Progress.table) := by
  cases h with
  | error e => exact .error e
  | ok h => exact h.sameCells hf

/-- **A cell is a cell by any name but one.** In a root with rows of cells, let the names of the
cells be replaced by different ones without a prefix, which may be words that the decoder knows. If
no cell has a start tag that is named like a schema, before or after that, then both documents have
the same table up to its labels, which come from the names. In any case the cells with such a start
tag add nothing to a table. -/
theorem decode_renamed_cells {d : Document} {f : String → String} {body body' : Bytes}
    (hd : d.IsRowset) (hf : Renames f (cellNames d.content.children)) (hbody : d.Describes body)
    (hbody' : (d.renameCells f).Describes body') :
    ((∀ x ∈ d.content.children, ∀ y ∈ x.children, y.inner ≠ none →
        y.localName ≠ "schema" ∧ f y.localName ≠ "schema") →
      SameCells f (cellNames d.content.children).eraseDups (decode body) (decode body')) ∧
    (∀ kept, d.withoutSchemaCells.Describes kept → decode body = decode kept) ∧
    ∀ kept, (d.renameCells f).withoutSchemaCells.Describes kept → decode body' = decode kept := by
  refine ⟨fun hschema => ?_, fun kept hkept => decode_withoutSchemaCells hd hbody hkept,
    fun kept hkept => decode_withoutSchemaCells (hd.renameCells f) hbody' hkept⟩
  have hcells : ∀ x ∈ d.content.children,
      Progress.CellsFor f (cellNames d.content.children) x.children := fun x hx =>
    ⟨hd.leaves x hx, fun y hy => List.mem_flatMap.2 ⟨x, hx, List.mem_map_of_mem hy⟩, hschema x hx⟩
  rw [decode_root hd.root hbody, decode_root (d := d.renameCells f) hd.root hbody']
  exact (alike_document hd hf hcells).sameCells hf

/-! ### Names that the decoder knows -/

/-- Cells that get the names of a row, of a root and of a type. -/
theorem decode_renamed_cells_keywords :
    let f : String → String := fun name =>
      if name = "A" then "row" else if name = "B" then "root" else "complexType"
    let text (a b c : String) := Soap.element "root"
      (Soap.element "row" (Soap.leaf a "1" ++ Soap.leaf b "2") ++
        Soap.element "row" (Soap.leaf c "3"))
    SameCells f ["A", "B", "C"] (decode (Utf8.encode (text "A" "B" "C")))
      (decode (Utf8.encode (text "row" "root" "complexType"))) := by
  intro f text
  let document (a b c : String) : Document := ⟨[], writtenTag "root" "",
    .element (writtenTag "row" "") (leafContent a "1" (leafContent b "2" .nil))
      (.element (writtenTag "row" "") (leafContent c "3" .nil) .nil), [],
    by simp, by decide +kernel, by simp⟩
  have hreads (a b c : String) (ha : isTagName a.toList = true) (hb : isTagName b.toList = true)
      (hc : isTagName c.toList = true) :
      read (Utf8.encode (text a b c)) = ⟨(document a b c).events, none⟩ :=
    read_of_reads (reads_loneElement (by decide) attributeBytes_none
      (reads_elementContent (by decide) attributeBytes_none
        (reads_leafContent ha "1" (reads_loneLeaf hb "2"))
        (reads_loneElement (by decide) attributeBytes_none (reads_loneLeaf hc "3"))))
  have hrenamed : ((document "A" "B" "C").renameCells f).events =
      (document "row" "root" "complexType").events := by
    decide +kernel
  have hd : (document "A" "B" "C").IsRowset :=
    ⟨by decide +kernel, by decide +kernel, by decide +kernel⟩
  have hf : Renames f (cellNames (document "A" "B" "C").content.children) :=
    ⟨by decide +kernel, by decide +kernel⟩
  have hnames :
      (cellNames (document "A" "B" "C").content.children).eraseDups = ["A", "B", "C"] := by
    decide +kernel
  have hbody' : ((document "A" "B" "C").renameCells f).Describes
      (Utf8.encode (text "row" "root" "complexType")) := by
    rw [Document.Describes, hrenamed]
    exact hreads _ _ _ (by decide) (by decide) (by decide)
  have hbody : (document "A" "B" "C").Describes (Utf8.encode (text "A" "B" "C")) :=
    hreads _ _ _ (by decide) (by decide) (by decide)
  rw [← hnames]
  exact (decode_renamed_cells hd hf hbody hbody').1 (by decide +kernel)

/-- A cell that gets the name of a schema is lost, with its column. -/
theorem cell_lost_to_schema_name :
    let f : String → String := fun _ => "schema"
    let text (name : String) :=
      Soap.element "root" (Soap.element "row" (Soap.leaf name "1"))
    ∃ d : Document, d.IsRowset ∧ Renames f (cellNames d.content.children) ∧
      d.Describes (Utf8.encode (text "A")) ∧
      (d.renameCells f).Describes (Utf8.encode (text "schema")) ∧
      (decode (Utf8.encode (text "A"))).toOption.map (fun t => (t.columns, t.rows)) =
        some (["A"], [[.text "1"]]) ∧
      (decode (Utf8.encode (text "schema"))).toOption.map (fun t => (t.columns, t.rows)) =
        some ([], [[]]) := by
  intro f text
  let document (name : String) : Document := ⟨[], writtenTag "root" "",
    .element (writtenTag "row" "") (leafContent name "1" .nil) .nil, [],
    by simp, by decide +kernel, by simp⟩
  have hreads (name : String) (hname : isTagName name.toList = true) :
      read (Utf8.encode (text name)) = ⟨(document name).events, none⟩ :=
    read_of_reads (reads_loneElement (by decide) attributeBytes_none
      (reads_loneElement (by decide) attributeBytes_none (reads_loneLeaf hname "1")))
  have hrenamed : ((document "A").renameCells f).events = (document "schema").events := by
    decide +kernel
  refine ⟨document "A", ⟨by decide +kernel, by decide +kernel, by decide +kernel⟩,
    ⟨by decide +kernel, by decide +kernel⟩, hreads _ (by decide), ?_, ?_, ?_⟩
  · rw [Document.Describes, hrenamed]
    exact hreads _ (by decide)
  · rw [decode, fault?, hreads "A" (by decide)]
    decide +kernel
  · rw [decode, fault?, hreads "schema" (by decide)]
    decide +kernel

end OlapClient.Rowset
