import Mathlib.Data.List.Nodup
import OlapClient.Proofs.Markup.Escape
import OlapClient.Proofs.Number.Decimal
import OlapClient.Proofs.Result
import OlapClient.Rowset.Response

namespace OlapClient.Rowset

open Markup (isTrimmed isSpaceChar)

/-!
# Sheets

A sheet is a table as a server writes it: columns with their types, and rows whose cells are values
of these types. The cells of a row that are present are written as elements, in any order.

* `CellName`, `Kind.holds` — the names and the cells of the columns of a sheet.
* `Sheet`, `SheetRow` — a sheet and its rows.
* `Kind.read_display` — the text of a cell is read as that cell.
* `SheetRow.cellsOf_elements` — the elements of a row are read as its cells.
-/

/-- A name that the cells of a column may have: that of a property, and not that of a schema. -/
structure CellName (name : String) : Prop where
  named : Soap.isName name.toList = true
  not_schema : name ≠ "schema"

/-- The cells that a column of a kind may have in a sheet: values of the kind, and the absent cell. A
text has no white space at its ends. Numbers with a fraction are left out. -/
def Kind.holds : Kind → Cell → Bool
  | _, .null => true
  | .int, .int _ => true
  | .bool, .bool _ => true
  | .text, .text s => isTrimmed s.toList
  | _, _ => false

/-- The elements of a row: the name of its column and the text, for each cell that is present. -/
def elementsOf (columns : List Column) (cells : List Cell) : RawRow :=
  ((columns.zip cells).filter fun p => !p.2.isNull).map fun p => (p.1.element, p.2.display)

/-- A row of a sheet, with its elements in the order in which they are written. -/
structure SheetRow (columns : List Column) where
  cells : List Cell
  elements : RawRow
  width_eq : cells.length = columns.length
  held : ∀ p ∈ columns.zip cells, p.1.kind.holds p.2 = true
  order : elements.Perm (elementsOf columns cells)

/-- A sheet. -/
structure Sheet where
  columns : List Column
  rows : List (SheetRow columns)
  named : ∀ c ∈ columns, CellName c.element
  distinct : (columns.map (·.element)).Nodup

/-! ### Texts of cells -/

theorem isBlank_of_mem_toString {i : Int} {c : Char} (h : c ∈ (toString i).toList) :
    isBlank c = false := by
  rcases Decimal.mem_toString h with hdigit | rfl
  · simp only [isDigit, Bool.and_eq_true, decide_eq_true_eq, Char.le_def,
      UInt32.le_iff_toNat_le] at hdigit
    have hlow : 48 ≤ c.toNat := hdigit.1
    have hhigh : c.toNat ≤ 57 := hdigit.2
    simp [isBlank]
    omega
  · decide

theorem isBlank_of_isSpaceChar {c : Char} (h : isSpaceChar c = true) : isBlank c = true := by
  simp only [isSpaceChar, Bool.or_eq_true, beq_iff_eq] at h
  rcases h with ((rfl | rfl) | rfl) | rfl <;> decide

/-- A text without blanks has none at its ends. -/
theorem isTrimmed_of_not_blank {cs : List Char} (h : ∀ c ∈ cs, isBlank c = false) :
    isTrimmed cs = true := by
  have hspace : ∀ c ∈ cs, (!isSpaceChar c) = true := by
    intro c hc
    cases hs : isSpaceChar c with
    | false => rfl
    | true =>
      have hblank := h c hc
      rw [isBlank_of_isSpaceChar hs] at hblank
      cases hblank
  rw [isTrimmed, Bool.and_eq_true, Option.all_eq_true, Option.all_eq_true]
  exact ⟨fun c hc => hspace c (List.mem_of_mem_head? hc),
    fun c hc => hspace c (List.mem_of_mem_getLast? hc)⟩

theorem isBlank_of_mem_bool {b : Bool} {c : Char} (h : c ∈ (Cell.bool b).display.toList) :
    isBlank c = false := by
  have hall : (Cell.bool b).display.toList.all (!isBlank ·) = true := by
    cases b <;> decide
  simpa using List.all_eq_true.1 hall c h

/-- The text of a cell of a sheet has no white space at its ends. -/
theorem Kind.isTrimmed_display {kind : Kind} {cell : Cell} (h : kind.holds cell = true) :
    isTrimmed cell.display.toList = true := by
  cases cell with
  | null => rfl
  | bool b => exact isTrimmed_of_not_blank fun c hc => isBlank_of_mem_bool hc
  | int n => exact isTrimmed_of_not_blank fun c hc => isBlank_of_mem_toString hc
  | double x => cases kind <;> cases h
  | text s => cases kind <;> first | exact h | cases h

/-- The text of a cell is read as that cell. -/
theorem Kind.read_display {kind : Kind} {cell : Cell} (h : kind.holds cell = true)
    (hpresent : cell.isNull = false) : kind.read cell.display = some cell := by
  cases cell with
  | null => cases hpresent
  | bool b =>
    cases kind with
    | bool =>
      have htrim : trim (Cell.bool b).display = (Cell.bool b).display :=
        trim_eq_self fun c hc => isBlank_of_mem_bool hc
      simp only [Kind.read, htrim]
      cases b <;> rfl
    | _ => cases h
  | int n =>
    cases kind with
    | int =>
      have htrim : trim (toString n.toInt) = toString n.toInt :=
        trim_eq_self fun c hc => isBlank_of_mem_toString hc
      simp only [Kind.read, Cell.display, htrim, if_neg (Decimal.toString_ne_empty n.toInt),
        Decimal.int64?_toString]
      rfl
    | _ => cases h
  | double x => cases kind <;> cases h
  | text s =>
    cases kind with
    | text => rfl
    | _ => cases h

/-! ### Elements of rows -/

/-- Where names differ, a pair is what is found under its name. -/
theorem lookup_eq_some_of_mem {row : RawRow} {name text : String}
    (hdistinct : (row.map (·.1)).Nodup) (h : (name, text) ∈ row) : row.lookup name = some text := by
  cases hfound : row.lookup name with
  | none =>
    have hno := List.lookup_eq_none_iff.1 hfound _ h
    simp at hno
  | some text' =>
    obtain ⟨before, after, hrow, -⟩ := List.lookup_eq_some_iff.1 hfound
    have hin : (name, text') ∈ row := by rw [hrow]; simp
    have heq := List.inj_on_of_nodup_map hdistinct hin h rfl
    rw [(Prod.mk.inj heq).2]

section Elements

variable {columns : List Column} {cells : List Cell} {row : RawRow}

theorem zip_names (hwidth : cells.length = columns.length) :
    (columns.zip cells).map (·.1.element) = columns.map (·.element) := by
  have hfst : (columns.zip cells).map Prod.fst = columns :=
    List.map_fst_zip (Nat.le_of_eq hwidth.symm)
  calc (columns.zip cells).map (·.1.element)
      = ((columns.zip cells).map Prod.fst).map (·.element) := by rw [List.map_map]; rfl
    _ = columns.map (·.element) := by rw [hfst]

theorem nodup_elementsOf (hdistinct : (columns.map (·.element)).Nodup)
    (hwidth : cells.length = columns.length) : ((elementsOf columns cells).map (·.1)).Nodup := by
  rw [← zip_names hwidth] at hdistinct
  rw [elementsOf, List.map_map]
  exact hdistinct.sublist (List.filter_sublist.map _)

/-- A cell that is present has its element. -/
theorem mem_elementsOf {p : Column × Cell} (hp : p ∈ columns.zip cells)
    (hpresent : p.2.isNull = false) : (p.1.element, p.2.display) ∈ elementsOf columns cells :=
  List.mem_map.2 ⟨p, List.mem_filter.2 ⟨hp, by simp [hpresent]⟩, rfl⟩

/-- An absent cell has none: no other column has its name. -/
theorem notMem_elementsOf (hdistinct : (columns.map (·.element)).Nodup)
    (hwidth : cells.length = columns.length) {p : Column × Cell} (hp : p ∈ columns.zip cells)
    (habsent : p.2.isNull = true) : ∀ e ∈ elementsOf columns cells, e.1 ≠ p.1.element := by
  intro e he hname
  obtain ⟨q, hq, rfl⟩ := List.mem_map.1 he
  obtain ⟨hin, hpresent⟩ := List.mem_filter.1 hq
  rw [← zip_names hwidth] at hdistinct
  rw [List.inj_on_of_nodup_map hdistinct hin hp hname, habsent] at hpresent
  cases hpresent

/-- The elements of a row are read as its cells, in whatever order they stand. -/
theorem cell_of_perm (hdistinct : (columns.map (·.element)).Nodup)
    (hwidth : cells.length = columns.length) (horder : row.Perm (elementsOf columns cells))
    {p : Column × Cell} (hp : p ∈ columns.zip cells) (hheld : p.1.kind.holds p.2 = true) :
    p.1.cell row = .ok p.2 := by
  have hnames : (row.map (·.1)).Nodup :=
    (horder.map (·.1)).nodup_iff.2 (nodup_elementsOf hdistinct hwidth)
  cases hnull : p.2.isNull with
  | true =>
    -- an element of this name would be that of another column
    have hnone : row.lookup p.1.element = none := by
      refine List.lookup_eq_none_iff.2 fun e he => ?_
      have hne := notMem_elementsOf hdistinct hwidth hp hnull e (horder.mem_iff.1 he)
      simpa using hne.symm
    have hcell : p.2 = .null := by
      revert hnull
      cases p.2 <;> simp [Cell.isNull]
    rw [Column.cell, hnone, hcell]
  | false =>
    -- the order does not matter, since only one element has this name
    have hsome : row.lookup p.1.element = some p.2.display :=
      lookup_eq_some_of_mem hnames (horder.mem_iff.2 (mem_elementsOf hp hnull))
    simp only [Column.cell, hsome, Kind.read_display hheld hnull]

end Elements

namespace SheetRow

variable {columns : List Column} (r : SheetRow columns)

/-- The elements of a row are read as its cells. The reader holds them in reverse. -/
theorem cellsOf_elements (hdistinct : (columns.map (·.element)).Nodup) :
    cellsOf columns r.elements.reverse = .ok r.cells := by
  have horder : r.elements.reverse.Perm (elementsOf columns r.cells) :=
    (List.reverse_perm r.elements).trans r.order
  exact mapM_eq_ok_of_zip r.width_eq fun p hp =>
    cell_of_perm hdistinct r.width_eq horder hp (r.held p hp)

/-- An element of a row is that of a column, and its text has no white space at its ends. -/
theorem element_spec {e : String × String} (he : e ∈ r.elements) :
    e.1 ∈ columns.map (·.element) ∧ isTrimmed e.2.toList = true := by
  obtain ⟨p, hp, rfl⟩ := List.mem_map.1 (r.order.mem_iff.1 he)
  have hin := (List.mem_filter.1 hp).1
  exact ⟨List.mem_map_of_mem (List.of_mem_zip hin).1, Kind.isTrimmed_display (r.held p hin)⟩

end SheetRow

end OlapClient.Rowset
