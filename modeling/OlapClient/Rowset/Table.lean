import OlapClient.Rowset.Cell

namespace OlapClient.Rowset

/-!
# Tables

* `Table` — columns by label, and rows of cells, each as wide as the columns.
* `fit` — a row made as wide as the columns.
* `Table.ofRows` — the table of rows of any width.
-/

/-- Columns by label, and rows of cells. Every row has one cell per column. -/
structure Table where
  columns : List String
  rows : List (List Cell)
  width_eq : ∀ row ∈ rows, row.length = columns.length

/-- A row of a given width: absent cells are added at its end, and surplus ones are dropped. -/
def fit (width : Nat) (row : List Cell) : List Cell :=
  row.take width ++ List.replicate (width - row.length) .null

@[simp] theorem length_fit (width : Nat) (row : List Cell) : (fit width row).length = width := by
  simp only [fit, List.length_append, List.length_take, List.length_replicate]
  omega

/-- A row that is as wide as the columns stays as it is. -/
theorem fit_of_length {width : Nat} {row : List Cell} (h : row.length = width) :
    fit width row = row := by
  subst h
  simp [fit]

/-- The table with these columns, its rows fitted to them. -/
def Table.ofRows (columns : List String) (rows : List (List Cell)) : Table where
  columns := columns
  rows := rows.map (fit columns.length)
  width_eq := by
    intro row h
    obtain ⟨r, -, rfl⟩ := List.mem_map.1 h
    exact length_fit _ r

/-- Rows that are all as wide as the columns stay as they are. -/
theorem Table.rows_ofRows {columns : List String} {rows : List (List Cell)}
    (h : ∀ row ∈ rows, row.length = columns.length) : (Table.ofRows columns rows).rows = rows :=
  (List.map_congr_left fun row hrow => fit_of_length (h row hrow)).trans (List.map_id rows)

end OlapClient.Rowset
