import OlapClient.Rowset.Cursor

namespace OlapClient.Rowset

/-!
# Moving in a table

A cursor computes with integers of 64 bits and stops at their ends. Here its moves are told in
integers without bounds, and the two are shown to agree as long as the table has fewer than
`2 ^ 63 - 1` rows.

* `Move`, `Cursor.make` — the moves of a cursor, as data.
* `Move.outcome` — where a move leads and what it reports, in integers without bounds.
* `Reached` — the cursors that calls on a new one lead to.
* `Reached.inRange`, `make_eq`, `run_eq` — the range that is never left, one move, and many of them.
* `Loop` — the runs of a loop that moves until a move reports false.
* `loop_next_iff`, `loop_previous_iff` — which rows such a loop visits.
* `navigation_exact` — the whole of it, of every cursor that can be reached.
-/

/-- A move of a cursor. -/
inductive Move where
  | next
  | previous
  | absolute (row : Int64)
  | relative (delta : Int64)
  | first
  | last
  | beforeFirst
  | afterLast
deriving DecidableEq

/-- Make moves one after the other: what they report, and the state they lead to. -/
def Move.trace {σ : Type} (step : σ → Move → Option Bool × σ) (s : σ) :
    List Move → List (Option Bool) × σ
  | [] => ([], s)
  | m :: moves =>
    let rest := trace step (step s m).2 moves
    ((step s m).1 :: rest.1, rest.2)

namespace Cursor

/-- The same cursor at a position. -/
def placed (c : Cursor) (position : Int) : Cursor :=
  { c with position := position }

/-- Make a move: what it reports, if it reports anything, and the cursor after it. -/
def make (c : Cursor) : Move → Option Bool × Cursor
  | .next => (some c.next.1, c.next.2)
  | .previous => (some c.previous.1, c.previous.2)
  | .absolute row => (some (c.absolute row).1, (c.absolute row).2)
  | .relative delta => (some (c.relative delta).1, (c.relative delta).2)
  | .first => (some c.first.1, c.first.2)
  | .last => (some c.last.1, c.last.2)
  | .beforeFirst => (none, c.beforeFirst)
  | .afterLast => (none, c.afterLast)

/-- Make moves one after the other. -/
def run (c : Cursor) (moves : List Move) : List (Option Bool) × Cursor :=
  Move.trace make c moves

/-- The position is on a row, just before the first one, or just after the last one. -/
def InRange (c : Cursor) : Prop :=
  -1 ≤ c.position ∧ c.position ≤ c.count

end Cursor

/-! ### Moves in integers without bounds -/

/-- Move to a row if there is one at the target, and report whether there is. -/
def seek (count position target : Int) : Option Bool × Int :=
  if 0 ≤ target ∧ target < count then (some true, target) else (some false, position)

/-- What a move reports and the position it leads to, from a position among that many rows. -/
def Move.outcome (count position : Int) : Move → Option Bool × Int
  | .next => (some (position + 1 < count), min (position + 1) count)
  | .previous => (some (0 ≤ position - 1), max (position - 1) (-1))
  | .absolute row => seek count position (row.toInt - 1)
  | .relative delta => seek count position (position + delta.toInt - 1)
  | .first => seek count position 0
  | .last => seek count position (count - 1)
  | .beforeFirst => (none, -1)
  | .afterLast => (none, count)

/-- A cursor that calls on a new one of a table lead to: moves, and reading cells in any way. -/
inductive Reached (table : Table) : Cursor → Prop
  | new : Reached table (Cursor.ofTable table)
  | move {c : Cursor} (m : Move) : Reached table c → Reached table (c.make m).2
  | read {c : Cursor} {α : Type} (column : ColumnRef)
      (view : String → Cell → Except CursorError α) :
      Reached table c → Reached table (c.access column view).2

namespace Cursor

variable {c : Cursor} {table : Table} {m : Move} {position target : Int}

@[simp] theorem placed_position : (c.placed position).position = position := rfl

@[simp] theorem placed_table : (c.placed position).table = c.table := rfl

@[simp] theorem placed_count : (c.placed position).count = c.count := rfl

@[simp] theorem placed_placed : (c.placed position).placed target = c.placed target := rfl

theorem afterLast_eq : c.afterLast = c.placed c.count := rfl

/-! ### One move -/

/-- A jump is one in integers without bounds. -/
theorem moveTo_eq (c : Cursor) (target : Int) :
    (some (c.moveTo target).1, (c.moveTo target).2)
      = ((seek c.count c.position target).1, c.placed (seek c.count c.position target).2) := by
  unfold moveTo seek
  split <;> rfl

/-- Only whether a target is a row, and which one, matters for a jump. -/
theorem moveTo_congr {target' : Int}
    (h : target = target' ∨ ¬ (0 ≤ target ∧ target < c.count) ∧
      ¬ (0 ≤ target' ∧ target' < c.count)) : c.moveTo target = c.moveTo target' := by
  rcases h with rfl | ⟨h, h'⟩
  · rfl
  · simp only [moveTo, h, h', if_false]

/-- A jump to a target that was cut to 64 bits is the jump to the target: cutting never makes a row
of what is not one. -/
theorem moveTo_saturate (hsize : c.count < 9223372036854775807) (target : Int) :
    c.moveTo (saturate target) = c.moveTo target := by
  apply moveTo_congr
  unfold saturate
  omega

/-- The two steps of a relative move may both cut, and still the jump is the one to their sum. -/
theorem moveTo_saturate_twice (hsize : c.count < 9223372036854775807) (delta : Int) :
    c.moveTo (saturate (saturate (c.position + delta) - 1))
      = c.moveTo (c.position + delta - 1) := by
  rw [moveTo_saturate hsize]
  apply moveTo_congr
  -- the sum is cut only far off the rows, and one step from there is off them still
  unfold saturate
  omega

/-- **One move.** From a position in range every move reports and leads to what it does in integers
without bounds. -/
theorem make_eq (hsize : c.count < 9223372036854775807) (hc : c.InRange) (m : Move) :
    c.make m
      = ((m.outcome c.count c.position).1, c.placed (m.outcome c.count c.position).2) := by
  obtain ⟨hlow, hhigh⟩ := hc
  cases m with
  | next =>
    have hto : (if c.position < c.count then c.position + 1 else c.position)
        = min (c.position + 1) c.count := by
      split <;> omega
    have hreport : min (c.position + 1) c.count < c.count ↔ c.position + 1 < c.count := by omega
    simp only [make, next, hto, hreport, Move.outcome, placed]
  | previous =>
    have hto : (if 0 ≤ c.position then c.position - 1 else c.position)
        = max (c.position - 1) (-1) := by
      split <;> omega
    have hreport : 0 ≤ max (c.position - 1) (-1) ↔ 0 ≤ c.position - 1 := by omega
    simp only [make, previous, hto, hreport, Move.outcome, placed]
  | absolute row =>
    rw [make, absolute, moveTo_saturate hsize]
    exact moveTo_eq c _
  | relative delta =>
    rw [make, relative, moveTo_saturate_twice hsize]
    exact moveTo_eq c _
  | first => exact moveTo_eq c _
  | last => exact moveTo_eq c _
  | beforeFirst => rfl
  | afterLast => rfl

/-- No move leaves the range. -/
theorem outcome_inRange (hc : c.InRange) (m : Move) :
    (c.placed (m.outcome c.count c.position).2).InRange := by
  have hcount : 0 ≤ c.count := Int.natCast_nonneg _
  unfold InRange at *
  cases m <;> simp only [Move.outcome, seek, placed_position, placed_count] <;>
    (try split) <;> omega

end Cursor

/-! ### Every cursor that can be reached -/

section Reached

open Cursor

variable {table : Table} {c : Cursor}

/-- Reading a cell moves nothing. -/
theorem access_cursor {α : Type} (c : Cursor) (column : ColumnRef)
    (view : String → Cell → Except CursorError α) :
    (c.access column view).2.table = c.table ∧ (c.access column view).2.position = c.position := by
  unfold access
  split <;> exact ⟨rfl, rfl⟩

/-- Moves walk one table and stay in range. -/
theorem Reached.inRange (h : Reached table c) (hsize : table.rows.length < 9223372036854775807) :
    c.table = table ∧ c.InRange := by
  induction h with
  | new =>
    have hcount : 0 ≤ (ofTable table).count := Int.natCast_nonneg _
    exact ⟨rfl, Int.le_refl _, Int.le_trans (by decide : (-1 : Int) ≤ 0) hcount⟩
  | @move c m _ ih =>
    obtain ⟨rfl, hc⟩ := ih
    have hcount : c.count < 9223372036854775807 := by unfold count size; omega
    rw [make_eq hcount hc m]
    exact ⟨rfl, outcome_inRange hc m⟩
  | @read c α column view _ ih =>
    obtain ⟨rfl, hc⟩ := ih
    obtain ⟨htable, hposition⟩ := access_cursor c column view
    unfold InRange count size at *
    rw [htable, hposition]
    exact ⟨rfl, hc⟩

/-- **Many moves.** What they report and where they lead is what the same moves do in integers
without bounds. -/
theorem Cursor.run_eq (hsize : c.count < 9223372036854775807) (hc : c.InRange)
    (moves : List Move) :
    c.run moves = ((Move.trace (Move.outcome c.count · ·) c.position moves).1,
      c.placed (Move.trace (Move.outcome c.count · ·) c.position moves).2) := by
  induction moves generalizing c with
  | nil => rfl
  | cons m moves ih =>
    have hstep := make_eq hsize hc m
    have hrest := ih (c := c.placed (m.outcome c.count c.position).2) hsize (outcome_inRange hc m)
    unfold run at *
    simp only [Move.trace, hstep, hrest, placed_position, placed_count, placed_placed]

end Reached

namespace Cursor

variable {c : Cursor}

/-! ### Where a cursor stands -/

theorem row_eq (hc : c.InRange) : (c.row : Int) = c.position + 1 := by
  unfold row InRange at *
  omega

/-- There is a current row just where the position is that of a row. -/
theorem current?_isSome : c.current?.isSome = decide (0 ≤ c.position ∧ c.position < c.count) := by
  unfold current? count size
  by_cases h : 0 ≤ c.position
  · have hrow : c.position.toNat < c.table.rows.length ↔ c.position < c.table.rows.length := by
      omega
    rw [if_pos h, Bool.eq_iff_iff, Option.isSome_iff_ne_none, Ne, List.getElem?_eq_none_iff,
      Nat.not_le, hrow, decide_eq_true_eq]
    exact ⟨fun h' => ⟨h, h'⟩, And.right⟩
  · simp [h]

/-- A cursor is before the first row, after the last one, or on one of them, and only one of
these. -/
theorem standing_unique (c : Cursor) :
    [c.isBeforeFirst, c.isAfterLast, c.current?.isSome].count true = 1 := by
  have hcount : 0 ≤ c.count := Int.natCast_nonneg _
  rw [current?_isSome, isBeforeFirst, isAfterLast]
  by_cases hbefore : c.position < 0
  · have hafter : ¬ c.count ≤ c.position := by omega
    have hon : ¬ (0 ≤ c.position ∧ c.position < c.count) := by omega
    simp [hbefore, hafter, hon]
  · by_cases hafter : c.count ≤ c.position
    · have hon : ¬ (0 ≤ c.position ∧ c.position < c.count) := by omega
      simp [hbefore, hafter, hon]
    · have hon : 0 ≤ c.position ∧ c.position < c.count := by omega
      simp [hbefore, hafter, hon]

/-! ### Loops -/

/-- A run of a loop that moves by `step` until it reports false: the cursor each time the body of
the loop is entered, and the cursor the loop leaves. -/
inductive Loop (step : Cursor → Bool × Cursor) : Cursor → List Cursor → Cursor → Prop
  | done {c last : Cursor} : step c = (false, last) → Loop step c [] last
  | body {c c' last : Cursor} {visited : List Cursor} :
      step c = (true, c') → Loop step c' visited last → Loop step c (c' :: visited) last

/-- A loop has one run from a cursor, if it has any. -/
theorem Loop.unique {step : Cursor → Bool × Cursor} {last last' : Cursor}
    {visited visited' : List Cursor} (h : Loop step c visited last)
    (h' : Loop step c visited' last') : visited' = visited ∧ last' = last := by
  induction h generalizing visited' last' with
  | done hstop =>
    cases h' with
    | done hstop' =>
      rw [hstop] at hstop'
      cases hstop'
      exact ⟨rfl, rfl⟩
    | body hgo => rw [hstop] at hgo; cases hgo
  | body hgo _ ih =>
    cases h' with
    | done hstop => rw [hgo] at hstop; cases hstop
    | body hgo' hrest =>
      rw [hgo] at hgo'
      cases hgo'
      obtain ⟨rfl, rfl⟩ := ih hrest
      exact ⟨rfl, rfl⟩

/-- The cursor on each of some rows that follow one another. -/
def rowsFrom (c : Cursor) (start left : Nat) : List Cursor :=
  (List.range' start left).map fun i => c.placed (i : Nat)

/-- The rows that the cursor is on, from the first one on, are those of the table. -/
theorem map_current? (c : Cursor) :
    (c.rowsFrom 0 c.size).map current? = c.table.rows.map some := by
  apply List.ext_getElem
  · simp [rowsFrom, size]
  · intro i hi hi'
    simp [rowsFrom, current?]

theorem next_placed {position : Int} (h : position < c.count) :
    (c.placed position).next = (decide (position + 1 < c.count), c.placed (position + 1)) := by
  have hto : (c.placed position).next
      = (decide ((if position < c.count then position + 1 else position) < c.count),
        c.placed (if position < c.count then position + 1 else position)) := rfl
  rw [hto, if_pos h]

theorem previous_placed {position : Int} (h : 0 ≤ position) :
    (c.placed position).previous = (decide (0 ≤ position - 1), c.placed (position - 1)) := by
  have hto : (c.placed position).previous
      = (decide (0 ≤ if 0 ≤ position then position - 1 else position),
        c.placed (if 0 ≤ position then position - 1 else position)) := rfl
  rw [hto, if_pos h]

/-- From just before a row, moving on visits it and all that follow. By induction on how many
are left. -/
theorem loop_next (c : Cursor) (start left : Nat) (h : start + left = c.size) :
    Loop next (c.placed (start - 1)) (c.rowsFrom start left) c.afterLast := by
  induction left generalizing start with
  | zero =>
    have hcount : c.count = start := by unfold count; omega
    have hbefore : (start : Int) - 1 < c.count := by omega
    have hstep := next_placed hbefore
    rw [Int.sub_add_cancel, hcount, decide_eq_false (Int.lt_irrefl _)] at hstep
    rw [afterLast_eq, hcount]
    exact .done hstep
  | succ left ih =>
    have hcount : (start : Int) < c.count := by unfold count; omega
    have hfrom : (start : Int) - 1 < c.count := by omega
    have hstep := next_placed hfrom
    rw [Int.sub_add_cancel, decide_eq_true hcount] at hstep
    have hrest := ih (start + 1) (by omega)
    have hbefore : ((start + 1 : Nat) : Int) - 1 = start := by omega
    rw [hbefore] at hrest
    exact .body hstep hrest

/-- From just after a row, moving back visits it and all before it, the first one last. -/
theorem loop_previous (c : Cursor) (start : Nat) :
    Loop previous (c.placed start) (c.rowsFrom 0 start).reverse c.beforeFirst := by
  induction start with
  | zero => exact .done (previous_placed (Int.le_refl 0))
  | succ start ih =>
    have hfrom : (0 : Int) ≤ (start + 1 : Nat) := Int.natCast_nonneg _
    have hstep := previous_placed (c := c) hfrom
    have hback : ((start + 1 : Nat) : Int) - 1 = start := by omega
    rw [hback, decide_eq_true (Int.natCast_nonneg start)] at hstep
    have hrows : (c.rowsFrom 0 (start + 1)).reverse
        = c.placed start :: (c.rowsFrom 0 start).reverse := by
      simp [rowsFrom, List.range'_1_concat]
    rw [hrows]
    exact .body hstep ih

/-- From before the first row, moving on while there is a row visits each row once, in order. -/
theorem loop_next_iff {visited : List Cursor} {last : Cursor} :
    Loop next c.beforeFirst visited last ↔ visited = c.rowsFrom 0 c.size ∧ last = c.afterLast := by
  have hrun : Loop next c.beforeFirst (c.rowsFrom 0 c.size) c.afterLast :=
    c.loop_next 0 c.size (Nat.zero_add _)
  exact ⟨hrun.unique, fun ⟨hvisited, hlast⟩ => hvisited ▸ hlast ▸ hrun⟩

/-- From after the last row, moving back while there is a row visits each row once, from the last to
the first. -/
theorem loop_previous_iff {visited : List Cursor} {last : Cursor} :
    Loop previous c.afterLast visited last ↔
      visited = (c.rowsFrom 0 c.size).reverse ∧ last = c.beforeFirst := by
  have hrun : Loop previous c.afterLast (c.rowsFrom 0 c.size).reverse c.beforeFirst :=
    c.loop_previous c.size
  exact ⟨hrun.unique, fun ⟨hvisited, hlast⟩ => hvisited ▸ hlast ▸ hrun⟩

end Cursor

/-! ### The whole -/

/-- What moving does to a cursor, in integers without bounds. -/
structure Cursor.Navigates (c : Cursor) : Prop where
  /-- The position is never out of range. -/
  inRange : -1 ≤ c.position ∧ c.position ≤ c.count
  /-- One move. -/
  make : ∀ m : Move, c.make m =
    ((m.outcome c.count c.position).1, c.placed (m.outcome c.count c.position).2)
  /-- Many moves. -/
  run : ∀ moves : List Move, c.run moves =
    ((Move.trace (Move.outcome c.count · ·) c.position moves).1,
      c.placed (Move.trace (Move.outcome c.count · ·) c.position moves).2)
  row : (c.row : Int) = c.position + 1
  /-- The cursor is before the first row, after the last one, or on one of them. -/
  standing : [c.isBeforeFirst, c.isAfterLast, c.current?.isSome].count true = 1
  /-- A current row is the one at the position. -/
  current : c.current?.isSome = decide (0 ≤ c.position ∧ c.position < c.count)
  /-- The loop that moves on ends, and only after it was on each row once, in order. -/
  forwards : ∀ (visited : List Cursor) (last : Cursor),
    Loop Cursor.next c.beforeFirst visited last ↔
      visited = c.rowsFrom 0 c.size ∧ last = c.afterLast
  /-- The loop that moves back ends, and only after it was on each row once, in reverse. -/
  backwards : ∀ (visited : List Cursor) (last : Cursor),
    Loop Cursor.previous c.afterLast visited last ↔
      visited = (c.rowsFrom 0 c.size).reverse ∧ last = c.beforeFirst
  /-- The rows on the way are those of the table. -/
  rows : (c.rowsFrom 0 c.size).map Cursor.current? = c.table.rows.map some

/-- **Navigation is exact.** Of a table with fewer than `2 ^ 63 - 1` rows, every cursor that moves
and reads lead to is in range, walks the table it was made for, moves as in integers without bounds,
and in a loop visits every row once. -/
theorem navigation_exact {table : Table} {c : Cursor}
    (hsize : table.rows.length < 9223372036854775807) (h : Reached table c) :
    c.table = table ∧ c.Navigates := by
  obtain ⟨rfl, hc⟩ := h.inRange hsize
  have hcount : c.count < 9223372036854775807 := by unfold Cursor.count Cursor.size; omega
  exact ⟨rfl, {
    inRange := hc
    make := Cursor.make_eq hcount hc
    run := Cursor.run_eq hcount hc
    row := Cursor.row_eq hc
    standing := Cursor.standing_unique c
    current := Cursor.current?_isSome
    forwards := fun _ _ => Cursor.loop_next_iff
    backwards := fun _ _ => Cursor.loop_previous_iff
    rows := Cursor.map_current? c }⟩

/-- The least and the greatest integer of 64 bits lead nowhere, neither from the last row nor from
after it. -/
theorem navigation_exact_two_rows :
    let table := Table.ofRows ["A"] [[.text "1"], [.text "2"]]
    let c := ((Cursor.ofTable table).make .last).2
    c.Navigates ∧
      c.run [.relative Int64.minValue, .absolute Int64.maxValue, .next, .relative Int64.minValue]
        = ([some false, some false, some false, some false], c.placed 2) := by
  intro table c
  have hreached : Reached table c := .move .last .new
  have h := (navigation_exact (by decide) hreached).2
  exact ⟨h, h.run _⟩

end OlapClient.Rowset
