import OlapClient.Proofs.Rowset.Edited
import OlapClient.Proofs.Rowset.Schema
import OlapClient.Proofs.Soap.Truncation

namespace OlapClient.Rowset

open Markup Soap

/-!
# What is left open

The check of a response counts open elements; the decoder knows of them only what it needs for rows,
cells and schemas. In a body that the check accepts, the decoder has nothing open in the end.

* `Progress.opened` — how many elements the decoder takes for open.
* `Progress.Nests` — they are among those that are open, and the schema is one of them.
* `Progress.Begins`, `Progress.Stands` — what start tags and empty tags do beside schemas.
* `Progress.rowsSoFar`, `RowsGrow` — the rows with what is still open, and what more reading may do
  to them.
* `Cause` — what may be wrong with an accepted body.
* `accepted_body_leaves_nothing` — the decoder on an accepted body.
-/

/-! ### Rows that are still read -/

/-- A row after more of it was read: the cell that was the latest may have more text, and there may
be more cells in front of it. -/
inductive RowGrows : RawRow → RawRow → Prop
  | refl (row : RawRow) : RowGrows row row
  | text (name before more : String) (row : RawRow) :
      RowGrows ((name, before) :: row) ((name, before ++ more) :: row)
  | cell {row row' : RawRow} (latest : String × String) :
      RowGrows row row' → RowGrows row (latest :: row')

/-- Rows after more of them was read: the one that was the latest may have grown, and there may be
more rows in front of it. -/
inductive RowsGrow : List RawRow → List RawRow → Prop
  | refl (rows : List RawRow) : RowsGrow rows rows
  | latest {row row' : RawRow} (rows : List RawRow) :
      RowGrows row row' → RowsGrow (row :: rows) (row' :: rows)
  | row {rows rows' : List RawRow} (latest : RawRow) :
      RowsGrow rows rows' → RowsGrow rows (latest :: rows')

theorem RowGrows.trans {row row' row'' : RawRow} (h : RowGrows row row')
    (h' : RowGrows row' row'') : RowGrows row row'' := by
  induction h' with
  | refl => exact h
  | text name before more cells =>
    cases h with
    | refl => exact .text name before more cells
    | text _ first => exact String.append_assoc .. ▸ .text name first _ cells
    | cell _ hrow => exact .cell _ hrow
  | cell latest _ ih => exact .cell latest (ih h)

theorem RowsGrow.trans {rows rows' rows'' : List RawRow} (h : RowsGrow rows rows')
    (h' : RowsGrow rows' rows'') : RowsGrow rows rows'' := by
  induction h' with
  | refl => exact h
  | latest behind hrow =>
    cases h with
    | refl => exact .latest behind hrow
    | latest _ hfirst => exact .latest behind (hfirst.trans hrow)
    | row _ hrows => exact .row _ hrows
  | row latest _ ih => exact .row latest (ih h)

/-- Where there is no row in the end, there never was one. -/
theorem RowsGrow.eq_nil {rows : List RawRow} (h : RowsGrow rows []) : rows = [] := by
  cases h
  rfl

/-- The elements that a place is inside of: the row, the cell, and those open in the cell. -/
def Place.opened : Place → Nat
  | .outside => 0
  | .row _ => 1
  | .cell _ _ _ nested => nested + 2

/-- The row that is open at a place, with the cell that is open in it. -/
def Place.rows : Place → List RawRow
  | .outside => []
  | .row cells => [cells]
  | .cell cells name text _ => [(name, text) :: cells]

namespace Progress

/-- How many elements the reader takes for open: in a row and a cell, and in a schema. -/
def opened (p : Progress) : Nat :=
  p.place.opened + p.schema.elim 0 (·.inner + 1)

/-- The rows, the one that is still open among them. -/
def rowsSoFar (p : Progress) : List RawRow :=
  p.place.rows ++ p.rows

variable {p q r : Progress} {e : Event} {es : List Event} {err : DecodeError} {tag : Tag}
  {inside inside' : List Bytes}

/-! ### Open elements -/

/-- The elements that the reader takes for open are among those that are open, and the outermost one
of its schema is one that is named so. -/
structure Nests (p : Progress) (inside : List Bytes) : Prop where
  count : p.opened ≤ inside.length
  schema : ∀ scope, p.schema = some scope →
    ∃ name, inside[scope.inner]? = some name ∧ localName name = "schema"

theorem opened_eq_zero (h : p.opened = 0) : p.place = .outside ∧ p.schema = none := by
  unfold opened at h
  constructor
  · cases hplace : p.place <;> simp_all [Place.opened]
  · cases hschema : p.schema <;> simp_all

/-- Nothing is opened or closed. -/
theorem Nests.of_eq (h : p.Nests inside) (hplace : q.place.opened = p.place.opened)
    (hschema : q.schema = p.schema) : q.Nests inside where
  count := by
    have := h.count
    unfold opened at *
    rwa [hplace, hschema]
  schema := hschema ▸ h.schema

/-- Beside schemas only the place counts. -/
theorem Nests.of_place (hschema : q.schema = none) (hplace : q.place.opened ≤ inside.length) :
    q.Nests inside where
  count := by rwa [opened, hschema]
  schema scope h := by
    rw [hschema] at h
    cases h

theorem Nests.place (h : p.Nests inside) : p.place.opened ≤ inside.length :=
  Nat.le_trans (Nat.le_add_right _ _) h.count

/-- A declaration adds a column, and nothing else. -/
theorem declare_eq_ok (h : p.declare tag = .ok q) :
    ∃ column, q = { p with declared := p.declared ++ [column] } := by
  unfold declare at h
  split at h
  · cases h
  · cases h
    exact ⟨_, rfl⟩

/-- In a schema a start tag is one more element, and perhaps a declaration. -/
theorem onStart_schema {scope : SchemaScope} (hschema : p.schema = some scope)
    (h : p.onStart tag = .ok q) : ∃ flag columns,
      q = { p with schema := some ⟨scope.inner + 1, flag⟩, declared := p.declared ++ columns } := by
  simp only [onStart, hschema] at h
  split at h
  · cases h
    exact ⟨_, [], by rw [List.append_nil]⟩
  · split at h
    · obtain ⟨column, rfl⟩ := declare_eq_ok h
      exact ⟨_, [column], rfl⟩
    · cases h
      exact ⟨_, [], by rw [List.append_nil]⟩

/-- In a schema an empty tag is at most a declaration. -/
theorem onEmpty_schema {scope : SchemaScope} (hschema : p.schema = some scope)
    (h : p.onEmpty tag = .ok q) : ∃ columns, q = { p with declared := p.declared ++ columns } := by
  simp only [onEmpty, hschema] at h
  split at h
  · obtain ⟨column, rfl⟩ := declare_eq_ok h
    exact ⟨[column], rfl⟩
  · cases h
    exact ⟨[], by simp⟩

/-- What a start tag does beside schemas. -/
inductive Begins (p : Progress) (tag : Tag) : Progress → Prop
  | schema : tag.localName = "schema" → Begins p tag { p with schema := some {} }
  | nested {cells : RawRow} {name text : String} {nested : Nat} :
      p.place = .cell cells name text nested →
        Begins p tag { p with place := .cell cells name text (nested + 1) }
  | cell {cells : RawRow} : p.place = .row cells →
      Begins p tag { p with place := .cell cells tag.localName "" 0 }
  | row : p.place = .outside → Begins p tag { p with place := .row [] }
  | root : Begins p tag { p with sawRoot := true }
  | other : (p.place = .outside → tag.localName ≠ "row" ∧ tag.localName ≠ "root") →
      Begins p tag p

/-- What an empty tag does beside schemas. -/
inductive Stands (p : Progress) (tag : Tag) : Progress → Prop
  | cell {cells : RawRow} : p.place = .row cells →
      Stands p tag { p.note tag.localName with place := .row ((tag.localName, "") :: cells) }
  | row : p.place = .outside → Stands p tag { p with rows := [] :: p.rows }
  | root : Stands p tag { p with sawRoot := true }
  | other : (p.place = .outside → tag.localName ≠ "row" ∧ tag.localName ≠ "root") →
      Stands p tag p

theorem begins_of_onStart (hschema : p.schema = none) (h : p.onStart tag = .ok q) :
    p.Begins tag q := by
  obtain ⟨declared, schema, rows, seen, place, sawRoot⟩ := p
  cases hschema
  dsimp only [onStart] at h
  split at h
  · rename_i hname
    cases h
    exact .schema hname
  · cases place with
    | cell cells name text nested =>
      cases h
      exact .nested rfl
    | row cells =>
      cases h
      exact .cell rfl
    | outside =>
      dsimp only at h
      split at h
      · cases h
        exact .row rfl
      · rename_i hrow
        split at h <;> cases h
        · exact .root
        · rename_i hroot
          exact .other fun _ => ⟨hrow, hroot⟩

theorem stands_of_onEmpty (hschema : p.schema = none) (h : p.onEmpty tag = .ok q) :
    p.Stands tag q := by
  obtain ⟨declared, schema, rows, seen, place, sawRoot⟩ := p
  cases hschema
  dsimp only [onEmpty] at h
  cases place with
  | row cells =>
    cases h
    exact .cell rfl
  | outside =>
    dsimp only at h
    split at h
    · cases h
      exact .row rfl
    · rename_i hrow
      split at h <;> cases h
      · exact .root
      · rename_i hroot
        exact .other fun _ => ⟨hrow, hroot⟩
  | cell cells name text nested =>
    cases h
    split
    · exact .root
    · exact .other fun houtside => by cases houtside

theorem Nests.onStart (h : p.Nests inside) (hstep : p.onStart tag = .ok q) :
    q.Nests (tag.name :: inside) := by
  cases hschema : p.schema with
  | some scope =>
    obtain ⟨name, hname, hlocal⟩ := h.schema scope hschema
    obtain ⟨flag, columns, rfl⟩ := onStart_schema hschema hstep
    have hcount := h.count
    simp only [opened, hschema, Option.elim] at hcount
    refine ⟨?_, fun scope' h' => ?_⟩
    · simp only [opened, Option.elim, List.length_cons]
      omega
    · cases h'
      exact ⟨name, hname, hlocal⟩
  | none =>
    have hplace := h.place
    cases begins_of_onStart hschema hstep with
    | schema hname =>
      refine ⟨?_, fun scope h' => ?_⟩
      · simp only [opened, Option.elim, List.length_cons]
        omega
      · cases h'
        exact ⟨tag.name, rfl, hname⟩
    | nested hcell =>
      rw [hcell] at hplace
      exact .of_place hschema (Nat.succ_le_succ hplace)
    | cell hrow =>
      rw [hrow] at hplace
      exact .of_place hschema (Nat.succ_le_succ hplace)
    | row => exact .of_place hschema (Nat.succ_le_succ (Nat.zero_le _))
    | root => exact .of_place hschema (Nat.le_succ_of_le hplace)
    | other => exact .of_place hschema (Nat.le_succ_of_le hplace)

theorem Nests.onEmpty (h : p.Nests inside) (hstep : p.onEmpty tag = .ok q) : q.Nests inside := by
  cases hschema : p.schema with
  | some scope =>
    obtain ⟨columns, rfl⟩ := onEmpty_schema hschema hstep
    exact h.of_eq rfl rfl
  | none =>
    cases stands_of_onEmpty hschema hstep with
    | cell hrow => exact h.of_eq (by rw [hrow]; rfl) (note_schema p _)
    | row => exact h.of_eq rfl rfl
    | root => exact h.of_eq rfl rfl
    | other => exact h

theorem Nests.takes (h : p.Nests inside) (s : String) : (p.takes s).Nests inside := by
  unfold Progress.takes
  split
  · rename_i hplace
    exact h.of_eq (by rw [hplace]; rfl) rfl
  · exact h

theorem Nests.onClose {name : Bytes} (h : p.Nests (name :: inside)) : p.onClose.Nests inside := by
  have hcount := h.count
  unfold Progress.onClose
  split
  · rename_i inner flag hschema
    obtain ⟨name', hname, hlocal⟩ := h.schema _ hschema
    simp only [opened, hschema, Option.elim, List.length_cons] at hcount
    refine ⟨?_, fun scope h' => ?_⟩
    · simp only [opened, Option.elim]
      omega
    · cases h'
      exact ⟨name', hname, hlocal⟩
  · rename_i flag hschema
    simp only [opened, hschema, Option.elim, List.length_cons] at hcount
    refine .of_place rfl ?_
    show p.place.opened ≤ _
    omega
  · rename_i hschema
    simp only [opened, hschema, Option.elim, List.length_cons] at hcount
    split
    · rename_i hplace
      rw [hplace] at hcount
      exact .of_place hschema (Nat.le_of_succ_le_succ hcount)
    · rename_i hplace
      rw [hplace] at hcount
      exact .of_place ((note_schema p _).trans hschema) (Nat.le_of_succ_le_succ hcount)
    · exact .of_place hschema (Nat.zero_le _)
    · rename_i hplace
      exact .of_place hschema (hplace ▸ Nat.zero_le _)

/-- A text that can be read is taken up. -/
theorem onText_eq_ok {text : Except DecodeError String} (h : p.onText text = .ok q) :
    ∃ s, q = p.takes s := by
  by_cases hcell : p.InCell
  · cases text with
    | error e =>
      rw [onText_error hcell] at h
      cases h
    | ok s =>
      rw [onText_ok] at h
      exact ⟨s, (Except.ok.inj h).symm⟩
  · rw [onText_outside hcell] at h
    cases h
    exact ⟨"", (takes_empty p).symm⟩

/-- With every event the reader opens and closes what the event does, or less. -/
theorem Nests.step (h : p.Nests inside) (hstep : p.step e = .ok q)
    (hnest : e.nest? inside = some inside') : q.Nests inside' := by
  cases e with
  | start tag =>
    cases hnest
    exact h.onStart hstep
  | empty tag =>
    cases hnest
    exact h.onEmpty hstep
  | close name =>
    -- an end tag that closes nothing, or another element than the innermost one, is no event here
    cases inside with
    | nil => cases hnest
    | cons expected outer =>
      cases hstep
      by_cases hname : name = expected
      · rw [Event.nest?, if_pos hname] at hnest
        cases hnest
        exact h.onClose
      · rw [Event.nest?, if_neg hname] at hnest
        cases hnest
  | text raw =>
    cases hnest
    obtain ⟨s, rfl⟩ := onText_eq_ok hstep
    exact h.takes s
  | cdata raw =>
    cases hnest
    have htext : p.onText (.ok (Utf8.lossyString raw)) = .ok q := hstep
    obtain ⟨s, rfl⟩ := onText_eq_ok htext
    exact h.takes s
  | _ =>
    cases hnest
    cases hstep
    exact h

theorem Nests.run (h : p.Nests inside) (hrun : p.run es = .ok q)
    (hopen : openAfter inside es = some inside') : q.Nests inside' := by
  induction es generalizing p inside with
  | nil =>
    cases hrun
    cases hopen
    exact h
  | cons e es ih =>
    obtain ⟨m, hstep, hrest⟩ := run_cons_eq_ok hrun
    obtain ⟨middle, hnest, hopen'⟩ := Option.bind_eq_some_iff.1 hopen
    exact ih (h.step hstep hnest) hrest hopen'

/-- At the beginning nothing is open. -/
theorem nests_nil : Nests {} [] :=
  .of_place rfl (Nat.zero_le _)

/-! ### Nothing is lost -/

/-- What the reader has is kept: its rows, its columns and the root. -/
structure Advances (p q : Progress) : Prop where
  rows : RowsGrow p.rowsSoFar q.rowsSoFar
  declared : p.declared <+: q.declared
  sawRoot : p.sawRoot = true → q.sawRoot = true

theorem Advances.refl (p : Progress) : p.Advances p :=
  ⟨.refl _, List.prefix_refl _, id⟩

theorem Advances.trans (h : p.Advances q) (h' : q.Advances r) : p.Advances r :=
  ⟨h.rows.trans h'.rows, h.declared.trans h'.declared, h'.sawRoot ∘ h.sawRoot⟩

/-- Only the rows change. -/
theorem Advances.of_rows (hrows : RowsGrow p.rowsSoFar q.rowsSoFar)
    (hdeclared : q.declared = p.declared) (hroot : q.sawRoot = p.sawRoot) : p.Advances q :=
  ⟨hrows, hdeclared ▸ List.prefix_refl _, fun h => hroot.trans h⟩

theorem advances_onStart (h : p.onStart tag = .ok q) : p.Advances q := by
  cases hschema : p.schema with
  | some scope =>
    obtain ⟨flag, columns, rfl⟩ := onStart_schema hschema h
    exact ⟨.refl _, List.prefix_append _ _, id⟩
  | none =>
    cases begins_of_onStart hschema h with
    | schema => exact .of_rows (.refl _) rfl rfl
    | nested hplace =>
      refine .of_rows ?_ rfl rfl
      rw [rowsSoFar, hplace]
      exact .refl _
    | cell hplace =>
      refine .of_rows ?_ rfl rfl
      rw [rowsSoFar, hplace]
      exact .latest _ (.cell _ (.refl _))
    | row hplace =>
      refine .of_rows ?_ rfl rfl
      rw [rowsSoFar, hplace]
      exact .row _ (.refl _)
    | root => exact ⟨.refl _, List.prefix_refl _, fun _ => rfl⟩
    | other => exact .refl p

theorem advances_onEmpty (h : p.onEmpty tag = .ok q) : p.Advances q := by
  cases hschema : p.schema with
  | some scope =>
    obtain ⟨columns, rfl⟩ := onEmpty_schema hschema h
    exact ⟨.refl _, List.prefix_append _ _, id⟩
  | none =>
    cases stands_of_onEmpty hschema h with
    | cell hplace =>
      obtain ⟨seen, hnote⟩ := p.note_eq tag.localName
      refine .of_rows ?_ (by rw [hnote]) (by rw [hnote])
      rw [rowsSoFar, hplace, hnote]
      exact .latest _ (.cell _ (.refl _))
    | row hplace =>
      refine .of_rows ?_ rfl rfl
      rw [rowsSoFar, rowsSoFar, hplace]
      exact .row _ (.refl _)
    | root => exact ⟨.refl _, List.prefix_refl _, fun _ => rfl⟩
    | other => exact .refl p

theorem advances_takes (p : Progress) (s : String) : p.Advances (p.takes s) := by
  unfold takes
  split
  · rename_i hplace
    refine .of_rows ?_ rfl rfl
    rw [rowsSoFar, hplace]
    exact .latest _ (.text _ _ s _)
  · exact .refl p

/-- What an end tag closes is kept as it stands. -/
theorem advances_onClose (p : Progress) : p.Advances p.onClose := by
  unfold onClose
  split
  · exact .of_rows (.refl _) rfl rfl
  · exact .of_rows (.refl _) rfl rfl
  · split
    · rename_i hplace
      refine .of_rows ?_ rfl rfl
      rw [rowsSoFar, hplace]
      exact .refl _
    · rename_i name text hplace
      obtain ⟨seen, hnote⟩ := p.note_eq name
      refine .of_rows ?_ (by rw [hnote]) (by rw [hnote])
      rw [rowsSoFar, hplace, hnote]
      exact .refl _
    · rename_i hplace
      refine .of_rows ?_ rfl rfl
      rw [rowsSoFar, hplace]
      exact .refl _
    · exact .refl p

theorem advances_step (h : p.step e = .ok q) : p.Advances q := by
  cases e with
  | start tag => exact advances_onStart h
  | empty tag => exact advances_onEmpty h
  | close name =>
    cases h
    exact p.advances_onClose
  | text raw =>
    obtain ⟨s, rfl⟩ := onText_eq_ok h
    exact p.advances_takes s
  | cdata raw =>
    have htext : p.onText (.ok (Utf8.lossyString raw)) = .ok q := h
    obtain ⟨s, rfl⟩ := onText_eq_ok htext
    exact p.advances_takes s
  | _ =>
    cases h
    exact .refl p

theorem advances_run (h : p.run es = .ok q) : p.Advances q := by
  induction es generalizing p with
  | nil =>
    cases h
    exact .refl _
  | cons e es ih =>
    obtain ⟨m, hstep, hrest⟩ := run_cons_eq_ok h
    exact (advances_step hstep).trans (ih hrest)

/-- With nothing open, the rows are those that have ended. -/
theorem rowsSoFar_outside (hplace : p.place = .outside) : p.rowsSoFar = p.rows := by
  rw [rowsSoFar, hplace]
  rfl

theorem place_eq_outside (h : p.rowsSoFar = []) : p.place = .outside := by
  have hrows := (List.append_eq_nil_iff.1 h).1
  cases hplace : p.place with
  | outside => rfl
  | row cells =>
    rw [hplace] at hrows
    cases hrows
  | cell cells name text nested =>
    rw [hplace] at hrows
    cases hrows

/-! ### Why reading events fails -/

/-- Reading fails at an event, behind others that were read. -/
theorem run_eq_error (h : p.run es = .error err) :
    ∃ before e after q, es = before ++ e :: after ∧ p.run before = .ok q ∧
      q.step e = .error err := by
  induction es generalizing p with
  | nil => cases h
  | cons e es ih =>
    rw [run] at h
    cases hstep : p.step e with
    | error err' =>
      rw [hstep] at h
      cases h
      exact ⟨[], e, es, p, rfl, rfl, hstep⟩
    | ok m =>
      rw [hstep] at h
      obtain ⟨before, e', after, q, rfl, hbefore, hfails⟩ := ih h
      exact ⟨e :: before, e', after, q, rfl, by rw [run_cons hstep, hbefore], hfails⟩

/-- Only a tag that declares a column can be wrong: it has no name. -/
theorem declare_eq_error (h : p.declare tag = .error err) :
    tag.attribute? "name" = none ∧ err = .unnamedColumn := by
  unfold declare Column.ofDeclaration at h
  split at h
  · rename_i hnone
    cases h
    split at hnone
    · exact ⟨‹_›, rfl⟩
    · cases hnone
  · cases h

/-- A declaration of a column without a name. -/
structure Unnamed (p : Progress) (tag : Tag) : Prop where
  named_element : tag.localName = "element"
  in_row_type : ∃ scope, p.schema = some scope ∧ scope.inRowType = true
  no_name : tag.attribute? "name" = none

/-- What a tag of a schema may fail with. -/
theorem declaration_eq_error {scope : SchemaScope} {m : Progress} (hschema : p.schema = some scope)
    (h : (if tag.localName = "element" ∧ scope.inRowType = true then m.declare tag else .ok m) =
      .error err) : p.Unnamed tag ∧ err = .unnamedColumn := by
  split at h
  · rename_i helement
    obtain ⟨hname, rfl⟩ := declare_eq_error h
    exact ⟨⟨helement.1, ⟨scope, hschema, helement.2⟩, hname⟩, rfl⟩
  · cases h

theorem onStart_eq_error (h : p.onStart tag = .error err) :
    p.Unnamed tag ∧ err = .unnamedColumn := by
  unfold onStart at h
  cases hschema : p.schema with
  | some scope =>
    rw [hschema] at h
    dsimp only at h
    split at h
    · cases h
    · exact declaration_eq_error hschema h
  | none =>
    rw [hschema] at h
    dsimp only at h
    repeat' split at h
    all_goals cases h

theorem onEmpty_eq_error (h : p.onEmpty tag = .error err) :
    p.Unnamed tag ∧ err = .unnamedColumn := by
  unfold onEmpty at h
  cases hschema : p.schema with
  | some scope =>
    rw [hschema] at h
    exact declaration_eq_error hschema h
  | none =>
    rw [hschema] at h
    dsimp only at h
    repeat' split at h
    all_goals cases h

theorem onText_eq_error {text : Except DecodeError String} (h : p.onText text = .error err) :
    p.InCell ∧ text = .error err := by
  by_cases hcell : p.InCell
  · cases text with
    | error e =>
      rw [onText_error hcell] at h
      exact ⟨hcell, congrArg Except.error (Except.error.inj h)⟩
    | ok s =>
      rw [onText_ok] at h
      cases h
  · rw [onText_outside hcell] at h
    cases h

end Progress

/-! ### Accepted bodies -/

/-- What may be wrong with a body that is read to its end. -/
inductive Cause (body : Bytes) : DecodeError → Prop
  /-- A fault was found. -/
  | fault {f : Fault} : fault? body = some f → Cause body (.fault f)
  /-- The text of a cell cannot be decoded or unescaped. -/
  | badText {before after : List Event} {raw : Bytes} {p : Progress} {e : TextError} :
      (read body).events = before ++ .text raw :: after → Progress.run {} before = .ok p →
        p.InCell → characters raw = .error e → Cause body (.badText e)
  /-- A schema declares a column without a name. -/
  | unnamedColumn {before after : List Event} {tag : Tag} {declaration : Event} {p : Progress} :
      (read body).events = before ++ declaration :: after → Progress.run {} before = .ok p →
        (declaration = .start tag ∨ declaration = .empty tag) → p.Unnamed tag →
          Cause body .unnamedColumn
  /-- A cell is no value of its column's kind. -/
  | badCell {p : Progress} {column : Column} {row : RawRow} {raw : String} :
      Progress.run {} (read body).events = .ok p → column ∈ p.columns → row ∈ p.rows →
        row.lookup column.element = some raw → column.kind.read raw = none →
          Cause body (.badCell raw column.label column.kind)
  /-- No column is declared, and there is no root and no row, except in a schema. -/
  | noRowset {p : Progress} :
      Progress.run {} (read body).events = .ok p → p.declared = [] → p.rows = [] →
        p.sawRoot = false →
        (∀ before e after, (read body).events = before ++ e :: after →
          (e.elementName? = some "root" ∨ e.elementName? = some "row") →
            ∃ inside, openAfter [] before = some inside ∧
              ∃ name ∈ inside, localName name = "schema") →
          Cause body .noRowset

/-- Reading the events of a body fails at a text or at a declaration. -/
theorem Cause.of_run {body : Bytes} {err : DecodeError}
    (h : Progress.run {} (read body).events = .error err) : Cause body err := by
  obtain ⟨before, e, after, p, hsplit, hbefore, hstep⟩ := Progress.run_eq_error h
  cases e with
  | start tag =>
    obtain ⟨hunnamed, rfl⟩ := Progress.onStart_eq_error hstep
    exact .unnamedColumn hsplit hbefore (.inl rfl) hunnamed
  | empty tag =>
    obtain ⟨hunnamed, rfl⟩ := Progress.onEmpty_eq_error hstep
    exact .unnamedColumn hsplit hbefore (.inr rfl) hunnamed
  | text raw =>
    obtain ⟨hcell, htext⟩ := Progress.onText_eq_error hstep
    obtain ⟨e, hraw, rfl⟩ := Except.mapError_eq_error htext
    exact .badText hsplit hbefore hcell hraw
  | cdata raw =>
    have htext : p.onText (.ok (Utf8.lossyString raw)) = .error err := hstep
    cases (Progress.onText_eq_error htext).2
  | _ => cases hstep

/-- What a table fails with: nothing to make it of, or a cell. -/
theorem Progress.table_eq_error {p : Progress} {err : DecodeError} (h : p.table = .error err) :
    (err = .noRowset ∧ p.sawRoot = false ∧ p.rows = [] ∧ p.declared = []) ∨
      ∃ column ∈ p.columns, ∃ row ∈ p.rows, ∃ raw, row.lookup column.element = some raw ∧
        column.kind.read raw = none ∧ err = .badCell raw column.label column.kind := by
  unfold Progress.table at h
  split at h
  · rename_i hnothing
    cases h
    simpa using hnothing
  · right
    split at h
    · rename_i e hrows
      cases h
      obtain ⟨row, hrow, hcells⟩ := exists_of_mapM_eq_error hrows
      obtain ⟨column, hcolumn, hcell⟩ := exists_of_mapM_eq_error hcells
      refine ⟨column, hcolumn, row, List.mem_reverse.1 hrow, ?_⟩
      unfold Column.cell at hcell
      split at hcell
      · cases hcell
      · rename_i raw hraw
        split at hcell
        · cases hcell
        · rename_i hread
          cases hcell
          exact ⟨raw, hraw, hread, rfl⟩
    · cases h

/-- The table has all rows that were read. -/
theorem Progress.length_rows_of_table {p : Progress} {t : Table} (h : p.table = .ok t) :
    t.rows.length = p.rows.length := by
  obtain ⟨rows, hrows, rfl⟩ := Progress.table_eq_ok h
  have hlength := length_of_mapM_eq_ok hrows
  rw [List.length_reverse] at hlength
  simpa [Table.ofRows] using hlength

/-- Where neither a root nor a row is read in the end, those of the document are in a schema. -/
theorem Progress.Nests.within_schema {p q r : Progress} {e : Event} {inside : List Bytes}
    (h : p.Nests inside) (hstep : p.step e = .ok q) (hrest : q.Advances r)
    (hrows : r.rowsSoFar = []) (hroot : r.sawRoot = false)
    (hname : e.elementName? = some "root" ∨ e.elementName? = some "row") :
    ∃ name ∈ inside, localName name = "schema" := by
  cases hschema : p.schema with
  | some scope =>
    obtain ⟨name, hin, hlocal⟩ := h.schema scope hschema
    exact ⟨name, List.mem_of_getElem? hin, hlocal⟩
  | none =>
    -- beside schemas the tag is seen or begins a row, unless it is in one, and a row is kept
    exfalso
    have hnone : q.rowsSoFar = [] := (hrows ▸ hrest.rows).eq_nil
    have hplace : p.place = .outside :=
      place_eq_outside (hnone ▸ (advances_step hstep).rows).eq_nil
    have hunseen : q.sawRoot ≠ true := fun hseen => by
      rw [hrest.sawRoot hseen] at hroot
      cases hroot
    cases e with
    | start tag =>
      have hname : tag.localName = "root" ∨ tag.localName = "row" :=
        hname.imp Option.some.inj Option.some.inj
      cases begins_of_onStart hschema hstep with
      | schema h' => rw [h'] at hname; exact absurd hname (by decide)
      | nested h' => rw [hplace] at h'; cases h'
      | cell h' => rw [hplace] at h'; cases h'
      | row => cases hnone
      | root => exact hunseen rfl
      | other h' => exact hname.elim (h' hplace).2 (h' hplace).1
    | empty tag =>
      have hname : tag.localName = "root" ∨ tag.localName = "row" :=
        hname.imp Option.some.inj Option.some.inj
      cases stands_of_onEmpty hschema hstep with
      | cell h' => rw [hplace] at h'; cases h'
      | row => exact absurd (List.append_eq_nil_iff.1 hnone).2 (List.cons_ne_nil _ _)
      | root => exact hunseen rfl
      | other h' => exact hname.elim (h' hplace).2 (h' hplace).1
    | _ => rcases hname with hname | hname <;> cases hname

/-- Where nothing that a table is made of was read, there is none outside of schemas. -/
theorem Cause.noRowset_of_run {body : Bytes} {p : Progress}
    (hopen : openAfter [] (read body).events = some [])
    (hrun : Progress.run {} (read body).events = .ok p) (hplace : p.place = .outside)
    (hdeclared : p.declared = []) (hrows : p.rows = []) (hroot : p.sawRoot = false) :
    Cause body .noRowset := by
  refine .noRowset hrun hdeclared hrows hroot fun before e after hsplit hname => ?_
  rw [hsplit] at hopen hrun
  obtain ⟨inside, hinside⟩ := exists_openAfter_of_append hopen
  obtain ⟨q, hbefore, hrest⟩ := Progress.run_append_eq_ok hrun
  obtain ⟨r, hstep, hafter⟩ := Progress.run_cons_eq_ok hrest
  have hnests := Progress.nests_nil.run hbefore hinside
  have hnone : p.rowsSoFar = [] := (Progress.rowsSoFar_outside hplace).trans hrows
  exact ⟨inside, hinside,
    hnests.within_schema hstep (Progress.advances_run hafter) hnone hroot hname⟩

/-- A body without a syntax error is not decoded because of a fault, or because reading its events or
making the table fails. -/
theorem decode_eq_error {body : Bytes} {err : DecodeError}
    (hfailure : (read body).failure = none) (h : decode body = .error err) :
    (∃ f, fault? body = some f ∧ err = .fault f) ∨
      Progress.run {} (read body).events = .error err ∨
        ∃ p, Progress.run {} (read body).events = .ok p ∧ p.table = .error err := by
  unfold decode at h
  split at h
  · rename_i f hfault
    cases h
    exact .inl ⟨f, hfault, rfl⟩
  · right
    dsimp only at h
    split at h
    · rename_i hrun
      cases h
      exact .inl hrun
    · rename_i p hrun
      rw [hfailure] at h
      exact .inr ⟨p, hrun, h⟩

/-- What reading a body to its end leaves: the reader agrees with the check on what is open, and
keeps all that it reads. -/
structure ReadToEnd (body : Bytes) : Prop where
  /-- No event is a syntax error. -/
  failure : (read body).failure = none
  /-- On the way, the elements that the reader takes for open are among those that the check
  counts. -/
  nests : ∀ before after, (read body).events = before ++ after →
    ∃ s, DocumentScan.run {} before = .ok s ∧
      ∀ p, Progress.run {} before = .ok p → p.opened ≤ s.depth
  /-- In the end no row, no cell and no schema is open. -/
  closed : ∀ p, Progress.run {} (read body).events = .ok p → p.place = .outside ∧ p.schema = none
  /-- Each row and each cell that is opened on the way is among those read in the end. -/
  kept : ∀ before after p q, (read body).events = before ++ after →
    Progress.run {} (read body).events = .ok p → Progress.run {} before = .ok q →
      RowsGrow q.rowsSoFar p.rows ∧ q.declared <+: p.declared
  /-- All rows are rows of the table. -/
  rows : ∀ t, decode body = .ok t →
    ∃ p, Progress.run {} (read body).events = .ok p ∧ t.rows.length = p.rows.length
  cause : ∀ e, decode body = .error e → Cause body e

/-- **An accepted body leaves nothing open.** What the check accepts, the reader reads to its end
without a syntax error. In the end no row, cell or schema is open, and none was dropped; and where
there is no table, its text, its columns or its cells are the reason, or a fault. -/
theorem accepted_body_leaves_nothing {body : Bytes} (h : checkDocument body = .ok ()) :
    ReadToEnd body := by
  obtain ⟨d, hd⟩ := exists_document h
  have hevents : (read body).events = d.events := by rw [hd]
  have hopen : openAfter [] (read body).events = some [] := hevents ▸ d.openAfter_events
  have hcount : DocumentScan.run {} (read body).events = .ok ⟨0, true⟩ :=
    hevents ▸ DocumentScan.run_document d
  have hclosed : ∀ p, Progress.run {} (read body).events = .ok p →
      p.place = .outside ∧ p.schema = none := fun p hrun =>
    Progress.opened_eq_zero (Nat.le_zero.1 (Progress.nests_nil.run hrun hopen).count)
  have hfailure : (read body).failure = none := by rw [hd]
  constructor
  case failure => exact hfailure
  case nests =>
    intro before after hsplit
    rw [hsplit] at hopen hcount
    obtain ⟨inside, hinside⟩ := exists_openAfter_of_append hopen
    obtain ⟨s, hs, -⟩ := DocumentScan.run_append_eq_ok hcount
    -- the check counts all that is open, the reader some of it
    obtain ⟨hdepth, -⟩ := DocumentScan.run_depth hs hinside rfl fun _ => rfl
    exact ⟨s, hs, fun p hp => hdepth ▸ (Progress.nests_nil.run hp hinside).count⟩
  case closed => exact hclosed
  case kept =>
    intro before after p q hsplit hp hq
    rw [hsplit, Progress.run_append hq] at hp
    have hadvances := Progress.advances_run hp
    rw [← Progress.run_append hq, ← hsplit] at hp
    exact ⟨Progress.rowsSoFar_outside (hclosed p hp).1 ▸ hadvances.rows, hadvances.declared⟩
  case rows =>
    intro t ht
    obtain ⟨p, hrun, htable⟩ := decode_eq_ok ht
    exact ⟨p, hrun, p.length_rows_of_table htable⟩
  case cause =>
    intro err herr
    obtain ⟨f, hfault, rfl⟩ | hrun | ⟨p, hrun, htable⟩ := decode_eq_error hfailure herr
    · exact .fault hfault
    · exact .of_run hrun
    · obtain ⟨rfl, hroot, hrows, hdeclared⟩ | ⟨column, hcolumn, row, hrow, raw, hraw, hread, rfl⟩ :=
        p.table_eq_error htable
      · exact .noRowset_of_run hopen hrun (hclosed p hrun).1 hdeclared hrows hroot
      · exact .badCell hrun hcolumn hrow hraw hread

/-- A response with a schema and a row leaves nothing open. -/
theorem accepted_body_leaves_nothing_sheet :
    let body := Utf8.encode (Soap.element "root"
      (Soap.element "schema" (Soap.elementWith "complexType" (nameAttribute "row")
        (emptyElement "element" (nameAttribute "A"))) ++
          Soap.element "row" (Soap.leaf "A" "1")))
    checkDocument body = .ok () ∧ ReadToEnd body := by
  intro body
  let schema : Content := .element (writtenTag "complexType" (nameAttribute "row"))
    (.empty (writtenTag "element" (nameAttribute "A")) .nil) .nil
  let cell : Content := .element (writtenTag "A" "")
    (.event (.text (Utf8.encode (escape "1".toList))) rfl .nil) .nil
  let d : Document := ⟨[], writtenTag "root" "", .element (writtenTag "schema" "") schema
    (.element (writtenTag "row" "") cell .nil), [], by simp, by decide +kernel, by simp⟩
  have hread : read body = ⟨d.events, none⟩ :=
    read_of_reads (.element (by decide) (.append
      (.element (by decide) (.elementWith (by decide) (attributeBytes_nameAttribute "row")
        (reads_emptyElement (by decide) (attributeBytes_nameAttribute "A"))))
      (.element (by decide) (reads_leaf (by decide) (by decide)))))
  have haccepted := check_of_describes hread
  exact ⟨haccepted, accepted_body_leaves_nothing haccepted⟩

end OlapClient.Rowset
