import OlapClient.Proofs.Result
import OlapClient.Rowset.Response

namespace OlapClient.Rowset

open Markup (Event Tag)

/-!
# Faults in responses

Reading a table can go wrong in many ways, but only the look for a fault reports one.

* `Progress.step_ne_fault`, `Progress.run_ne_fault` — reading events reports no fault.
* `decode_eq_fault_iff` — the fault of a decoded body is the one that it carries.
-/

namespace Progress

variable {p : Progress} {f : Soap.Fault}

theorem declare_ne_fault (p : Progress) (tag : Tag) : p.declare tag ≠ .error (.fault f) := by
  unfold declare
  split <;> intro h <;> cases h

theorem onStart_ne_fault (p : Progress) (tag : Tag) : p.onStart tag ≠ .error (.fault f) := by
  unfold onStart
  dsimp only
  cases p.schema with
  | some scope =>
    dsimp only
    split
    · intro h
      cases h
    · split
      · exact declare_ne_fault _ tag
      · intro h
        cases h
  | none =>
    dsimp only
    split
    · intro h
      cases h
    · cases p.place with
      | outside =>
        dsimp only
        split
        · intro h
          cases h
        · split <;> intro h <;> cases h
      | row cells =>
        intro h
        cases h
      | cell cells name text nested =>
        intro h
        cases h

theorem onEmpty_ne_fault (p : Progress) (tag : Tag) : p.onEmpty tag ≠ .error (.fault f) := by
  unfold onEmpty
  dsimp only
  cases p.schema with
  | some scope =>
    dsimp only
    split
    · exact declare_ne_fault p tag
    · intro h
      cases h
  | none =>
    cases p.place with
    | outside =>
      dsimp only
      split
      · intro h
        cases h
      · split <;> intro h <;> cases h
    | row cells =>
      intro h
      cases h
    | cell cells name text nested =>
      intro h
      cases h

/-- Text reports its own failure. -/
theorem onText_ne_fault (p : Progress) {text : Except DecodeError String}
    (htext : text ≠ .error (.fault f)) : p.onText text ≠ .error (.fault f) := by
  unfold onText
  split
  · split
    · intro h
      cases h
      exact htext rfl
    · intro h
      cases h
  · intro h
    cases h

theorem step_ne_fault (p : Progress) (e : Event) : p.step e ≠ .error (.fault f) := by
  cases e with
  | start tag => exact onStart_ne_fault p tag
  | empty tag => exact onEmpty_ne_fault p tag
  | text raw =>
    refine onText_ne_fault p ?_
    cases Markup.characters raw <;> intro h <;> cases h
  | cdata raw =>
    show p.onText (.ok (Utf8.lossyString raw)) ≠ .error (.fault f)
    refine onText_ne_fault p ?_
    intro h
    cases h
  | _ =>
    intro h
    cases h

theorem run_ne_fault (p : Progress) (events : List Event) :
    p.run events ≠ .error (.fault f) := by
  induction events generalizing p with
  | nil =>
    intro h
    cases h
  | cons e es ih =>
    unfold run
    split
    · rename_i err hstep
      intro h
      cases h
      exact step_ne_fault p e hstep
    · exact ih _

theorem cell_ne_fault (column : Column) (row : RawRow) : column.cell row ≠ .error (.fault f) := by
  unfold Column.cell
  split
  · intro h
    cases h
  · split <;> intro h <;> cases h

end Progress

theorem Progress.table_ne_fault (p : Progress) (f : Soap.Fault) : p.table ≠ .error (.fault f) := by
  unfold Progress.table
  split
  · intro h
    cases h
  · split
    · rename_i e hrows
      intro h
      cases h
      have hrow : ∀ row, cellsOf p.columns row ≠ .error (.fault f) := fun row =>
        mapM_ne_error (fun column => Progress.cell_ne_fault column row) p.columns
      exact mapM_ne_error hrow _ hrows
    · intro h
      cases h

/-- The fault of a decoded body is the one that it carries. -/
theorem decode_eq_fault_iff {body : Bytes} {f : Soap.Fault} :
    decode body = .error (.fault f) ↔ Soap.fault? body = some f := by
  unfold decode
  cases Soap.fault? body with
  | some f' =>
    dsimp only
    constructor
    · intro h
      cases h
      rfl
    · intro h
      cases h
      rfl
  | none =>
    refine ⟨fun h => ?_, fun h => by cases h⟩
    dsimp only at h
    split at h
    · rename_i hrun
      cases h
      exact absurd hrun (Progress.run_ne_fault _ _)
    · split at h
      · cases h
      · exact absurd h (Progress.table_ne_fault _ _)

end OlapClient.Rowset
