import Mathlib.Data.List.TakeWhile
import OlapClient.Proofs.Number.Decimal
import OlapClient.Proofs.Number.Rounding
import OlapClient.Rowset.Cursor

namespace OlapClient

/-!
# Integers in text cells

A text that spells an integer is read as that integer if it has 64 bits, and as a double if not. A
double is coarse, so whether the integer is one of the type that is asked for is decided after
rounding. Here it is told for which integers this matters.

* `Decimal.Spells` — the texts of an integer: digits, which a sign may precede.
* `Decimal.integer?_of_spells` — such a text is read as that integer.
* `Binary.toInt64?_of_spells` — what becomes of one that has more than 64 bits, read as a double.
* `Rowset.Number.toInt64?_parse?` — the integer of 64 bits that a text is taken for.
* `Rowset.integers_read` — the integer of a type that a cell is taken for.
-/

namespace Decimal

/-- A text spells an integer: one or more digits, which a sign may precede. -/
inductive Spells : List Char → Int → Prop
  | plain {ds : List Char} (hne : ds ≠ []) (hdigits : ∀ c ∈ ds, isDigit c = true) :
      Spells ds (Nat.ofDigitChars 10 ds 0)
  | plus {ds : List Char} (hne : ds ≠ []) (hdigits : ∀ c ∈ ds, isDigit c = true) :
      Spells ('+' :: ds) (Nat.ofDigitChars 10 ds 0)
  | minus {ds : List Char} (hne : ds ≠ []) (hdigits : ∀ c ∈ ds, isDigit c = true) :
      Spells ('-' :: ds) (-(Nat.ofDigitChars 10 ds 0 : Int))

section
variable {ds : List Char} (hne : ds ≠ []) (hdigits : ∀ c ∈ ds, isDigit c = true)
include hne hdigits

theorem natural?_digits : natural? ds = some (Nat.ofDigitChars 10 ds 0) := by
  rw [natural?, if_pos ⟨hne, List.all_eq_true.2 hdigits⟩, value_eq_ofDigitChars]

omit hne in
/-- Digits do not begin with a sign. -/
theorem digits_ne_signed (rest : List Char) : ds ≠ '-' :: rest ∧ ds ≠ '+' :: rest := by
  constructor <;>
    · rintro rfl
      exact absurd (hdigits _ List.mem_cons_self) (by decide)

theorem integer?_digits : integer? ds = some (Nat.ofDigitChars 10 ds 0 : Int) := by
  unfold integer?
  split
  · exact absurd rfl (digits_ne_signed hdigits _).1
  · unfold unsigned?
    split
    · exact absurd rfl (digits_ne_signed hdigits _).2
    · rw [natural?_digits hne hdigits]
      rfl

end

/-- A text that spells an integer is read as that integer. -/
theorem integer?_of_spells {cs : List Char} {n : Int} (h : Spells cs n) : integer? cs = some n := by
  cases h with
  | plain hne hdigits => exact integer?_digits hne hdigits
  | plus hne hdigits =>
    rw [integer?, unsigned?, natural?_digits hne hdigits]
    · rfl
    · intro rest h
      cases h
  | minus hne hdigits =>
    simp only [integer?, natural?_digits hne hdigits]
    rfl

/-! ### Digits -/

/-- Leading zeros do not count. -/
theorem value_dropWhile_zero (ds : List Char) : value (ds.dropWhile (· == '0')) = value ds := by
  induction ds with
  | nil => rfl
  | cons d ds ih =>
    by_cases hd : d = '0'
    · subst hd
      rw [List.dropWhile_cons_of_pos (by decide), ih]
      rfl
    · rw [List.dropWhile_cons_of_neg (by simpa using hd)]

/-- A digit other than zero counts. -/
theorem digitValue_pos {d : Char} (hdigit : isDigit d = true) (hd : d ≠ '0') : 0 < digitValue d := by
  have hlow : '0' ≤ d := by
    simp only [isDigit, Bool.and_eq_true, decide_eq_true_eq] at hdigit
    exact hdigit.1
  have hle : ('0' : Char).toNat ≤ d.toNat := hlow
  have hne : ('0' : Char).toNat ≠ d.toNat := fun h => hd (Char.toNat_inj.1 h).symm
  have hzero : ('0' : Char).toNat = 48 := rfl
  unfold digitValue
  omega

/-- Every further digit moves what is before it one place up. -/
theorem mul_tenTo_le_foldl (ds : List Char) (n : Nat) :
    n * tenTo ds.length ≤ ds.foldl (fun n c => n * 10 + digitValue c) n := by
  induction ds generalizing n with
  | nil => exact Nat.le_of_eq (Nat.mul_one n)
  | cons d ds ih =>
    calc n * tenTo (ds.length + 1) = n * 10 * tenTo ds.length := by
          rw [tenTo_succ, Nat.mul_comm (tenTo ds.length), Nat.mul_assoc]
      _ ≤ (n * 10 + digitValue d) * tenTo ds.length := Nat.mul_le_mul_right _ (Nat.le_add_right _ _)
      _ ≤ _ := ih _

/-- A number is no smaller than its digits ask for, leading zeros apart. -/
theorem tenTo_le_value {ds : List Char} (hdigits : ∀ c ∈ ds, isDigit c = true)
    (hpositive : value ds ≠ 0) :
    tenTo ((ds.dropWhile (· == '0')).length - 1) ≤ value ds := by
  rw [← value_dropWhile_zero] at hpositive ⊢
  cases hdrop : ds.dropWhile (· == '0') with
  | nil =>
    rw [hdrop] at hpositive
    exact absurd rfl hpositive
  | cons d rest =>
    have hdigit : isDigit d = true :=
      hdigits d ((List.dropWhile_suffix _).subset (hdrop ▸ List.mem_cons_self))
    have hd : d ≠ '0' := by
      have hmem : d ∈ (ds.dropWhile (· == '0')).head? := by
        rw [hdrop]
        rfl
      have hhead := of_mem_head?_dropWhile hmem
      simpa using hhead
    have hone : 1 ≤ 0 * 10 + digitValue d := by
      have := digitValue_pos hdigit hd
      omega
    calc tenTo rest.length = 1 * tenTo rest.length := (Nat.one_mul _).symm
      _ ≤ (0 * 10 + digitValue d) * tenTo rest.length := Nat.mul_le_mul_right _ hone
      _ ≤ value (d :: rest) := mul_tenTo_le_foldl rest _

end Decimal

/-! ### Large integers as doubles -/

/-- A whole number of 64 digits or more, read as a double, is no number of 64 bits, but for the
negative ones that are rounded to the least of those. -/
theorem BinaryFormat.toInt64?_ofDecimal {n count : Nat} (hn : 9223372036854775808 ≤ n)
    (hcount : tenTo (count - 1) ≤ n) (negative : Bool) :
    (double.ofDecimal negative count n 0).toInt64? =
      if negative = true ∧ n ≤ 9223372036854776832 then some Int64.minValue else none := by
  have hsome : ¬ (n = 0 ∨ (count : Int) + 0 < -400) := by omega
  unfold ofDecimal
  rw [if_neg hsome]
  by_cases hlong : 400 < (count : Int) + 0
  · -- a number of so many digits is an infinity, and is far from 64 bits
    have hfar : 9223372036854776832 < n := by
      have hpower : tenTo 20 ≤ tenTo (count - 1) := Nat.pow_le_pow_right (by decide) (by omega)
      exact Nat.lt_of_lt_of_le (by decide) (Nat.le_trans hpower hcount)
    rw [if_pos hlong, if_neg fun h => Nat.not_le.2 hfar h.2]
    rfl
  · have hwhole : n * tenTo (0 : Int).toNat = n := Nat.mul_one n
    rw [if_neg hlong, hwhole]
    exact toInt64?_ofRatio_one hn negative

namespace Binary

open Decimal

section
variable {ds : List Char} (hne : ds ≠ []) (hdigits : ∀ c ∈ ds, isDigit c = true)
include hne hdigits

theorem spelling?_digits : spelling? ds = some ⟨ds, [], 0⟩ := by
  have htake : ds.takeWhile isDigit = ds := List.takeWhile_eq_self_iff.2 hdigits
  have hdrop : ds.dropWhile isDigit = [] := List.dropWhile_eq_nil_iff.2 hdigits
  simp only [spelling?, htake, hdrop, hne, false_and, if_false]
  rfl

theorem unsigned?_digits (negative : Bool)
    (hlarge : 9223372036854775808 ≤ Nat.ofDigitChars 10 ds 0) :
    ∃ x, unsigned? negative ds = some x ∧ x.toInt64? =
      if negative = true ∧ Nat.ofDigitChars 10 ds 0 ≤ 9223372036854776832 then some Int64.minValue
      else none := by
  rw [← value_eq_ofDigitChars] at hlarge ⊢
  refine ⟨_, by rw [unsigned?, spelling?_digits hne hdigits], ?_⟩
  unfold Spelling.toBinary
  dsimp only
  rw [List.append_nil, value_dropWhile_zero]
  exact BinaryFormat.toInt64?_ofDecimal hlarge (tenTo_le_value hdigits (by omega)) negative

end

/-- What becomes of a text that spells an integer of more than 64 bits, read as a double. -/
theorem toInt64?_of_spells {cs : List Char} {n : Int} (h : Spells cs n)
    (hlarge : fitsInt64 n = false) :
    ∃ x, parse? cs = some x ∧ x.toInt64? =
      if n < 0 ∧ -9223372036854776832 ≤ n then some Int64.minValue else none := by
  have hends : n < -9223372036854775808 ∨ 9223372036854775808 ≤ n := by
    simp only [fitsInt64, Bool.and_eq_false_iff, decide_eq_false_iff_not] at hlarge
    omega
  cases h with
  | @plain ds hne hdigits =>
    have hsign := digits_ne_signed hdigits
    obtain ⟨x, hx, hint⟩ := unsigned?_digits hne hdigits false (by omega)
    refine ⟨x, ?_, ?_⟩
    · unfold parse?
      split
      · exact absurd rfl (hsign _).1
      · exact absurd rfl (hsign _).2
      · exact hx
    · rw [hint, if_neg (by simp), if_neg (by omega)]
  | @plus ds hne hdigits =>
    obtain ⟨x, hx, hint⟩ := unsigned?_digits hne hdigits false (by omega)
    exact ⟨x, hx, by rw [hint, if_neg (by simp), if_neg (by omega)]⟩
  | @minus ds hne hdigits =>
    obtain ⟨x, hx, hint⟩ := unsigned?_digits hne hdigits true (by omega)
    refine ⟨x, hx, hint.trans (if_congr ?_ rfl rfl)⟩
    simp only [true_and]
    omega

end Binary

/-! ### Reading a cell as an integer -/

namespace Rowset

open Decimal

/-- The integer of 64 bits that a text is taken for: the one that it spells, or the least one for
those that are rounded to it. -/
theorem Number.toInt64?_parse? {s : String} {n : Int} (h : Spells (trim s).toList n) :
    (Number.parse? s).bind Number.toInt64? =
      if fitsInt64 n = true then some (Int64.ofInt n)
      else if n < 0 ∧ -9223372036854776832 ≤ n then some Int64.minValue
      else none := by
  unfold parse? int64?
  dsimp only
  rw [integer?_of_spells h, Option.filter_some]
  by_cases hfits : fitsInt64 n = true
  · rw [if_pos hfits, if_pos hfits]
    rfl
  · rw [if_neg hfits, if_neg hfits]
    obtain ⟨x, hx, hint⟩ := Binary.toInt64?_of_spells h (Bool.eq_false_iff.2 hfits)
    rw [hx, ← hint]
    cases x <;> rfl

/-- A text is read as an integer through the integer of 64 bits that it is taken for. -/
theorem Cell.integer_text (t : IntegerType) (label s : String) :
    (Cell.text s).integer t label =
      ((Number.parse? s).bind Number.toInt64?).elim (.error (.unreadable s label t.name)) fun i =>
        if t.fits i.toInt then .ok i.toInt else .error (.unreadable s label t.name) := by
  have hnumber : (text s).number? = Number.parse? s := rfl
  rw [integer, if_neg (show ¬ (text s).isNull = true from Bool.false_ne_true), hnumber]
  cases Number.parse? s with
  | none => rfl
  | some n =>
    rw [Option.bind_some]
    dsimp only
    cases n.toInt64? <;> rfl

/-- The integers of a type are integers of 64 bits. -/
theorem IntegerType.fitsInt64_of_fits {t : IntegerType} (hwidth : t.width ≤ 64) {n : Int}
    (h : t.fits n = true) : fitsInt64 n = true := by
  have hpower : twoTo (t.width - 1) ≤ twoTo 63 := twoTo_le_twoTo (by omega)
  have hvalue : twoTo 63 = 9223372036854775808 := rfl
  simp only [fits, Bool.and_eq_true, decide_eq_true_eq] at h
  simp only [fitsInt64, Bool.and_eq_true, decide_eq_true_eq]
  omega

/-- At 64 bits the type has all of them. -/
theorem IntegerType.fits_of_width {t : IntegerType} (hwidth : t.width = 64) (n : Int) :
    t.fits n = fitsInt64 n := by
  have hpower : twoTo (t.width - 1) = 9223372036854775808 := by
    rw [hwidth]
    rfl
  rw [fits, hpower]
  rfl

/-- The least integer of 64 bits belongs to no narrower type. -/
theorem IntegerType.fits_minValue {t : IntegerType} (hwidth : t.width ≤ 64) :
    t.fits Int64.minValue.toInt = true ↔ t.width = 64 := by
  have hvalue : Int64.minValue.toInt = -9223372036854775808 := rfl
  constructor
  · intro hfits
    by_contra hnarrow
    have hpower : twoTo (t.width - 1) ≤ twoTo 62 := twoTo_le_twoTo (by omega)
    have hless : twoTo 62 = 4611686018427387904 := rfl
    rw [hvalue] at hfits
    simp only [fits, Bool.and_eq_true, decide_eq_true_eq] at hfits
    omega
  · intro hwide
    rw [fits_of_width hwide]
    decide

/-- What a text that spells an integer is read as. -/
theorem Cell.integer_of_spells {s : String} {n : Int} {t : IntegerType} (hwidth : t.width ≤ 64)
    (h : Spells (trim s).toList n) (label : String) :
    (Cell.text s).integer t label =
      if t.fits n = true then .ok n
      else if t.width = 64 ∧ n < 0 ∧ -9223372036854776832 ≤ n then .ok (-9223372036854775808)
      else .error (.unreadable s label t.name) := by
  rw [Cell.integer_text, Number.toInt64?_parse? h]
  by_cases hbits : fitsInt64 n = true
  · -- an integer of 64 bits is not rounded
    have hsame : (Int64.ofInt n).toInt = n := by
      simp only [fitsInt64, Bool.and_eq_true, decide_eq_true_eq] at hbits
      exact Int64.toInt_ofInt_of_le hbits.1 hbits.2
    rw [if_pos hbits]
    rw [Option.elim_some, hsame]
    by_cases hfits : t.fits n = true
    · rw [if_pos hfits, if_pos hfits]
    · have hnarrow : ¬ (t.width = 64 ∧ n < 0 ∧ -9223372036854776832 ≤ n) := fun hwide =>
        hfits ((IntegerType.fits_of_width hwide.1 n).trans hbits)
      rw [if_neg hfits, if_neg hfits, if_neg hnarrow]
  · have hfits : ¬ t.fits n = true := fun hfits =>
      hbits (IntegerType.fitsInt64_of_fits hwidth hfits)
    rw [if_neg hbits, if_neg hfits]
    by_cases hnear : n < 0 ∧ -9223372036854776832 ≤ n
    · rw [if_pos hnear, Option.elim_some]
      exact if_congr ((IntegerType.fits_minValue hwidth).trans
        ⟨fun hwide => ⟨hwide, hnear⟩, And.left⟩) rfl rfl
    · rw [if_neg hnear, Option.elim_none, if_neg fun h => hnear h.2]

/-- The signed integer types that cells are read as. -/
def IntegerType.all : List IntegerType :=
  [.byte, .short, .int, .long]

theorem IntegerType.width_of_mem {t : IntegerType} (ht : t ∈ all) :
    t.width ≤ 64 ∧ (t.width = 64 ↔ t = .long) := by
  revert t
  decide

/-- **Integers are read exactly or refused, but for some just below 64 bits.** A text that spells an
integer, of whatever length, is read as that integer if it is one of the type that is asked for, and
else refused. Only where 64 bits are asked for, the 1024 integers next below the least one of them
are read as that one. -/
theorem integers_read {c : Cursor} {column : ColumnRef} {label s : String} {n : Int}
    {t : IntegerType} (ht : t ∈ IntegerType.all)
    (hcell : c.locate column = .ok (label, .text s)) (hn : Spells (trim s).toList n) :
    (c.integer t column).1 =
      if t.fits n = true then .ok n
      else if t = .long ∧ -9223372036854776832 ≤ n ∧ n < -9223372036854775808 then
        .ok (-9223372036854775808)
      else .error (.unreadable s label t.name) := by
  obtain ⟨hwidth, hlong⟩ := IntegerType.width_of_mem ht
  have hread : (c.integer t column).1 = (Cell.text s).integer t label := by
    rw [Cursor.integer, Cursor.access, hcell]
  rw [hread, Cell.integer_of_spells hwidth hn]
  by_cases hfits : t.fits n = true
  · rw [if_pos hfits, if_pos hfits]
  · rw [if_neg hfits, if_neg hfits]
    refine if_congr ?_ rfl rfl
    rw [← hlong]
    refine and_congr_right fun hwide => ?_
    rw [IntegerType.fits_of_width hwide, fitsInt64, Bool.and_eq_true, decide_eq_true_eq,
      decide_eq_true_eq] at hfits
    omega

/-- Blanks around it, a sign and leading zeros make no difference, and 300 is no integer of 8 bits. -/
theorem integers_read_three_hundred :
    let c := (Cursor.ofTable (Table.ofRows ["A"] [[.text " +00300 "]])).next.2
    (c.integer .short (.name "A")).1 = .ok 300 ∧
      (c.integer .byte (.name "A")).1 = .error (.unreadable " +00300 " "A" "byte") := by
  intro c
  have hcell : c.locate (.name "A") = .ok ("A", .text " +00300 ") := rfl
  have hchars : (trim " +00300 ").toList = ['+', '0', '0', '3', '0', '0'] := by decide +kernel
  have hn : Spells (trim " +00300 ").toList 300 := by
    rw [hchars]
    exact .plus (by simp) (List.all_eq_true.1 (by decide))
  exact ⟨integers_read (t := .short) (by decide) hcell hn,
    integers_read (t := .byte) (by decide) hcell hn⟩

/-- The integer next below the least one of 64 bits is read as that one, and not refused. -/
theorem integer_misread_below_least :
    let s := "-9223372036854775809"
    let c := (Cursor.ofTable (Table.ofRows ["A"] [[.text s]])).next.2
    Spells (trim s).toList (-9223372036854775809) ∧
      IntegerType.long.fits (-9223372036854775809) = false ∧
      (c.integer .long (.name "A")).1 = .ok (-9223372036854775808) := by
  intro s c
  have hchars : (trim s).toList = '-' :: "9223372036854775809".toList := by decide +kernel
  refine ⟨?_, by decide, by decide +kernel⟩
  rw [hchars]
  exact .minus (by simp) (List.all_eq_true.1 (by decide +kernel))

end Rowset

end OlapClient
