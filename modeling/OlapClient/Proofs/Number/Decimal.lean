import OlapClient.Number.Decimal
import OlapClient.Proofs.Text.Ends

namespace OlapClient.Decimal

/-!
# Decimal text of whole numbers

* `natural?_toDigits` — the digits of a number are read as that number.
* `integer?_toString`, `int64?_toString` — the same for integers.
* `mem_toString` — the characters of such a text: digits and a dash.
-/

theorem isDigit_of_mem_toDigits {n : Nat} {c : Char} (h : c ∈ Nat.toDigits 10 n) :
    isDigit c = true := by
  have hdigit := Nat.isDigit_of_mem_toDigits (by decide) (by decide) h
  simp only [Char.isDigit, Bool.and_eq_true, decide_eq_true_eq] at hdigit
  simp only [isDigit, Bool.and_eq_true, decide_eq_true_eq]
  exact hdigit

theorem value_eq_ofDigitChars (cs : List Char) : value cs = Nat.ofDigitChars 10 cs 0 := by
  rw [Nat.ofDigitChars_eq_foldl, value]
  congr
  funext n c
  rw [Nat.mul_comm]
  rfl

/-- The digits of a number are read as that number. -/
theorem natural?_toDigits (n : Nat) : natural? (Nat.toDigits 10 n) = some n := by
  have hall : (Nat.toDigits 10 n).all isDigit = true :=
    List.all_eq_true.2 fun c hc => isDigit_of_mem_toDigits hc
  rw [natural?, if_pos ⟨Nat.toDigits_ne_nil, hall⟩, value_eq_ofDigitChars,
    Nat.ofDigitChars_ten_toDigits]

theorem toList_toString_natCast (n : Nat) : (toString (n : Int)).toList = Nat.toDigits 10 n := by
  show (Nat.repr n).toList = _
  rw [Nat.repr_eq_ofList_toDigits, String.toList_ofList]

theorem toList_toString_negSucc (n : Nat) :
    (toString (Int.negSucc n)).toList = '-' :: Nat.toDigits 10 (n + 1) := by
  have hdash : ("-" : String).toList = ['-'] := rfl
  show ("-" ++ Nat.repr (n + 1)).toList = _
  rw [String.toList_append, hdash, Nat.repr_eq_ofList_toDigits, String.toList_ofList]
  rfl

/-- The text of an integer consists of digits and a dash. -/
theorem mem_toString {i : Int} {c : Char} (h : c ∈ (toString i).toList) :
    isDigit c = true ∨ c = '-' := by
  cases i with
  | ofNat n =>
    rw [Int.ofNat_eq_natCast, toList_toString_natCast] at h
    exact .inl (isDigit_of_mem_toDigits h)
  | negSucc n =>
    rw [toList_toString_negSucc, List.mem_cons] at h
    rcases h with h | h
    · exact .inr h
    · exact .inl (isDigit_of_mem_toDigits h)

theorem toString_ne_empty (i : Int) : toString i ≠ "" := by
  intro h
  have hnil := congrArg String.toList h
  cases i with
  | ofNat n =>
    rw [Int.ofNat_eq_natCast, toList_toString_natCast] at hnil
    exact Nat.toDigits_ne_nil hnil
  | negSucc n =>
    rw [toList_toString_negSucc] at hnil
    cases hnil

/-- The text of an integer is read as that integer. -/
theorem integer?_toString (i : Int) : integer? (toString i).toList = some i := by
  cases i with
  | ofNat n =>
    rw [Int.ofNat_eq_natCast, toList_toString_natCast]
    -- no digit is a sign
    have hsign : ∀ c ∈ Nat.toDigits 10 n, c ≠ '-' ∧ c ≠ '+' := by
      intro c hc
      have hdigit := isDigit_of_mem_toDigits hc
      constructor <;>
        · rintro rfl
          revert hdigit
          decide
    have hnatural := natural?_toDigits n
    obtain ⟨d, ds, hds⟩ := List.exists_cons_of_ne_nil (Nat.toDigits_ne_nil (n := n) (b := 10))
    rw [hds] at hnatural ⊢
    obtain ⟨hminus, hplus⟩ := hsign d (by rw [hds]; exact List.mem_cons_self)
    have hunsigned : unsigned? (d :: ds) = some n := by
      unfold unsigned?
      split
      · rename_i heq
        cases heq
        exact absurd rfl hplus
      · exact hnatural
    unfold integer?
    split
    · rename_i heq
      cases heq
      exact absurd rfl hminus
    · rw [hunsigned]
      rfl
  | negSucc n =>
    rw [toList_toString_negSucc]
    simp only [integer?, natural?_toDigits]
    rfl

/-- The text of an integer of 64 bits is read as that integer. -/
theorem int64?_toString (n : Int64) : int64? (toString n.toInt) = some n := by
  have hfits : fitsInt64 n.toInt = true := by
    have hle := Int64.le_toInt n
    have hlt := Int64.toInt_lt n
    simp only [fitsInt64, Bool.and_eq_true, decide_eq_true_eq]
    omega
  rw [int64?, integer?_toString, Option.filter_some, if_pos hfits, Option.map_some,
    Int64.ofInt_toInt]

end OlapClient.Decimal
