import OlapClient.Number.Binary

namespace OlapClient

/-!
# Whole numbers as doubles

A whole number too large for 53 binary digits is rounded to a multiple of a power of two. Here it is
told what the rounding does at the ends of 64 bits, where whole numbers of that size begin not to
fit: the least of them is a double itself, and attracts the numbers next to it.

* `quotientLog2_one` — the exponent of the leading digit of a whole number.
* `BinaryFormat.nearestWhole`, `BinaryFormat.double_ofRatio_one` — what a whole number of 53 digits
  or more is rounded to.
* `BinaryFormat.nearestWhole_le_iff` — the numbers that are rounded to the least one of 64 digits.
* `BinaryFormat.toInt64?_ofRatio_one` — which of 64 digits or more are taken for numbers of 64 bits.
-/

theorem twoTo_add (m n : Nat) : twoTo (m + n) = twoTo m * twoTo n :=
  Nat.pow_add 2 m n

theorem twoTo_le_twoTo {m n : Nat} (h : m ≤ n) : twoTo m ≤ twoTo n :=
  Nat.pow_le_pow_right (by decide) h

/-- The exponent of the leading digit of a whole number. -/
theorem quotientLog2_one {n : Nat} (hn : n ≠ 0) : quotientLog2 n 1 = n.log2 := by
  have hpower : 1 * twoTo n.log2 ≤ n * twoTo 0 := by
    rw [Nat.one_mul, twoTo_zero, Nat.mul_one]
    exact Nat.log2_self_le hn
  have hzero : (1 : Nat).log2 = 0 := by decide
  unfold quotientLog2
  rw [hzero]
  have hguess : ((n.log2 : Int) - (0 : Nat)).toNat = n.log2 := by omega
  have hback : (-((n.log2 : Int) - (0 : Nat))).toNat = 0 := by omega
  simp only [hguess, hback, if_pos hpower]
  omega

/-- No quotient is rounded below its whole part. -/
theorem le_roundQuotient (num den : Nat) : num / den ≤ roundQuotient num den := by
  unfold roundQuotient
  dsimp only
  split <;> omega

namespace BinaryFormat

/-- The multiple of a power of two that a whole number of 53 digits or more is rounded to. -/
def nearestWhole (n : Nat) : Nat :=
  roundQuotient n (twoTo (n.log2 - 52)) * twoTo (n.log2 - 52)

/-- A large whole number becomes the multiple next to it, unless it is far too large. -/
theorem double_ofRatio_one {n : Nat} (hlog : 52 ≤ n.log2) (negative : Bool) :
    double.ofRatio negative n 1 = .infinite negative ∧ 1023 ≤ n.log2 ∨
      ∃ m e, double.ofRatio negative n 1 = .finite negative m e ∧
        m * twoTo e.toNat / twoTo (-e).toNat = nearestWhole n := by
  have hn : n ≠ 0 := by
    rintro rfl
    exact absurd hlog (by decide)
  -- the exponent is that of the leading digit, less the digits that a double keeps behind it
  obtain ⟨k, hk⟩ := Nat.exists_eq_add_of_le hlog
  have hexponent : max double.least (quotientLog2 n 1 - (double.precision - 1 : Nat)) = k := by
    rw [quotientLog2_one hn]
    simp only [double]
    omega
  have hshift : n.log2 - 52 = k := by omega
  have hup : (k : Int).toNat = k := rfl
  have hdown : (-(k : Int)).toNat = 0 := by omega
  have hround : roundQuotient (n * twoTo (-(k : Int)).toNat) (1 * twoTo (k : Int).toNat)
      = roundQuotient n (twoTo k) := by
    rw [hup, hdown, twoTo_zero, Nat.mul_one, Nat.one_mul]
  unfold ofRatio nearestWhole
  rw [if_neg hn, hexponent, hshift]
  dsimp only
  rw [hround]
  by_cases hcarry : roundQuotient n (twoTo k) = twoTo double.precision
  · -- a significand that is rounded up to one digit more gives it to the exponent
    rw [if_pos hcarry, hcarry]
    dsimp only
    by_cases hlarge : double.greatest < (k : Int) + 1
    · rw [if_pos hlarge]
      simp only [double] at hlarge
      exact .inl ⟨rfl, by omega⟩
    · rw [if_neg hlarge]
      refine .inr ⟨_, _, rfl, ?_⟩
      have hup' : ((k : Int) + 1).toNat = k + 1 := rfl
      have hdown' : (-((k : Int) + 1)).toNat = 0 := by omega
      have hdigit : twoTo double.precision = twoTo (double.precision - 1) * 2 := rfl
      rw [hup', hdown', twoTo_zero, Nat.div_one, twoTo_succ, hdigit, Nat.mul_assoc,
        Nat.mul_comm 2 (twoTo k)]
  · rw [if_neg hcarry]
    dsimp only
    by_cases hlarge : double.greatest < (k : Int)
    · rw [if_pos hlarge]
      simp only [double] at hlarge
      exact .inl ⟨rfl, by omega⟩
    · rw [if_neg hlarge]
      refine .inr ⟨_, _, rfl, ?_⟩
      rw [hup, hdown, twoTo_zero, Nat.div_one]

/-- Rounding keeps the leading digit. -/
theorem twoTo_log2_le_nearestWhole {n : Nat} (hlog : 52 ≤ n.log2) :
    twoTo n.log2 ≤ nearestWhole n := by
  have hn : n ≠ 0 := by
    rintro rfl
    exact absurd hlog (by decide)
  have hsplit : twoTo n.log2 = twoTo 52 * twoTo (n.log2 - 52) := by
    rw [← twoTo_add, Nat.add_sub_of_le hlog]
  have hself : twoTo 52 * twoTo (n.log2 - 52) ≤ n := by
    rw [← hsplit]
    exact Nat.log2_self_le hn
  have hsignificand : twoTo 52 ≤ roundQuotient n (twoTo (n.log2 - 52)) :=
    Nat.le_trans ((Nat.le_div_iff_mul_le (twoTo_pos _)).2 hself) (le_roundQuotient _ _)
  rw [hsplit, nearestWhole]
  exact Nat.mul_le_mul_right _ hsignificand

/-! ### The end of 64 bits -/

section
variable {n : Nat} (hn : 9223372036854775808 ≤ n)
include hn

theorem le_log2 : 63 ≤ n.log2 :=
  (Nat.le_log2 (by omega)).2 hn

theorem le_nearestWhole : 9223372036854775808 ≤ nearestWhole n :=
  Nat.le_trans (twoTo_le_twoTo (le_log2 hn))
    (twoTo_log2_le_nearestWhole (Nat.le_trans (by decide) (le_log2 hn)))

/-- The numbers that are rounded to the least one of 64 digits. That which lies half a step above is
among them, as the significand below it is even. -/
theorem nearestWhole_le_iff :
    nearestWhole n ≤ 9223372036854775808 ↔ n ≤ 9223372036854776832 := by
  have hlog := le_log2 hn
  by_cases hnext : 18446744073709551616 ≤ n
  · -- from 65 digits on the number and its rounding are too large
    have hlong : 64 ≤ n.log2 := (Nat.le_log2 (by omega)).2 hnext
    have hround : 18446744073709551616 ≤ nearestWhole n :=
      Nat.le_trans (twoTo_le_twoTo hlong) (twoTo_log2_le_nearestWhole (by omega))
    omega
  · have hshort : n.log2 < 64 := (Nat.log2_lt (by omega)).2 (Nat.not_le.1 hnext)
    have hstep : twoTo (n.log2 - 52) = 2048 := by
      rw [show n.log2 - 52 = 11 by omega]
      rfl
    unfold nearestWhole roundQuotient
    rw [hstep]
    dsimp only
    split <;> omega

/-- **Rounding at the end of 64 bits.** A whole number of 64 digits or more is taken for one of 64
bits only if it is negative and rounded to the least of them. -/
theorem toInt64?_ofRatio_one (negative : Bool) :
    (double.ofRatio negative n 1).toInt64? =
      if negative = true ∧ n ≤ 9223372036854776832 then some Int64.minValue else none := by
  have hlog := le_log2 hn
  have hleast := le_nearestWhole hn
  have hclose := nearestWhole_le_iff hn
  rcases double_ofRatio_one (Nat.le_trans (by decide) hlog) negative with
    ⟨hinfinite, hlarge⟩ | ⟨m, e, hfinite, hvalue⟩
  · have hfar : ¬ n ≤ 9223372036854776832 := by
      have hself := Nat.log2_self_le (n := n) (by omega)
      have hpower : twoTo 64 ≤ twoTo n.log2 := twoTo_le_twoTo (Nat.le_trans (by decide) hlarge)
      exact Nat.not_le.2 (Nat.lt_of_lt_of_le (by decide) (Nat.le_trans hpower hself))
    rw [hinfinite, if_neg fun h => hfar h.2]
    rfl
  · rw [hfinite, Binary.toInt64?, Binary.truncate, hvalue]
    cases negative with
    | false =>
      have hfits : ¬ Decimal.fitsInt64 (nearestWhole n) = true := by
        simp only [Decimal.fitsInt64, Bool.and_eq_true, decide_eq_true_eq]
        omega
      simp only [Bool.false_eq_true, if_false, false_and]
      exact if_neg hfits
    | true =>
      have hfits : Decimal.fitsInt64 (-(nearestWhole n : Int)) = true ↔
          n ≤ 9223372036854776832 := by
        simp only [Decimal.fitsInt64, Bool.and_eq_true, decide_eq_true_eq]
        omega
      simp only [if_true, true_and, hfits]
      split
      · rename_i hnear
        have hwhole : nearestWhole n = 9223372036854775808 := by omega
        rw [hwhole]
        rfl
      · rfl

end

end BinaryFormat

end OlapClient
