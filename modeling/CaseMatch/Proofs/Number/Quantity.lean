import CaseMatch.Number.Shortest
import CaseMatch.Proofs.Number.Nearest
import Mathlib.Algebra.Order.Field.Rat
import Mathlib.Algebra.Order.Field.Basic
import Mathlib.Tactic.FieldSimp
import Mathlib.Tactic.Linarith
import Mathlib.Tactic.Positivity

/-!
The quantity that a decimal number denotes, as a rational. Where it is neither tiny nor huge, it
alone decides with the sign which binary number the decimal one is read as.
-/

namespace CaseMatch

namespace Decimal

/-- The distance from zero. -/
def quantity (d : Decimal) : ℚ := d.digits * (10 : ℚ) ^ d.exponent

/-- Neither below 10^-4 nor above 10^16. -/
def Moderate (q : ℚ) : Prop := (10 : ℚ) ^ (-4 : ℤ) ≤ q ∧ q ≤ (10 : ℚ) ^ (16 : ℤ)

theorem Moderate.pos {q : ℚ} (h : Moderate q) : 0 < q :=
  lt_of_lt_of_le (by positivity) h.1

/-- At least 10^-4 and below 10^16. -/
def Plain (q : ℚ) : Prop := (10 : ℚ) ^ (-4 : ℤ) ≤ q ∧ q < (10 : ℚ) ^ (16 : ℤ)

theorem Plain.moderate {q : ℚ} (h : Plain q) : Moderate q := ⟨h.1, h.2.le⟩

/-- A power of ten is a quotient of two powers that are natural numbers. -/
theorem pow_exponent_eq_div (e : ℤ) :
    (10 : ℚ) ^ e = (10 ^ e.toNat : ℕ) / (10 ^ (-e).toNat : ℕ) := by
  rcases Int.le_total 0 e with h | h
  · obtain ⟨n, rfl⟩ := Int.eq_ofNat_of_zero_le h
    simp
  · obtain ⟨n, hn⟩ := Int.exists_eq_neg_ofNat h
    subst hn
    simp

/-- The quantity of a decimal number is a quotient of natural numbers, which is what is rounded. -/
theorem quantity_eq_div (d : Decimal) :
    d.quantity = (d.digits * 10 ^ d.exponent.toNat : ℕ) / (10 ^ (-d.exponent).toNat : ℕ) := by
  rw [quantity, pow_exponent_eq_div, Nat.cast_mul, mul_div_assoc]

theorem digits_pos_of_quantity_pos {d : Decimal} (h : 0 < d.quantity) : 0 < d.digits := by
  rcases Nat.eq_zero_or_pos d.digits with hZero | hPos
  · simp [quantity, hZero] at h
  · exact hPos

/-- A power of ten that is not above the digits is, with the exponent, not above the quantity. -/
theorem pow_le_quantity {d : Decimal} {n : ℕ} (h : 10 ^ n ≤ d.digits) :
    (10 : ℚ) ^ (n + d.exponent) ≤ d.quantity := by
  have hDigits : (10 : ℚ) ^ n ≤ d.digits := by exact_mod_cast h
  rw [quantity, zpow_add₀ (by norm_num), zpow_natCast]
  exact mul_le_mul_of_nonneg_right hDigits (zpow_nonneg (by norm_num) _)

theorem pow_exponent_le_quantity {d : Decimal} (h : 0 < d.digits) :
    (10 : ℚ) ^ d.exponent ≤ d.quantity := by
  simpa using pow_le_quantity (d := d) (n := 0) h

/-- A power of ten that is above the digits is, with the exponent, above the quantity. -/
theorem quantity_lt_pow {d : Decimal} {n : ℕ} (h : d.digits < 10 ^ n) :
    d.quantity < (10 : ℚ) ^ (n + d.exponent) := by
  have hDigits : (d.digits : ℚ) < 10 ^ n := by exact_mod_cast h
  rw [quantity, zpow_add₀ (by norm_num), zpow_natCast]
  exact mul_lt_mul_of_pos_right hDigits (zpow_pos (by norm_num) _)

/-- A moderate decimal number is far from what is read as zero or infinity without rounding. -/
theorem toBinary64_eq_ofRatio {d : Decimal} (h : Moderate d.quantity) :
    d.toBinary64 = .ofRatio d.negative (d.digits * Nat.pow 10 d.exponent.toNat)
      (Nat.pow 10 (-d.exponent).toNat) := by
  have hDigits := digits_pos_of_quantity_pos h.pos
  have hLog : d.digits < 10 ^ (Nat.log2 d.digits + 1) :=
    Nat.lt_of_lt_of_le Nat.lt_log2_self (Nat.pow_le_pow_left (by decide) _)
  have hLower := (zpow_lt_zpow_iff_right₀ (by norm_num)).1
    (lt_of_le_of_lt h.1 (quantity_lt_pow hLog))
  have hUpper := (zpow_le_zpow_iff_right₀ (by norm_num)).1
    (le_trans (pow_exponent_le_quantity hDigits) h.2)
  rw [toBinary64, if_neg (by omega), if_neg (by omega)]

/-- Moderate decimal numbers of one quantity are read as the same binary number. -/
theorem toBinary64_congr {d e : Decimal} (hSign : d.negative = e.negative)
    (hQuantity : d.quantity = e.quantity) (h : Moderate d.quantity) :
    d.toBinary64 = e.toBinary64 := by
  rw [toBinary64_eq_ofRatio h, toBinary64_eq_ofRatio (hQuantity ▸ h), hSign]
  refine Binary64.ofRatio_eq_of_mul_eq _ (Nat.pow_pos (by decide)) (Nat.pow_pos (by decide)) ?_
  rw [quantity_eq_div, quantity_eq_div, div_eq_div_iff (by positivity) (by positivity)] at hQuantity
  exact_mod_cast hQuantity

/-- Zeros are taken off without a change of the sign. -/
@[simp]
theorem stripZeros_negative (d : Decimal) (fuel : ℕ) :
    (d.stripZeros fuel).negative = d.negative := by
  induction fuel generalizing d with
  | zero => rfl
  | succ fuel ih =>
      rw [stripZeros]
      split
      · exact ih _
      · rfl

/-- Zeros at the end do not count. -/
@[simp]
theorem stripZeros_quantity (d : Decimal) (fuel : ℕ) :
    (d.stripZeros fuel).quantity = d.quantity := by
  induction fuel generalizing d with
  | zero => rfl
  | succ fuel ih =>
      rw [stripZeros]
      split
      · rename_i h
        obtain ⟨n, hn⟩ := Nat.dvd_of_mod_eq_zero h.2
        rw [ih]
        simp only [quantity, hn, Nat.mul_div_cancel_left n (by decide : 0 < 10)]
        rw [zpow_add₀ (by norm_num)]
        push_cast
        ring
      · rfl

end Decimal

namespace Binary64

theorem unitsOfOne_cast_pos : (0 : ℚ) < unitsOfOne := by exact_mod_cast unitsOfOne_pos

/-- The distance from zero. -/
def quantity (x : Binary64) : ℚ := x.magnitude / unitsOfOne

/-- A decimal number with the sign and the quantity of a finite number is read as it. -/
theorem toBinary64_of_quantity_eq {x : Binary64} (hFinite : x.isFinite = true) {d : Decimal}
    (hSign : d.negative = x.isNegative) (hQuantity : d.quantity = x.quantity)
    (h : Decimal.Moderate d.quantity) : d.toBinary64 = x := by
  rw [Decimal.toBinary64_eq_ofRatio h, hSign]
  refine (ofRatio_eq_of_mul_eq _ (Nat.pow_pos (by decide)) unitsOfOne_pos ?_).trans
    (ofRatio_magnitude hFinite)
  have hOne : (unitsOfOne : ℚ) ≠ 0 := unitsOfOne_cast_pos.ne'
  rw [Decimal.quantity_eq_div, quantity, div_eq_div_iff (by positivity) hOne] at hQuantity
  exact_mod_cast hQuantity

end Binary64

end CaseMatch
