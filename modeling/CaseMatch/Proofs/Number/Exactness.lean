import CaseMatch.Number.Binary64
import Mathlib.Algebra.Order.Ring.Int
import Mathlib.Tactic.Ring

/-!
Comparison of binary numbers in units of 2^-1074. Every 64-bit integer lies far below the
infinities, so that a number with the units of such an integer is finite.
-/

namespace CaseMatch.Binary64

/-- Equality of numbers is equality of units, for all that is a number. -/
theorem numEq_iff {x y : Binary64} :
    x.numEq y = true ↔ x.isNaN = false ∧ y.isNaN = false ∧ x.units = y.units := by
  simp [numEq, and_assoc]

theorem isNaN_of_isFinite {x : Binary64} (h : x.isFinite = true) : x.isNaN = false := by
  simp only [isFinite, bne_iff_ne, ne_eq] at h
  simp [isNaN, h]

theorem natAbs_units (x : Binary64) : x.units.natAbs = x.magnitude := by
  unfold units
  split <;> simp

/-- The number one is a power of two of units. Its exponent is given apart, since the power is too
great to be computed with. -/
theorem unitsOfOne_eq_pow : ∃ k, k = 1074 ∧ unitsOfOne = Nat.pow 2 k := by
  unfold unitsOfOne
  exact ⟨1074, rfl, rfl⟩

theorem unitsOfOne_pos : 0 < unitsOfOne := by
  obtain ⟨k, -, hPower⟩ := unitsOfOne_eq_pow
  rw [hPower]
  exact Nat.two_pow_pos k

/-- What is a number but not finite has the least significand and the greatest exponent. -/
theorem magnitude_of_infinite {x : Binary64} (hNaN : x.isNaN = false)
    (hFinite : x.isFinite = false) : ∃ k, k = 2046 ∧ x.magnitude = Nat.pow 2 52 * Nat.pow 2 k := by
  have hExponent : x.exponentField = 2047 := by simpa [isFinite] using hFinite
  have hFraction : x.fraction = 0 := by simpa [isNaN, hExponent] using hNaN
  refine ⟨x.exponentField - 1, by omega, ?_⟩
  rw [magnitude, if_neg (by omega), hFraction, Nat.add_zero]

/-- What has as many units as a small integer is finite. -/
theorem isFinite_of_units {x : Binary64} {n : Int} (hNaN : x.isNaN = false)
    (hSmall : n.natAbs < Nat.pow 2 64) (hUnits : x.units = n * (unitsOfOne : Int)) :
    x.isFinite = true := by
  -- An infinity is 2^2098 units, and what has 64 bits is less than 2^1138.
  by_contra hInfinite
  obtain ⟨k, hk, hMagnitude⟩ := magnitude_of_infinite hNaN (by simpa using hInfinite)
  obtain ⟨l, hl, hPower⟩ := unitsOfOne_eq_pow
  have hBelow : n.natAbs * unitsOfOne < Nat.pow 2 52 * Nat.pow 2 k := by
    calc n.natAbs * unitsOfOne < Nat.pow 2 64 * unitsOfOne :=
          Nat.mul_lt_mul_of_pos_right hSmall unitsOfOne_pos
      _ = 2 ^ (64 + l) := by rw [hPower, Nat.pow_eq, Nat.pow_eq, pow_add]
      _ ≤ 2 ^ (52 + k) := Nat.pow_le_pow_right (by decide) (by omega)
      _ = Nat.pow 2 52 * Nat.pow 2 k := by rw [Nat.pow_eq, Nat.pow_eq, pow_add]
  rw [← natAbs_units, hUnits, Int.natAbs_mul, Int.natAbs_natCast] at hMagnitude
  exact Nat.ne_of_lt hBelow hMagnitude

theorem natAbs_toInt_lt (n : Int64) : n.toInt.natAbs < Nat.pow 2 64 := by
  have hLower := n.le_toInt
  have hUpper := n.toInt_lt
  have hPower : Nat.pow 2 64 = 18446744073709551616 := by decide
  omega

/-- A 64-bit integer in units of 2^-1074. -/
def unitsOfInt (n : Int64) : Int := n.toInt * (unitsOfOne : Int)

/-- Different integers have different units. -/
theorem unitsOfInt_inj {m n : Int64} : unitsOfInt m = unitsOfInt n ↔ m = n := by
  have hOne : (unitsOfOne : Int) ≠ 0 := Int.natCast_ne_zero.2 unitsOfOne_pos.ne'
  rw [unitsOfInt, unitsOfInt, Int.mul_eq_mul_right_iff hOne, Int64.toInt_inj]

/-! ### Whole numbers -/

section whole

variable {x : Binary64}

/-- The least 64-bit integer is rounded to itself. -/
theorem units_ofInt_minValue :
    (ofInt Int64.minValue.toInt).units = Int64.minValue.toInt * (unitsOfOne : Int) := by
  decide +kernel

/-- The greatest 64-bit integer is rounded to the next one, which is none of them. -/
theorem units_ofInt_maxValue :
    (ofInt Int64.maxValue.toInt).units = (Int64.maxValue.toInt + 1) * (unitsOfOne : Int) := by
  decide +kernel

theorem isNaN_ofInt_bounds :
    (ofInt Int64.minValue.toInt).isNaN = false ∧ (ofInt Int64.maxValue.toInt).isNaN = false := by
  decide +kernel

/-- A number is whole where nothing is lost of it. -/
theorem isWhole_iff :
    x.isWhole = true ↔ x.isFinite = true ∧ x.units = x.whole * (unitsOfOne : Int) := by
  have hSplit := Int.mul_tdiv_add_tmod x.units unitsOfOne
  rw [Int.mul_comm] at hSplit
  simp only [isWhole, whole, Bool.and_eq_true, beq_iff_eq]
  refine and_congr_right fun _ => ?_
  constructor
  · intro hNone
    rw [hNone, Int.add_zero] at hSplit
    exact hSplit.symm
  · intro hAll
    rw [← hAll] at hSplit
    omega

/-- A whole number that is not below the least 64-bit integer is not below it exactly, since that
bound is not rounded. -/
theorem minValue_numLE_iff (h : x.isWhole = true) :
    (ofInt Int64.minValue.toInt).numLE x = true ↔ Int64.minValue.toInt ≤ x.whole := by
  obtain ⟨hFinite, hUnits⟩ := isWhole_iff.1 h
  have hOne : (0 : Int) < unitsOfOne := Int.natCast_pos.2 unitsOfOne_pos
  simp only [numLE, isNaN_ofInt_bounds, isNaN_of_isFinite hFinite, Bool.not_false, Bool.true_and,
    decide_eq_true_eq]
  rw [units_ofInt_minValue, hUnits]
  exact Int.mul_le_mul_right hOne

/-- The greatest 64-bit integer is rounded up, so that a whole number below the rounded bound is not
above the exact one. -/
theorem numLT_maxValue_iff (h : x.isWhole = true) :
    x.numLT (ofInt Int64.maxValue.toInt) = true ↔ x.whole ≤ Int64.maxValue.toInt := by
  obtain ⟨hFinite, hUnits⟩ := isWhole_iff.1 h
  have hOne : (0 : Int) < unitsOfOne := Int.natCast_pos.2 unitsOfOne_pos
  simp only [numLT, isNaN_ofInt_bounds, isNaN_of_isFinite hFinite, Bool.not_false, Bool.true_and,
    decide_eq_true_eq]
  rw [units_ofInt_maxValue, hUnits]
  exact (Int.mul_lt_mul_right hOne).trans Int.lt_add_one_iff

/-- Within the bounds a number is converted to what is left of it without its places. -/
theorem toInt_toInt64 (hNaN : x.isNaN = false) (hLower : Int64.minValue.toInt ≤ x.whole)
    (hUpper : x.whole ≤ Int64.maxValue.toInt) : x.toInt64.toInt = x.whole := by
  have hClamped : max Int64.minValue.toInt (min Int64.maxValue.toInt x.whole) = x.whole := by
    omega
  rw [Int64.toInt_minValue] at hLower
  rw [Int64.toInt_maxValue] at hUpper
  rw [toInt64, hNaN, if_neg Bool.false_ne_true, hClamped]
  exact Int64.toInt_ofInt_of_le hLower (by omega)

/-- The test by which a number is found to be an integer finds it to be the one that its whole part
is, if this is all of the number and a 64-bit integer. -/
theorem equalsInt_iff {n : Int} : x.equalsInt n = true ↔ x.isWhole = true ∧
    Int64.minValue.toInt ≤ x.whole ∧ x.whole ≤ Int64.maxValue.toInt ∧ x.whole = n := by
  rw [equalsInt, Bool.and_eq_true, Bool.and_eq_true, Bool.and_eq_true, and_assoc, and_assoc]
  refine and_congr_right fun hWhole => ?_
  rw [minValue_numLE_iff hWhole, numLT_maxValue_iff hWhole]
  refine and_congr_right fun hLower => and_congr_right fun hUpper => ?_
  rw [toInt_toInt64 (isNaN_of_isFinite (isWhole_iff.1 hWhole).1) hLower hUpper, beq_iff_eq]

end whole

/-- A number is exactly a 64-bit integer where its units are those of the integer. That it is
finite need not be asked. -/
theorem equalsInt_toInt_iff {x : Binary64} {n : Int64} :
    x.equalsInt n.toInt = true ↔ x.isNaN = false ∧ x.units = unitsOfInt n := by
  rw [equalsInt_iff]
  constructor
  · rintro ⟨hWhole, -, -, hSame⟩
    obtain ⟨hFinite, hUnits⟩ := isWhole_iff.1 hWhole
    rw [hSame] at hUnits
    exact ⟨isNaN_of_isFinite hFinite, hUnits⟩
  · rintro ⟨hNaN, hUnits⟩
    have hFinite := isFinite_of_units hNaN (natAbs_toInt_lt n) hUnits
    have hWhole : x.whole = n.toInt := by
      rw [whole, hUnits, unitsOfInt]
      exact Int.mul_tdiv_cancel _ (Int.natCast_ne_zero.2 unitsOfOne_pos.ne')
    refine ⟨isWhole_iff.2 ⟨hFinite, by rw [hWhole, hUnits, unitsOfInt]⟩, ?_, ?_, hWhole⟩
    · rw [hWhole, Int64.toInt_minValue]
      exact n.le_toInt
    · rw [hWhole, Int64.toInt_maxValue]
      exact Int.le_sub_one_of_lt n.toInt_lt

end CaseMatch.Binary64
