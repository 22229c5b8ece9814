import CaseMatch.Proofs.Value.RangeMembership

/-!
Equality of integers and floating-point numbers. The test for it goes by way of rounded bounds and a
conversion, and still is exact: it holds of a number and an integer only where they are the same
number. The numbers that equal any integer are those which are finite, whole and among the 64-bit
integers, and each of them equals but one.
-/

namespace CaseMatch

namespace Binary64

/-- The rational number that the fields of a finite number stand for: a significand in steps of a
power of two. Its leading bit is not stored, and only the smallest numbers do not have it. -/
def fieldsNumber (x : Binary64) : ℚ :=
  (if x.isNegative then -1 else 1) * ((if x.exponentField = 0 then 0 else 2 ^ 52) + x.fraction) *
    2 ^ ((max x.exponentField 1 : ℕ) - 1075 : ℤ)

/-- The steps of the smallest numbers are those of 2^-1074. -/
theorem step_eq (e : ℕ) :
    (2 : ℚ) ^ ((max e 1 : ℕ) - 1075 : ℤ) = 2 ^ (e - 1) / unitsOfOne := by
  obtain ⟨k, hk, hOne⟩ := unitsOfOne_eq_pow
  have hExponent : ((max e 1 : ℕ) - 1075 : ℤ) = (e - 1 : ℕ) - (k : ℤ) := by omega
  rw [hOne, Nat.pow_eq, hExponent, zpow_sub₀ (by norm_num), zpow_natCast, zpow_natCast]
  push_cast
  rfl

/-- The units of a number make the rational number that its fields stand for. -/
theorem number_eq_fieldsNumber (x : Binary64) : x.number = x.fieldsNumber := by
  have hMagnitude : (x.magnitude : ℚ) =
      ((if x.exponentField = 0 then 0 else 2 ^ 52) + x.fraction) * 2 ^ (x.exponentField - 1) := by
    rw [magnitude]
    split
    · simp [*]
    · push_cast
      norm_num
  rw [number, fieldsNumber, step_eq, units, ← mul_div_assoc, mul_assoc, ← hMagnitude]
  split
  · rw [neg_one_mul, Int.cast_neg, Int.cast_natCast]
  · rw [one_mul, Int.cast_natCast]

variable {x : Binary64} {n : Int}

/-- A finite number is an integer where its units are those of the integer. -/
theorem number_eq_cast_iff : x.number = n ↔ x.units = n * (unitsOfOne : Int) := by
  rw [le_antisymm_iff, cast_le_number_iff, number_le_cast_iff, ← le_antisymm_iff]

/-- A number is whole if it is finite and nothing but its whole part. -/
theorem isWhole_iff_number : x.isWhole = true ↔ x.isFinite = true ∧ x.number = x.whole := by
  rw [isWhole_iff, number_eq_cast_iff]

/-- What is left of a number that is an integer is the integer. -/
theorem whole_of_number (h : x.number = n) : x.whole = n := by
  rw [whole, number_eq_cast_iff.1 h]
  exact Int.mul_tdiv_cancel n (Int.natCast_ne_zero.2 unitsOfOne_pos.ne')

end Binary64

namespace Value

/-- The test for equality is met where a number is finite and the integer, and nowhere else. -/
theorem eq_float_iff_number {n : Int64} {x : Binary64} :
    (integer n).eq (.float x) = true ↔ x.isFinite = true ∧ x.fieldsNumber = n.toInt := by
  rw [eq, Binary64.equalsInt_iff, Binary64.isWhole_iff_number, Binary64.number_eq_fieldsNumber,
    and_assoc]
  refine and_congr_right fun _ => ?_
  constructor
  · rintro ⟨hNumber, -, -, hSame⟩
    rw [hNumber, hSame]
  · intro hNumber
    have hWhole := Binary64.whole_of_number ((Binary64.number_eq_fieldsNumber x).trans hNumber)
    rw [hWhole, Int64.toInt_minValue, Int64.toInt_maxValue]
    exact ⟨hNumber, n.le_toInt, Int.le_sub_one_of_lt n.toInt_lt, rfl⟩

/-- The rational numbers that are 64-bit integers. -/
theorem exists_int64_iff {q : ℚ} :
    (∃ n : Int64, q = n.toInt) ↔ (∃ k : ℤ, q = k) ∧ -2 ^ 63 ≤ q ∧ q < 2 ^ 63 := by
  constructor
  · rintro ⟨n, rfl⟩
    exact ⟨⟨n.toInt, rfl⟩, by exact_mod_cast n.le_toInt, by exact_mod_cast n.toInt_lt⟩
  · rintro ⟨⟨k, rfl⟩, hLower, hUpper⟩
    refine ⟨Int64.ofInt k, ?_⟩
    rw [Int64.toInt_ofInt_of_le (by exact_mod_cast hLower) (by exact_mod_cast hUpper)]

/-- An integer and a floating-point number are equal, on whichever side each of them stands, if and
only if the number is finite and what its fields stand for is the integer. So the numbers that equal
an integer are the finite and whole ones from -2^63 on and below 2^63, each of them equals one
integer alone, and an integer equals the number that it is rounded to only if it is that number. -/
theorem integer_eq_float_iff (x : Binary64) :
    (∀ n : Int64,
      ((integer n).eq (.float x) = true ↔ x.isFinite = true ∧ x.fieldsNumber = n.toInt) ∧
      (float x).eq (.integer n) = (integer n).eq (.float x)) ∧
    ((∃ n : Int64, (integer n).eq (.float x) = true) ↔
      x.isFinite = true ∧ (∃ k : ℤ, x.fieldsNumber = k) ∧
        -2 ^ 63 ≤ x.fieldsNumber ∧ x.fieldsNumber < 2 ^ 63) ∧
    (∀ m n : Int64, (integer m).eq (.float x) = true → (integer n).eq (.float x) = true → m = n) ∧
    ∀ n : Int64, (integer n).eq (.float (.ofInt n.toInt)) = true ↔
      (Binary64.ofInt n.toInt).fieldsNumber = n.toInt := by
  refine ⟨fun n => ⟨eq_float_iff_number, by rw [eq, eq]⟩, ?_, ?_, ?_⟩
  · simp only [eq_float_iff_number, exists_and_left, exists_int64_iff]
  · intro m n hm hn
    obtain ⟨-, hm⟩ := eq_float_iff_number.1 hm
    obtain ⟨-, hn⟩ := eq_float_iff_number.1 hn
    exact Int64.toInt_inj.1 (Int.cast_inj.1 (hm.symm.trans hn))
  · intro n
    rw [eq_float_iff_number]
    exact and_iff_right (NumberRange.isFinite_ofInt n)

/-- The integer 2^53 + 1 is rounded to 2^53, which equals the integer 2^53 alone. The greatest
integer is rounded to 2^63, which equals none. -/
theorem integer_eq_float_iff_rounded :
    (integer 9007199254740992).eq (.float (.ofInt 9007199254740993)) = true ∧
    (integer 9007199254740993).eq (.float (.ofInt 9007199254740993)) = false ∧
    ∀ n, (integer n).eq (.float (.ofInt Int64.maxValue.toInt)) = false := by
  have hExact : (integer 9007199254740992).eq (.float (.ofInt 9007199254740993)) = true := by
    decide +kernel
  obtain ⟨-, -, hAlone, -⟩ := integer_eq_float_iff (.ofInt 9007199254740993)
  obtain ⟨-, hSome, -, -⟩ := integer_eq_float_iff (.ofInt Int64.maxValue.toInt)
  refine ⟨hExact, ?_, fun n => ?_⟩
  · rw [Bool.eq_false_iff]
    exact fun hOther => absurd (hAlone _ _ hExact hOther) (by decide)
  · rw [Bool.eq_false_iff]
    intro hEqual
    obtain ⟨-, -, -, hBelow⟩ := hSome.1 ⟨n, hEqual⟩
    have hNumber : (Binary64.ofInt Int64.maxValue.toInt).number = (2 ^ 63 : ℤ) :=
      Binary64.number_eq_cast_iff.2 Binary64.units_ofInt_maxValue
    rw [← Binary64.number_eq_fieldsNumber, hNumber] at hBelow
    norm_num at hBelow

end Value

end CaseMatch
