import CaseMatch.Proofs.Number.Rounding
import CaseMatch.Value.Range

/-!
Which numbers lie within a range. An integer is compared with the bounds as they are, but a
floating-point number with the bounds rounded. So a range is exact for all numbers but the one that
a bound is rounded to, where this is not the bound itself. Below 2^53 no bound is rounded.
-/

namespace CaseMatch

namespace NumberRange

/-- A rational number lies between the bounds. -/
def Spans (r : NumberRange) (q : ℚ) : Prop :=
  (r.start.toInt : ℚ) ≤ q ∧ if r.inclusive then q ≤ r.stop.toInt else q < r.stop.toInt

/-- A number is what a bound is rounded to, but not the bound. -/
def Displaces (bound : Int64) (x : Binary64) : Prop :=
  x.number = (Binary64.ofInt bound.toInt).number ∧ x.number ≠ bound.toInt

/-- No integer of at most 53 bits is rounded to another number. -/
theorem size_of_displaces {bound : Int64} {x : Binary64} (h : Displaces bound x) :
    2 ^ 53 < bound.toInt.natAbs := by
  by_contra hSmall
  exact h.2 (h.1.trans (Binary64.number_ofInt_of_le (Nat.le_of_not_lt hSmall)))

/-- An integer is compared with the bounds exactly. -/
theorem contains_integer_iff (r : NumberRange) (n : Int64) :
    r.contains (.integer n) = true ↔ r.Spans n.toInt := by
  rw [contains, Spans]
  cases r.inclusive <;> simp

section floats

variable {x : Binary64}

/-- An integer that equals a number is that number. -/
theorem number_of_eq_integer {n : Int64} (h : (Value.integer n).eq (.float x) = true) :
    x.number = n.toInt := by
  have hUnits := (Binary64.equalsInt_toInt_iff.1 h).2
  rw [Binary64.number, hUnits, Binary64.unitsOfInt]
  push_cast
  exact mul_div_cancel_right₀ _ Binary64.unitsOfOne_cast_pos.ne'

/-- Finite numbers are compared by their values. -/
theorem numLE_iff {x y : Binary64} (hx : x.isFinite = true) (hy : y.isFinite = true) :
    x.numLE y = true ↔ x.number ≤ y.number := by
  simp [Binary64.numLE, Binary64.isNaN_of_isFinite hx, Binary64.isNaN_of_isFinite hy,
    Binary64.number_le_number_iff]

theorem numLT_iff {x y : Binary64} (hx : x.isFinite = true) (hy : y.isFinite = true) :
    x.numLT y = true ↔ x.number < y.number := by
  rw [← not_le, Binary64.number_le_number_iff, not_le]
  simp [Binary64.numLT, Binary64.isNaN_of_isFinite hx, Binary64.isNaN_of_isFinite hy]

theorem isFinite_ofInt (n : Int64) : (Binary64.ofInt n.toInt).isFinite = true :=
  (Binary64.ofInt_fields (Binary64.natAbs_toInt_lt n)).1

/-- A number is not below a rounded bound if it is not below the bound, or the bound is rounded to
it. -/
theorem rounded_le_iff (bound : Int64) :
    (Binary64.ofInt bound.toInt).number ≤ x.number ↔
      (bound.toInt : ℚ) ≤ x.number ∨ Displaces bound x := by
  rw [Binary64.number_ofInt_le_iff (Binary64.natAbs_toInt_lt bound), Displaces]
  rcases eq_or_ne x.number bound.toInt with hSame | hOther
  · simp [hSame]
  · simp [hOther]

/-- A number is not above a rounded bound if it is not above the bound, or the bound is rounded to
it. -/
theorem le_rounded_iff (bound : Int64) :
    x.number ≤ (Binary64.ofInt bound.toInt).number ↔
      x.number ≤ bound.toInt ∨ Displaces bound x := by
  rw [Binary64.number_le_ofInt_iff (Binary64.natAbs_toInt_lt bound), Displaces]
  rcases eq_or_ne x.number bound.toInt with hSame | hOther
  · simp [hSame]
  · simp [hOther]

/-- A number is below a rounded bound if it is below the bound and the bound is not rounded to
it. -/
theorem lt_rounded_iff (bound : Int64) :
    x.number < (Binary64.ofInt bound.toInt).number ↔
      x.number < bound.toInt ∧ ¬Displaces bound x := by
  rw [← not_le, rounded_le_iff, not_or, not_le]

/-- What a range makes of a number, told by the bounds as they are. -/
theorem contains_float_iff_bounds (r : NumberRange) (hx : x.isFinite = true) :
    r.contains (.float x) = true ↔
      ((r.start.toInt : ℚ) ≤ x.number ∨ Displaces r.start x) ∧
        if r.inclusive then x.number ≤ r.stop.toInt ∨ Displaces r.stop x
        else x.number < r.stop.toInt ∧ ¬Displaces r.stop x := by
  have hStart := numLE_iff (isFinite_ofInt r.start) hx
  have hStop := numLE_iff hx (isFinite_ofInt r.stop)
  have hBelow := numLT_iff hx (isFinite_ofInt r.stop)
  rw [rounded_le_iff] at hStart
  rw [le_rounded_iff] at hStop
  rw [lt_rounded_iff] at hBelow
  rw [contains]
  cases r.inclusive <;> simp [hStart, hStop, hBelow]

/-- A range contains a number exactly if the number lies between the bounds, unless a bound is
rounded to it. -/
theorem contains_float_iff_spans (r : NumberRange) (hx : x.isFinite = true)
    (hStart : ¬Displaces r.start x) (hStop : ¬Displaces r.stop x) :
    r.contains (.float x) = true ↔ r.Spans x.number := by
  rw [contains_float_iff_bounds r hx, Spans]
  simp [hStart, hStop]

end floats

/-- A range judges a finite floating-point number by where it lies, and no otherwise than the
integer that it equals, unless it is what a bound is rounded to and not the bound. Such a number
counts as the bound: it is within the range if the range includes the bound. Only a bound beyond
2^53 is ever rounded to another number. -/
theorem contains_float_iff (r : NumberRange) {x : Binary64} (hx : x.isFinite = true) :
    (r.contains (.float x) = true ↔
      ((r.start.toInt : ℚ) ≤ x.number ∨ Displaces r.start x) ∧
        if r.inclusive then x.number ≤ r.stop.toInt ∨ Displaces r.stop x
        else x.number < r.stop.toInt ∧ ¬Displaces r.stop x) ∧
    (¬Displaces r.start x → ¬Displaces r.stop x →
      (r.contains (.float x) = true ↔ r.Spans x.number) ∧
      ∀ n, (Value.integer n).eq (.float x) = true →
        r.contains (.float x) = r.contains (.integer n)) ∧
    ∀ bound, Displaces bound x → 2 ^ 53 < bound.toInt.natAbs := by
  refine ⟨contains_float_iff_bounds r hx, fun hStart hStop => ?_, fun _ => size_of_displaces⟩
  have hSpans := contains_float_iff_spans r hx hStart hStop
  refine ⟨hSpans, fun n hn => ?_⟩
  rw [Bool.eq_iff_iff, hSpans, contains_integer_iff, number_of_eq_integer hn]

/-- The bounds one and two are not rounded, and the number 3/2, which is in the range, lies between
them. -/
theorem contains_float_iff_between :
    (⟨0x3ff8000000000000⟩ : Binary64).isFinite = true ∧
      contains ⟨1, 2, false⟩ (.float ⟨0x3ff8000000000000⟩) = true ∧
      Spans ⟨1, 2, false⟩ (Binary64.number ⟨0x3ff8000000000000⟩) := by
  have hFinite : (⟨0x3ff8000000000000⟩ : Binary64).isFinite = true := by decide
  have hContains : contains ⟨1, 2, false⟩ (.float ⟨0x3ff8000000000000⟩) = true := by
    decide +kernel
  obtain ⟨-, hSpans, hSize⟩ := contains_float_iff ⟨1, 2, false⟩ hFinite
  have hStart : ¬Displaces 1 ⟨0x3ff8000000000000⟩ := fun h => absurd (hSize 1 h) (by decide)
  have hStop : ¬Displaces 2 ⟨0x3ff8000000000000⟩ := fun h => absurd (hSize 2 h) (by decide)
  exact ⟨hFinite, hContains, (hSpans hStart hStop).1.1 hContains⟩

/-- The range of the single integer 2^53 + 1 contains the floating-point number 2^53. It does not
contain the integer 2^53, which equals that number. -/
theorem contains_rounded_bound :
    (Binary64.ofInt 9007199254740992).isFinite = true ∧
      contains ⟨9007199254740993, 9007199254740993, true⟩
        (.float (Binary64.ofInt 9007199254740992)) = true ∧
      ¬Spans ⟨9007199254740993, 9007199254740993, true⟩
        (Binary64.ofInt 9007199254740992).number ∧
      (Value.integer 9007199254740992).eq (.float (Binary64.ofInt 9007199254740992)) = true ∧
      contains ⟨9007199254740993, 9007199254740993, true⟩ (.integer 9007199254740992) = false := by
  have hNumber : (Binary64.ofInt 9007199254740992).number = (9007199254740992 : Int) :=
    Binary64.number_ofInt_of_le (by decide)
  refine ⟨by decide +kernel, by decide +kernel, ?_, by decide +kernel, by decide +kernel⟩
  rintro ⟨hStart, -⟩
  rw [hNumber] at hStart
  exact absurd (Int.cast_le.1 hStart) (by decide)

end NumberRange

end CaseMatch
