import CaseMatch.Proofs.Number.Quantity

/-!
Integers rounded to binary numbers. A finite number stays on its side of an integer that is
rounded: rounding an integer never carries it past a number that needs no rounding. So a comparison
with the rounded integer goes wrong only for the one number that the integer is rounded to.
-/

namespace CaseMatch

/-- A quotient that is not below a natural number is not rounded below it. -/
theorem le_roundHalfEven {k num den : Nat} (h : k * den ≤ num) (hDen : 0 < den) :
    k ≤ roundHalfEven num den := by
  have hBelow : k ≤ num / den := (Nat.le_div_iff_mul_le hDen).2 h
  simp only [roundHalfEven]
  split_ifs <;> omega

/-- A quotient that is not above a natural number is not rounded above it. -/
theorem roundHalfEven_le {k num den : Nat} (h : num ≤ k * den) (hDen : 0 < den) :
    roundHalfEven num den ≤ k := by
  have hSplit := Nat.div_add_mod num den
  rcases Nat.lt_or_ge (num / den) k with hBelow | hAbove
  · simp only [roundHalfEven]
    split_ifs <;> omega
  · -- the quotient is `k` itself, and nothing is left over
    have hQuotient : num / den ≤ k := Nat.div_le_of_le_mul (by rwa [Nat.mul_comm])
    have hEqual : num / den = k := by omega
    have hRest : num % den = 0 := by
      rw [hEqual, Nat.mul_comm] at hSplit
      omega
    simp [roundHalfEven, hRest, hDen, hEqual]

namespace Binary64

/-! ### Numbers from their parts -/

section parts

variable {negative : Bool} {p significand : Nat}

/-- The bits of a number are its sign bit and the others. -/
theorem toNat_bits_ofParts {rest : Nat} (h : rest < Nat.pow 2 63) :
    (ofParts negative rest).bits.toNat = (if negative then Nat.pow 2 63 else 0) + rest := by
  rw [ofParts, UInt64.toNat_ofNat']
  simp only [Nat.pow_eq, Nat.reducePow] at h ⊢
  split <;> omega

/-- The sign of a number is that which it is made with. -/
theorem isNegative_ofParts {rest : Nat} (h : rest < Nat.pow 2 63) :
    (ofParts negative rest).isNegative = negative := by
  rw [isNegative, toNat_bits_ofParts h]
  simp only [Nat.pow_eq, Nat.reducePow] at h ⊢
  cases negative
  · simpa using h
  · simp

/-- The exponent of a number is what is left of its bits without the fraction. -/
theorem exponentField_ofParts {rest : Nat} (h : rest < Nat.pow 2 63) :
    (ofParts negative rest).exponentField = rest / Nat.pow 2 52 := by
  rw [exponentField, toNat_bits_ofParts h]
  simp only [Nat.pow_eq, Nat.reducePow] at h ⊢
  split <;> omega

theorem fraction_ofParts {rest : Nat} (h : rest < Nat.pow 2 63) :
    (ofParts negative rest).fraction = rest % Nat.pow 2 52 := by
  rw [fraction, toNat_bits_ofParts h]
  simp only [Nat.pow_eq, Nat.reducePow] at h ⊢
  split <;> omega

/-- A significand of at most 53 bits is stored with the power of two of its step. Only in the
smallest steps may it have less than 53. -/
theorem magnitude_ofParts (hGreatest : significand ≤ Nat.pow 2 53)
    (hLeast : p = 0 ∨ Nat.pow 2 52 ≤ significand)
    (hRest : p * Nat.pow 2 52 + significand < Nat.pow 2 63) :
    (ofParts negative (p * Nat.pow 2 52 + significand)).magnitude =
      significand * Nat.pow 2 p := by
  rw [magnitude, exponentField_ofParts hRest, fraction_ofParts hRest]
  simp only [Nat.pow_eq, Nat.reducePow] at hGreatest hLeast ⊢
  rcases Nat.lt_or_ge significand 4503599627370496 with hShort | hLong
  · obtain rfl : p = 0 := by omega
    rw [if_pos (by omega)]
    omega
  · rcases Nat.lt_or_ge significand 9007199254740992 with hBelow | hFull
    · have hExponent : (p * 4503599627370496 + significand) / 4503599627370496 = p + 1 := by omega
      have hFraction : 4503599627370496 + (p * 4503599627370496 + significand) % 4503599627370496 =
          significand := by omega
      rw [hExponent, hFraction, if_neg (by omega), Nat.add_sub_cancel]
    · -- all bits are set by rounding up, so that the exponent is one more
      obtain rfl : significand = 9007199254740992 := by omega
      have hExponent : (p * 4503599627370496 + 9007199254740992) / 4503599627370496 = p + 2 := by
        omega
      have hFraction : (p * 4503599627370496 + 9007199254740992) % 4503599627370496 = 0 := by omega
      have hStep : p + 2 - 1 = p + 1 := rfl
      rw [hExponent, hFraction, if_neg (by omega), hStep, pow_succ]
      omega

/-- A number of at least 2^(52 + p) units is a whole number of steps of 2^p. -/
theorem exists_steps {x : Binary64} (h : 2 ^ (52 + p) ≤ x.magnitude) :
    ∃ k, x.magnitude = k * 2 ^ p := by
  obtain ⟨q, significand, hMagnitude, -, hq⟩ := x.magnitude_eq_significand
  have hSome : x.magnitude ≠ 0 := by
    have := Nat.two_pow_pos (52 + p)
    omega
  have hLog : 52 + p ≤ Nat.log2 x.magnitude := (Nat.le_log2 hSome).2 h
  refine ⟨significand * 2 ^ (q - p), ?_⟩
  rw [hMagnitude, Nat.pow_eq, Nat.mul_assoc, ← pow_add, Nat.sub_add_cancel (by omega)]

end parts

/-! ### Integers -/

/-- The steps in which an integer of this size is rounded. -/
def stepExponent (size : Nat) : Nat := Nat.log2 (size * unitsOfOne) - 52

/-- The number of steps that an integer of this size is rounded to. -/
def stepCount (size : Nat) : Nat :=
  roundHalfEven (size * unitsOfOne) (Nat.pow 2 (stepExponent size))

section integers

variable {size : Nat}

/-- An integer that is not zero has as many units as between 2^52 and 2^53 of its steps. -/
theorem pow_le_units (hSome : size ≠ 0) : 2 ^ (52 + stepExponent size) ≤ size * unitsOfOne ∧
    size * unitsOfOne < 2 ^ (53 + stepExponent size) := by
  obtain ⟨k, hk, hOne⟩ := unitsOfOne_eq_pow
  have hUnits : size * unitsOfOne ≠ 0 := Nat.mul_ne_zero hSome unitsOfOne_pos.ne'
  have hLog : 52 ≤ Nat.log2 (size * unitsOfOne) := by
    refine (Nat.le_log2 hUnits).2 ?_
    calc 2 ^ 52 ≤ 2 ^ k := Nat.pow_le_pow_right (by decide) (by omega)
      _ = unitsOfOne := hOne.symm
      _ ≤ size * unitsOfOne := Nat.le_mul_of_pos_left _ (Nat.pos_of_ne_zero hSome)
  rw [stepExponent, show 52 + (Nat.log2 (size * unitsOfOne) - 52) = Nat.log2 (size * unitsOfOne) by
    omega, show 53 + (Nat.log2 (size * unitsOfOne) - 52) = Nat.log2 (size * unitsOfOne) + 1 by omega]
  exact ⟨Nat.log2_self_le hUnits, Nat.lt_log2_self⟩

/-- An integer that is not zero is rounded to between 2^52 and 2^53 of its steps. -/
theorem stepCount_bounds (hSome : size ≠ 0) :
    Nat.pow 2 52 ≤ stepCount size ∧ stepCount size ≤ Nat.pow 2 53 := by
  obtain ⟨hLower, hUpper⟩ := pow_le_units hSome
  rw [pow_add] at hLower hUpper
  exact ⟨le_roundHalfEven hLower (Nat.two_pow_pos _),
    roundHalfEven_le hUpper.le (Nat.two_pow_pos _)⟩

theorem stepCount_zero : stepCount 0 = 0 := by
  simp [stepCount, roundHalfEven]

/-- The steps of a 64-bit integer are far below the greatest ones. -/
theorem stepExponent_le (h : size < Nat.pow 2 64) : stepExponent size ≤ 1085 := by
  obtain ⟨k, hk, hOne⟩ := unitsOfOne_eq_pow
  rcases Nat.eq_zero_or_pos size with rfl | hPos
  · simp [stepExponent]
  · have hUnits : size * unitsOfOne ≠ 0 := Nat.mul_ne_zero hPos.ne' unitsOfOne_pos.ne'
    have hBelow : size * unitsOfOne < 2 ^ (64 + k) := by
      rw [hOne, pow_add]
      exact Nat.mul_lt_mul_of_pos_right h (Nat.two_pow_pos k)
    have hLog := (Nat.log2_lt hUnits).2 hBelow
    rw [stepExponent]
    omega

/-- An integer of 64 bits is rounded to a number of steps of its size. None comes near the greatest
finite number. -/
theorem ofInt_eq_ofParts {n : Int} (h : n.natAbs < Nat.pow 2 64) :
    ofInt n = ofParts (decide (n < 0))
      (stepExponent n.natAbs * Nat.pow 2 52 + stepCount n.natAbs) ∧
    stepExponent n.natAbs * Nat.pow 2 52 + stepCount n.natAbs < 2047 * Nat.pow 2 52 := by
  have hExponent := stepExponent_le h
  have hCount : stepCount n.natAbs ≤ Nat.pow 2 53 := by
    rcases Nat.eq_zero_or_pos n.natAbs with hZero | hPos
    · rw [hZero, stepCount_zero]
      exact Nat.zero_le _
    · exact (stepCount_bounds hPos.ne').2
  have hRest : stepExponent n.natAbs * Nat.pow 2 52 + stepCount n.natAbs < 2047 * Nat.pow 2 52 := by
    simp only [Nat.pow_eq, Nat.reducePow] at hCount ⊢
    omega
  refine ⟨?_, hRest⟩
  rw [ofInt, ofRatio, Nat.div_one, Nat.one_mul]
  exact congrArg (ofParts _) (Nat.min_eq_left hRest.le)

/-- What an integer is rounded to has its sign, and as many units as its steps come to. -/
theorem ofInt_fields {n : Int} (h : n.natAbs < Nat.pow 2 64) :
    (ofInt n).isFinite = true ∧ (ofInt n).isNegative = decide (n < 0) ∧
      (ofInt n).magnitude = stepCount n.natAbs * Nat.pow 2 (stepExponent n.natAbs) := by
  obtain ⟨hParts, hBelow⟩ := ofInt_eq_ofParts h
  have hRest : stepExponent n.natAbs * Nat.pow 2 52 + stepCount n.natAbs < Nat.pow 2 63 :=
    Nat.lt_of_lt_of_le hBelow (by decide)
  have hExponent : (stepExponent n.natAbs * Nat.pow 2 52 + stepCount n.natAbs) / Nat.pow 2 52 <
      2047 := (Nat.div_lt_iff_lt_mul (Nat.two_pow_pos 52)).2 hBelow
  rw [hParts]
  refine ⟨?_, isNegative_ofParts hRest, ?_⟩
  · rw [isFinite, exponentField_ofParts hRest]
    exact bne_iff_ne.2 hExponent.ne
  · rcases Nat.eq_zero_or_pos n.natAbs with hZero | hPos
    · rw [hZero, stepCount_zero] at hRest ⊢
      exact magnitude_ofParts (Nat.zero_le _) (.inl (by simp [stepExponent])) hRest
    · obtain ⟨hLeast, hGreatest⟩ := stepCount_bounds hPos.ne'
      exact magnitude_ofParts hGreatest (.inr hLeast) hRest

/-- A number not further from zero than an integer is not further than what it is rounded to. -/
theorem magnitude_le_ofInt {x : Binary64} {n : Int} (h : n.natAbs < Nat.pow 2 64)
    (hBelow : x.magnitude ≤ n.natAbs * unitsOfOne) : x.magnitude ≤ (ofInt n).magnitude := by
  rw [(ofInt_fields h).2.2]
  rcases Nat.eq_zero_or_pos n.natAbs with hZero | hPos
  · simp only [hZero, Nat.zero_mul, Nat.le_zero] at hBelow
    rw [hBelow]
    exact Nat.zero_le _
  · rcases Nat.lt_or_ge x.magnitude (2 ^ (52 + stepExponent n.natAbs)) with hShort | hLong
    · calc x.magnitude ≤ 2 ^ 52 * 2 ^ stepExponent n.natAbs := by
            rw [← pow_add]
            exact hShort.le
        _ ≤ stepCount n.natAbs * 2 ^ stepExponent n.natAbs :=
            Nat.mul_le_mul_right _ (stepCount_bounds hPos.ne').1
    · obtain ⟨k, hk⟩ := exists_steps hLong
      rw [hk] at hBelow ⊢
      exact Nat.mul_le_mul_right _ (le_roundHalfEven hBelow (Nat.two_pow_pos _))

/-- A number not nearer to zero than an integer is not nearer than what it is rounded to. -/
theorem ofInt_magnitude_le {x : Binary64} {n : Int} (h : n.natAbs < Nat.pow 2 64)
    (hAbove : n.natAbs * unitsOfOne ≤ x.magnitude) : (ofInt n).magnitude ≤ x.magnitude := by
  rw [(ofInt_fields h).2.2]
  rcases Nat.eq_zero_or_pos n.natAbs with hZero | hPos
  · simp [hZero, stepCount_zero]
  · obtain ⟨k, hk⟩ := exists_steps (Nat.le_trans (pow_le_units hPos.ne').1 hAbove)
    rw [hk] at hAbove ⊢
    exact Nat.mul_le_mul_right _ (roundHalfEven_le hAbove (Nat.two_pow_pos _))

/-- An integer of at most 53 bits is a whole number of its steps. -/
theorem exists_steps_of_le (hSome : size ≠ 0) (h : size ≤ 2 ^ 53) :
    ∃ k, size * unitsOfOne = k * 2 ^ stepExponent size := by
  obtain ⟨one, -, hOne⟩ := unitsOfOne_eq_pow
  have hLower := (pow_le_units hSome).1
  rw [hOne, Nat.pow_eq] at hLower ⊢
  generalize stepExponent size = p at hLower ⊢
  rcases Nat.lt_or_ge one p with hGreat | hSmall
  · -- only the integer of one bit more has steps of more than one
    have hUpper : size * 2 ^ one ≤ 2 ^ (53 + one) := by
      rw [pow_add]
      exact Nat.mul_le_mul_right _ h
    have hExponent := (Nat.pow_le_pow_iff_right (by decide)).1 (hLower.trans hUpper)
    obtain rfl : p = one + 1 := by omega
    have hSum : 52 + (one + 1) = 53 + one := by omega
    rw [hSum] at hLower
    refine ⟨2 ^ 52, ?_⟩
    rw [← pow_add, hSum]
    exact hUpper.antisymm hLower
  · refine ⟨size * 2 ^ (one - p), ?_⟩
    rw [Nat.mul_assoc, ← pow_add, Nat.sub_add_cancel hSmall]

/-- An integer of at most 53 bits is not rounded. -/
theorem ofInt_magnitude_of_le {n : Int} (h : n.natAbs ≤ 2 ^ 53) :
    (ofInt n).magnitude = n.natAbs * unitsOfOne := by
  have hSize : n.natAbs < Nat.pow 2 64 := Nat.lt_of_le_of_lt h (by decide)
  rw [(ofInt_fields hSize).2.2]
  rcases Nat.eq_zero_or_pos n.natAbs with hZero | hPos
  · rw [hZero, stepCount_zero, Nat.zero_mul, Nat.zero_mul]
  · obtain ⟨k, hk⟩ := exists_steps_of_le hPos.ne' h
    rw [stepCount, hk, Nat.pow_eq, roundHalfEven_of_dvd (Nat.two_pow_pos _)]

end integers

/-! ### Comparisons -/

section comparisons

variable {x : Binary64} {n : Int}

/-- The units of an integer and those of what it is rounded to, by its sign. -/
theorem units_ofInt_cases (h : n.natAbs < Nat.pow 2 64) :
    (n * (unitsOfOne : Int) = (n.natAbs * unitsOfOne : Nat) ∧
      (ofInt n).units = (ofInt n).magnitude) ∨
    (n * (unitsOfOne : Int) = -((n.natAbs * unitsOfOne : Nat) : Int) ∧
      (ofInt n).units = -((ofInt n).magnitude : Int)) := by
  rw [Int.natCast_mul, units, (ofInt_fields h).2.1, ← Int.neg_mul]
  rcases Int.lt_or_le n 0 with hn | hn
  · exact .inr ⟨by congr 1; omega, by simp [hn]⟩
  · exact .inl ⟨by congr 1; omega, by simp [hn]⟩

/-- A number that is not above an integer is not above what the integer is rounded to. -/
theorem units_le_ofInt (h : n.natAbs < Nat.pow 2 64)
    (hBelow : x.units ≤ n * (unitsOfOne : Int)) : x.units ≤ (ofInt n).units := by
  have hUnits := natAbs_units x
  have hFar := magnitude_le_ofInt (x := x) h
  have hNear := ofInt_magnitude_le (x := x) h
  rcases units_ofInt_cases h with ⟨hExact, hRounded⟩ | ⟨hExact, hRounded⟩ <;> omega

/-- A number that is not below an integer is not below what the integer is rounded to. -/
theorem ofInt_units_le (h : n.natAbs < Nat.pow 2 64)
    (hAbove : n * (unitsOfOne : Int) ≤ x.units) : (ofInt n).units ≤ x.units := by
  have hUnits := natAbs_units x
  have hFar := magnitude_le_ofInt (x := x) h
  have hNear := ofInt_magnitude_le (x := x) h
  rcases units_ofInt_cases h with ⟨hExact, hRounded⟩ | ⟨hExact, hRounded⟩ <;> omega

/-- An integer of at most 53 bits has its units exactly. -/
theorem units_ofInt_of_le (h : n.natAbs ≤ 2 ^ 53) : (ofInt n).units = n * (unitsOfOne : Int) := by
  have hSize : n.natAbs < Nat.pow 2 64 := Nat.lt_of_le_of_lt h (by decide)
  rcases units_ofInt_cases hSize with ⟨hExact, hRounded⟩ | ⟨hExact, hRounded⟩ <;>
    rw [hExact, hRounded, ofInt_magnitude_of_le h]

end comparisons

/-! ### Rational numbers -/

/-- The rational number that a finite binary number is. -/
def number (x : Binary64) : ℚ := x.units / unitsOfOne

/-- Numbers are in the order of their units. -/
theorem number_le_number_iff {x y : Binary64} : x.number ≤ y.number ↔ x.units ≤ y.units := by
  rw [number, number, div_le_div_iff_of_pos_right unitsOfOne_cast_pos]
  exact Int.cast_le

/-- Numbers with the same value have the same units. -/
theorem number_inj {x y : Binary64} : x.number = y.number ↔ x.units = y.units := by
  simp only [le_antisymm_iff, number_le_number_iff]

/-- A number is not below an integer if it has as many units. -/
theorem cast_le_number_iff {x : Binary64} {n : Int} :
    (n : ℚ) ≤ x.number ↔ n * (unitsOfOne : Int) ≤ x.units := by
  rw [number, le_div_iff₀ unitsOfOne_cast_pos]
  exact_mod_cast Iff.rfl

theorem number_le_cast_iff {x : Binary64} {n : Int} :
    x.number ≤ n ↔ x.units ≤ n * (unitsOfOne : Int) := by
  rw [number, div_le_iff₀ unitsOfOne_cast_pos]
  exact_mod_cast Iff.rfl

/-- A number is not below a rounded integer if it is not below the integer, or is what the integer
is rounded to. -/
theorem number_ofInt_le_iff {x : Binary64} {n : Int} (h : n.natAbs < Nat.pow 2 64) :
    (ofInt n).number ≤ x.number ↔ (n : ℚ) ≤ x.number ∨ x.number = (ofInt n).number := by
  rw [number_le_number_iff, cast_le_number_iff, number_inj]
  constructor
  · intro hRounded
    rcases Int.lt_or_le x.units (n * (unitsOfOne : Int)) with hBelow | hAbove
    · exact .inr (le_antisymm (units_le_ofInt h hBelow.le) hRounded)
    · exact .inl hAbove
  · rintro (hAbove | hEqual)
    · exact ofInt_units_le h hAbove
    · exact hEqual.ge

/-- A number is not above a rounded integer if it is not above the integer, or is what the integer
is rounded to. -/
theorem number_le_ofInt_iff {x : Binary64} {n : Int} (h : n.natAbs < Nat.pow 2 64) :
    x.number ≤ (ofInt n).number ↔ x.number ≤ n ∨ x.number = (ofInt n).number := by
  rw [number_le_number_iff, number_le_cast_iff, number_inj]
  constructor
  · intro hRounded
    rcases Int.lt_or_le (n * (unitsOfOne : Int)) x.units with hAbove | hBelow
    · exact .inr (le_antisymm hRounded (ofInt_units_le h hAbove.le))
    · exact .inl hBelow
  · rintro (hBelow | hEqual)
    · exact units_le_ofInt h hBelow
    · exact hEqual.le

/-- An integer of at most 53 bits is rounded to itself. -/
theorem number_ofInt_of_le {n : Int} (h : n.natAbs ≤ 2 ^ 53) : (ofInt n).number = n := by
  rw [number, units_ofInt_of_le h]
  push_cast
  exact mul_div_cancel_right₀ _ unitsOfOne_cast_pos.ne'

end Binary64

end CaseMatch
