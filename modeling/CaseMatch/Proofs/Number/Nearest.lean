import CaseMatch.Proofs.Number.Exactness

/-!
Rounding a quotient to a binary number. Only the ratio counts, and a finite number is the nearest
to itself.
-/

namespace CaseMatch

/-- A quotient is rounded by its value: a common factor does not count. -/
theorem roundHalfEven_mul_left {k : Nat} (hk : 0 < k) (num den : Nat) :
    roundHalfEven (k * num) (k * den) = roundHalfEven num den := by
  have hTwice : 2 * (k * (num % den)) = k * (2 * (num % den)) := by ring
  simp only [roundHalfEven, Nat.mul_div_mul_left _ _ hk, Nat.mul_mod_mul_left, hTwice,
    Nat.mul_lt_mul_left hk]

/-- A quotient without remainder is not rounded. -/
theorem roundHalfEven_of_dvd {den : Nat} (h : 0 < den) (n : Nat) :
    roundHalfEven (n * den) den = n := by
  simp [roundHalfEven, h]

namespace Binary64

/-- A quotient is made a number by its value: a common factor does not count. -/
theorem ofRatio_mul_left (negative : Bool) {k : Nat} (hk : 0 < k) (num den : Nat) :
    ofRatio negative (k * num) (k * den) = ofRatio negative num den := by
  simp only [ofRatio, Nat.mul_assoc, Nat.mul_div_mul_left _ _ hk, roundHalfEven_mul_left hk]

/-- Quotients of the same value are rounded to the same number. -/
theorem ofRatio_eq_of_mul_eq (negative : Bool) {num den num' den' : Nat} (hDen : 0 < den)
    (hDen' : 0 < den') (h : num * den' = num' * den) :
    ofRatio negative num den = ofRatio negative num' den' := by
  calc ofRatio negative num den = ofRatio negative (den' * num) (den' * den) :=
        (ofRatio_mul_left negative hDen' num den).symm
    _ = ofRatio negative (den * num') (den * den') := by
        rw [Nat.mul_comm den' num, h, Nat.mul_comm num' den, Nat.mul_comm den' den]
    _ = ofRatio negative num' den' := ofRatio_mul_left negative hDen num' den'

/-- A number is made of its sign, its exponent and its fraction. -/
theorem ofParts_fields (x : Binary64) :
    ofParts x.isNegative (x.exponentField * Nat.pow 2 52 + x.fraction) = x := by
  obtain ⟨bits⟩ := x
  have hBits := bits.toNat_lt
  have hParts : (if isNegative ⟨bits⟩ then Nat.pow 2 63 else 0) +
      (exponentField ⟨bits⟩ * Nat.pow 2 52 + fraction ⟨bits⟩) = bits.toNat := by
    simp only [isNegative, exponentField, fraction, Nat.pow_eq, Nat.reducePow, decide_eq_true_eq]
      at hBits ⊢
    split <;> omega
  rw [ofParts, hParts, UInt64.ofNat_toNat]

theorem fraction_lt (x : Binary64) : x.fraction < Nat.pow 2 52 :=
  Nat.mod_lt _ (Nat.two_pow_pos 52)

/-- The significand of a number and the power of two that its step has. -/
theorem magnitude_eq_significand (x : Binary64) :
    ∃ p significand, x.magnitude = significand * Nat.pow 2 p ∧
      p * Nat.pow 2 52 + significand = x.exponentField * Nat.pow 2 52 + x.fraction ∧
      p = Nat.log2 x.magnitude - 52 := by
  have hFraction := x.fraction_lt
  by_cases hExponent : x.exponentField = 0
  · refine ⟨0, x.fraction, by simp [magnitude, hExponent], by simp [hExponent], ?_⟩
    rw [magnitude, if_pos hExponent]
    by_cases hZero : x.fraction = 0
    · simp [hZero]
    · have := (Nat.log2_lt hZero).2 hFraction
      omega
  · refine ⟨x.exponentField - 1, Nat.pow 2 52 + x.fraction, by rw [magnitude, if_neg hExponent],
      ?_, ?_⟩
    · obtain ⟨e, he⟩ := Nat.exists_eq_succ_of_ne_zero hExponent
      rw [he]
      simp only [Nat.succ_eq_add_one, Nat.add_sub_cancel]
      ring
    · rw [magnitude, if_neg hExponent]
      generalize x.exponentField - 1 = p
      have hLog : Nat.log2 ((Nat.pow 2 52 + x.fraction) * Nat.pow 2 p) = 52 + p := by
        have hPower : 0 < 2 ^ p := Nat.two_pow_pos p
        have hSome : (Nat.pow 2 52 + x.fraction) * Nat.pow 2 p ≠ 0 :=
          Nat.mul_ne_zero (by simp) hPower.ne'
        rw [Nat.log2_eq_iff hSome, pow_succ, pow_add]
        simp only [Nat.pow_eq] at hFraction ⊢
        constructor
        · exact Nat.mul_le_mul_right _ (Nat.le_add_right _ _)
        · rw [Nat.mul_right_comm]
          exact Nat.mul_lt_mul_of_pos_right (by omega) hPower
      rw [hLog, Nat.add_sub_cancel_left]

/-- The greatest exponent is that of no finite number. -/
theorem exponentField_lt_of_isFinite {x : Binary64} (h : x.isFinite = true) :
    x.exponentField < 2047 := by
  have hBound : x.exponentField < 2048 := Nat.mod_lt _ (by decide)
  have hNot : x.exponentField ≠ 2047 := by simpa [isFinite] using h
  omega

/-- A finite number is the nearest to its own quantity. -/
theorem ofRatio_magnitude {x : Binary64} (h : x.isFinite = true) :
    ofRatio x.isNegative x.magnitude unitsOfOne = x := by
  obtain ⟨p, significand, hMagnitude, hFields, hp⟩ := x.magnitude_eq_significand
  have hBelow : x.exponentField * Nat.pow 2 52 + x.fraction ≤ 2047 * Nat.pow 2 52 := by
    have hExponent := exponentField_lt_of_isFinite h
    have hFraction := x.fraction_lt
    simp only [Nat.pow_eq, Nat.reducePow] at hFraction ⊢
    omega
  have hRounded : roundHalfEven (x.magnitude * unitsOfOne) (unitsOfOne * Nat.pow 2 p) =
      significand := by
    rw [Nat.mul_comm x.magnitude, roundHalfEven_mul_left unitsOfOne_pos, hMagnitude,
      Nat.pow_eq, roundHalfEven_of_dvd (Nat.two_pow_pos p)]
  rw [ofRatio, Nat.mul_div_cancel _ unitsOfOne_pos, ← hp]
  simp only [hRounded, hFields, Nat.min_eq_left hBelow]
  exact ofParts_fields x

end Binary64

end CaseMatch
