import CaseMatch.Proofs.Number.Quantity

/-!
The shortest decimal number for a binary one that is plain, that is, zero or neither below 10^-4
nor as great as 10^16. It reads back, and it lies within the same bounds.
-/

namespace CaseMatch.Binary64

/-- Zero, or at least 10^-4 and below 10^16. -/
def IsPlain (x : Binary64) : Prop :=
  x.magnitude = 0 ∨ unitsOfOne ≤ x.magnitude * 10 ^ 4 ∧ x.magnitude < 10 ^ 16 * unitsOfOne

/-- What is below 10^16 is finite. -/
theorem isFinite_of_magnitude_lt {x : Binary64} (h : x.magnitude < 10 ^ 16 * unitsOfOne) :
    x.isFinite = true := by
  by_contra hInfinite
  have hExponent : x.exponentField = 2047 := by simpa [isFinite] using hInfinite
  obtain ⟨l, hl, hOne⟩ := unitsOfOne_eq_pow
  have hMagnitude : Nat.pow 2 52 * Nat.pow 2 (x.exponentField - 1) ≤ x.magnitude := by
    rw [magnitude, if_neg (by omega)]
    exact Nat.mul_le_mul_right _ (Nat.le_add_right _ _)
  have hBelow : 10 ^ 16 * unitsOfOne < Nat.pow 2 52 * Nat.pow 2 (x.exponentField - 1) := by
    calc 10 ^ 16 * unitsOfOne < 2 ^ 54 * unitsOfOne :=
          Nat.mul_lt_mul_of_pos_right (by decide) unitsOfOne_pos
      _ = 2 ^ (54 + l) := by rw [hOne, Nat.pow_eq, pow_add]
      _ ≤ 2 ^ (52 + (x.exponentField - 1)) := Nat.pow_le_pow_right (by decide) (by omega)
      _ = Nat.pow 2 52 * Nat.pow 2 (x.exponentField - 1) := by
          rw [Nat.pow_eq, Nat.pow_eq, pow_add]
  omega

theorem IsPlain.isFinite {x : Binary64} (h : x.IsPlain) : x.isFinite = true := by
  refine isFinite_of_magnitude_lt ?_
  rcases h with hZero | ⟨-, hUpper⟩
  · rw [hZero]
    exact Nat.mul_pos (by decide) unitsOfOne_pos
  · exact hUpper

section bounds

variable {x : Binary64}

/-- The bounds between which numbers are written plainly are those of their quantities. -/
theorem plain_quantity (hLower : unitsOfOne ≤ x.magnitude * 10 ^ 4)
    (hUpper : x.magnitude < 10 ^ 16 * unitsOfOne) : Decimal.Plain x.quantity := by
  constructor
  · have hCast : (unitsOfOne : ℚ) ≤ 10 ^ 4 * x.magnitude := by
      rw [mul_comm]
      exact_mod_cast hLower
    rw [quantity, le_div_iff₀ unitsOfOne_cast_pos, zpow_neg, inv_mul_le_iff₀ (by positivity)]
    exact hCast
  · have hCast : (x.magnitude : ℚ) < 10 ^ 16 * unitsOfOne := by exact_mod_cast hUpper
    rw [quantity, div_lt_iff₀ unitsOfOne_cast_pos]
    exact_mod_cast hCast

end bounds

/-! ### The grid of a power of ten -/

section grid

variable {x : Binary64} {e : ℤ}

/-- A multiple of a power of ten is not above a number if its factor is not above what the number is
rounded down to on that grid. -/
theorem grid_le_iff (n : ℕ) : (n : ℚ) * 10 ^ e ≤ x.quantity ↔
    n ≤ x.magnitude * Nat.pow 10 (-e).toNat / (unitsOfOne * Nat.pow 10 e.toNat) := by
  simp only [Nat.pow_eq]
  rw [Nat.le_div_iff_mul_le (Nat.mul_pos unitsOfOne_pos (Nat.pow_pos (by decide))),
    Decimal.pow_exponent_eq_div, quantity, mul_div_assoc',
    div_le_div_iff₀ (by positivity) unitsOfOne_cast_pos, mul_right_comm, mul_assoc]
  norm_cast

/-- Both candidates on a grid lie between any points of the grid that `x` lies between. -/
theorem digits_of_mem_gridNeighbours {d : Decimal} (h : d ∈ x.gridNeighbours e) :
    d.negative = x.isNegative ∧ d.exponent = e ∧
      ∀ n : ℕ, ((n : ℚ) * 10 ^ e ≤ x.quantity → n ≤ d.digits) ∧
        (x.quantity < n * 10 ^ e → d.digits ≤ n) := by
  have hGrid (n : ℕ) := grid_le_iff (x := x) (e := e) n
  rw [gridNeighbours] at h
  generalize x.magnitude * Nat.pow 10 (-e).toNat = num at h hGrid
  generalize unitsOfOne * Nat.pow 10 e.toNat = den at h hGrid
  have hCandidate : d = ⟨x.isNegative, num / den, e⟩ ∨ d = ⟨x.isNegative, num / den + 1, e⟩ := by
    split at h
    · exact .inl (List.mem_singleton.1 h)
    · split at h
      · simpa using h
      · simpa [or_comm] using h
  rcases hCandidate with rfl | rfl
  · refine ⟨rfl, rfl, fun n => ⟨(hGrid n).1, fun hAbove => ?_⟩⟩
    rw [← not_le, hGrid] at hAbove
    exact Nat.le_of_not_le hAbove
  · refine ⟨rfl, rfl, fun n =>
      ⟨fun hBelow => Nat.le_succ_of_le ((hGrid n).1 hBelow), fun hAbove => ?_⟩⟩
    rw [← not_le, hGrid] at hAbove
    exact Nat.lt_of_not_le hAbove

/-- A power of ten on the grid separates the candidates as it separates `x`. -/
theorem quantity_of_mem_gridNeighbours {d : Decimal} (h : d ∈ x.gridNeighbours e) {k : ℤ}
    (hk : e ≤ k) : ((10 : ℚ) ^ k ≤ x.quantity → (10 : ℚ) ^ k ≤ d.quantity) ∧
      (x.quantity < (10 : ℚ) ^ k → d.quantity ≤ (10 : ℚ) ^ k) := by
  obtain ⟨-, hExponent, hDigits⟩ := digits_of_mem_gridNeighbours h
  obtain ⟨n, hn⟩ := Int.eq_ofNat_of_zero_le (Int.sub_nonneg.2 hk)
  have hPower : (10 : ℚ) ^ k = ((10 ^ n : ℕ) : ℚ) * 10 ^ e := by
    rw [Nat.cast_pow, Nat.cast_ofNat, ← zpow_natCast, ← zpow_add₀ (by norm_num)]
    congr 1
    omega
  have hStep : (0 : ℚ) < 10 ^ e := zpow_pos (by norm_num) e
  rw [hPower, Decimal.quantity, hExponent, mul_le_mul_iff_of_pos_right hStep,
    mul_le_mul_iff_of_pos_right hStep, Nat.cast_le, Nat.cast_le]
  exact hDigits _

end grid

/-! ### The shortest decimal number -/

/-- What is found as the shortest is a neighbour on a grid no coarser than the one begun with, and
reads back. -/
theorem shortestFrom_mem {x : Binary64} {e : ℤ} {fuel : ℕ} {d : Decimal}
    (h : x.shortestFrom e fuel = some d) :
    ∃ e' ≤ e, d ∈ x.gridNeighbours e' ∧ d.toBinary64 = x := by
  induction fuel generalizing e with
  | zero => cases h
  | succ fuel ih =>
      rw [shortestFrom] at h
      split at h
      · rename_i hFound
        obtain rfl := Option.some.inj h
        exact ⟨e, Int.le_refl e, List.mem_of_find?_eq_some hFound,
          by simpa using List.find?_some hFound⟩
      · obtain ⟨e', he', hMem⟩ := ih h
        exact ⟨e', by omega, hMem⟩

/-- The power of ten just above a number below 10^16 is found to be at most 10^17. -/
theorem decimalExponent_le {x : Binary64} (hSome : x.magnitude ≠ 0)
    (h : x.magnitude < 10 ^ 16 * unitsOfOne) : x.decimalExponent ≤ 17 := by
  obtain ⟨l, hl, hOne⟩ := unitsOfOne_eq_pow
  have hLog : Nat.log2 x.magnitude < 54 + l := by
    rw [Nat.log2_lt hSome, pow_add]
    rw [hOne, Nat.pow_eq] at h
    exact h.trans (Nat.mul_lt_mul_of_pos_right (by decide) (Nat.two_pow_pos l))
  rw [decimalExponent]
  split
  · omega
  · split <;> omega

/-- Written with all its places a number is exact. -/
theorem exactDecimal_quantity (x : Binary64) : x.exactDecimal.quantity = x.quantity := by
  have hPower (l : ℕ) (m : ℚ) : m * 5 ^ l * 10 ^ (-(l : ℤ)) = m / 2 ^ l := by
    rw [zpow_neg, zpow_natCast, show (10 : ℚ) = 5 * 2 by norm_num, mul_pow]
    field_simp
  obtain ⟨l, hl, hOne⟩ := unitsOfOne_eq_pow
  have hExact : x.exactDecimal = ⟨x.isNegative, x.magnitude * Nat.pow 5 l, -(l : ℤ)⟩ := by
    rw [hl]
    rfl
  rw [hExact, quantity, hOne, Decimal.quantity, Nat.pow_eq, Nat.pow_eq, Nat.cast_mul, Nat.cast_pow,
    Nat.cast_pow]
  exact hPower l x.magnitude

theorem magnitude_zero (negative : Bool) : (zero negative).magnitude = 0 := by
  cases negative <;> decide

/-- The power 10^16, where the plain numbers end, is a number exactly. -/
theorem magnitude_pow_sixteen (negative : Bool) :
    (Decimal.toBinary64 ⟨negative, 1, 16⟩).magnitude = 10 ^ 16 * unitsOfOne := by
  cases negative <;> decide +kernel

/-- A candidate that reads back lies within the bounds of the plain numbers. -/
theorem plain_of_candidate {x : Binary64} (hSome : x.magnitude ≠ 0)
    (hPlain : Decimal.Plain x.quantity) {e : ℤ} (he : e ≤ 16) {d : Decimal}
    (hMem : d ∈ x.gridNeighbours e) (hRead : d.toBinary64 = x)
    (hUpper : x.magnitude < 10 ^ 16 * unitsOfOne) : Decimal.Plain d.quantity := by
  obtain ⟨-, hExponent, -⟩ := digits_of_mem_gridNeighbours hMem
  have hAtLeast : (10 : ℚ) ^ (-4 : ℤ) ≤ d.quantity := by
    rcases lt_or_ge (-4) e with hCoarse | hFine
    · have hDigits : 0 < d.digits := by
        refine Nat.pos_of_ne_zero fun hZero => hSome ?_
        rw [← hRead, Decimal.toBinary64, if_pos (.inl hZero), magnitude_zero]
      refine le_trans ?_ (Decimal.pow_exponent_le_quantity hDigits)
      rw [hExponent]
      exact zpow_le_zpow_right₀ (by norm_num) hCoarse.le
    · exact (quantity_of_mem_gridNeighbours hMem hFine).1 hPlain.1
  have hAtMost := (quantity_of_mem_gridNeighbours hMem he).2 hPlain.2
  refine ⟨hAtLeast, lt_of_le_of_ne hAtMost fun hEq => ?_⟩
  -- 10^16 itself is a number, and not the one that is read back
  have hSame : d.toBinary64 = Decimal.toBinary64 ⟨d.negative, 1, 16⟩ :=
    Decimal.toBinary64_congr rfl (by rw [hEq]; simp [Decimal.quantity]) ⟨hAtLeast, hAtMost⟩
  have hMagnitude := magnitude_pow_sixteen d.negative
  rw [← hSame, hRead] at hMagnitude
  omega

/-- The shortest decimal number of a plain number other than zero is plain, and reads back. -/
theorem shortest_reads {x : Binary64} (hSome : x.magnitude ≠ 0) (h : x.IsPlain) :
    x.shortest.negative = x.isNegative ∧ x.shortest.toBinary64 = x ∧
      Decimal.Plain x.shortest.quantity := by
  obtain ⟨hLower, hUpper⟩ := h.resolve_left hSome
  have hPlain := plain_quantity hLower hUpper
  -- the number before its zeros at the end are dropped
  have hLong : ∃ d : Decimal, x.shortest = d.stripZeros 2000 ∧ d.negative = x.isNegative ∧
      d.toBinary64 = x ∧ Decimal.Plain d.quantity := by
    rw [shortest, if_neg hSome]
    cases hSearch : x.shortestFrom (x.decimalExponent - 1) 17 with
    | none =>
        have hQuantity := x.exactDecimal_quantity
        have hExact : Decimal.Plain x.exactDecimal.quantity := hQuantity ▸ hPlain
        exact ⟨x.exactDecimal, rfl, rfl,
          toBinary64_of_quantity_eq h.isFinite rfl hQuantity hExact.moderate, hExact⟩
    | some d =>
        obtain ⟨e, he, hMem, hRead⟩ := shortestFrom_mem hSearch
        have hExponent := decimalExponent_le hSome hUpper
        exact ⟨d, rfl, (digits_of_mem_gridNeighbours hMem).1, hRead,
          plain_of_candidate hSome hPlain (by omega) hMem hRead hUpper⟩
  obtain ⟨d, hShortest, hSign, hRead, hPlainLong⟩ := hLong
  rw [hShortest, Decimal.stripZeros_negative, Decimal.stripZeros_quantity]
  refine ⟨hSign, ?_, hPlainLong⟩
  rw [← hRead]
  exact Decimal.toBinary64_congr (by simp) (by simp) (by simpa using hPlainLong.moderate)

end CaseMatch.Binary64
