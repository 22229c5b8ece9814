import CaseMatch.Proofs.Number.ShortestDecimal
import Mathlib.Data.List.TakeWhile

/-!
Numbers and their texts. An integer is read back from its text, and so is a binary number that is
plain, whose text has digits on both sides of a point.
-/

namespace CaseMatch

namespace Decimal

/-- The sign that a number is written with. -/
def signText (negative : Bool) : List Char := if negative then ['-'] else []

/-- A run of digits that is not empty. -/
def IsRun (digits : List Char) : Prop := digits ≠ [] ∧ ∀ c ∈ digits, c.isDigit = true

theorem isRun_toDigits (n : ℕ) : IsRun (Nat.toDigits 10 n) :=
  ⟨Nat.toDigits_ne_nil, fun _ h => Nat.isDigit_of_mem_toDigits (by decide) (by decide) h⟩

theorem digitsValue_eq_ofDigitChars (digits : List Char) :
    digitsValue digits = Nat.ofDigitChars 10 digits 0 := by
  simp only [digitsValue, Nat.ofDigitChars, Nat.mul_comm]

theorem digitsValue_toDigits (n : ℕ) : digitsValue (Nat.toDigits 10 n) = n := by
  rw [digitsValue_eq_ofDigitChars, Nat.ofDigitChars_ten_toDigits]

/-- Zeros at the end multiply by a power of ten. -/
theorem digitsValue_append_zeros (digits : List Char) (n : ℕ) :
    digitsValue (digits ++ List.replicate n '0') = 10 ^ n * digitsValue digits := by
  simp only [digitsValue_eq_ofDigitChars, Nat.ofDigitChars_append, Nat.ofDigitChars_replicate_zero]

/-- Zeros at the front do not count. -/
theorem digitsValue_zeros_append (n : ℕ) (digits : List Char) :
    digitsValue (List.replicate n '0' ++ digits) = digitsValue digits := by
  simp only [digitsValue_eq_ofDigitChars, Nat.ofDigitChars_append, Nat.ofDigitChars_replicate_zero,
    Nat.mul_zero]

section reading

variable (negative : Bool) {whole places : List Char}

/-- A sign is told from the digits behind it. -/
theorem splitSign_signText (h : IsRun whole) (behind : List Char) :
    splitSign (signText negative ++ (whole ++ behind)) = (negative, whole ++ behind) := by
  cases negative with
  | true => rfl
  | false =>
      cases whole with
      | nil => exact absurd rfl h.1
      | cons c rest =>
          have hDigit : c.isDigit = true := h.2 c (by simp)
          simp only [signText, Bool.false_eq_true, if_false, List.nil_append, List.cons_append]
          unfold splitSign
          split <;> simp_all

/-- Digits behind a sign are read as an integer. -/
theorem readInt?_signText (h : IsRun whole) :
    readInt? (signText negative ++ whole) =
      some (if negative then -(digitsValue whole : ℤ) else digitsValue whole) := by
  have hSplit := splitSign_signText negative h []
  rw [List.append_nil] at hSplit
  have hAll : whole.all Char.isDigit = true := List.all_eq_true.2 h.2
  have hSome : whole.isEmpty = false := by simpa using h.1
  simp [readInt?, hSplit, hAll, hSome]

/-- Digits around a point are read as their digits together, with an exponent that counts those
behind the point. -/
theorem read?_pointed (hWhole : IsRun whole) (hPlaces : IsRun places) :
    read? (signText negative ++ (whole ++ '.' :: places)) =
      some ⟨negative, digitsValue (whole ++ places), -(places.length : ℤ)⟩ := by
  have hTake : (whole ++ '.' :: places).takeWhile Char.isDigit = whole := by
    rw [List.takeWhile_append_of_pos hWhole.2, List.takeWhile_cons_of_neg (by decide),
      List.append_nil]
  have hDrop : (whole ++ '.' :: places).dropWhile Char.isDigit = '.' :: places := by
    rw [List.dropWhile_append_of_pos hWhole.2, List.dropWhile_cons_of_neg (by decide)]
  have hTakePlaces : places.takeWhile Char.isDigit = places :=
    List.takeWhile_eq_self_iff.2 hPlaces.2
  have hDropPlaces : places.dropWhile Char.isDigit = [] := List.dropWhile_eq_nil_iff.2 hPlaces.2
  have hSome : whole.isEmpty = false := by simpa using hWhole.1
  simp [read?, splitSign_signText negative hWhole, hTake, hDrop, hTakePlaces, hDropPlaces, hSome,
    readExponent?]

end reading

end Decimal

/-! ### Integers -/

/-- An integer is written as its sign and the digits of its absolute value. -/
theorem toList_toString_int (n : ℤ) :
    (toString n).toList = Decimal.signText (decide (n < 0)) ++ Nat.toDigits 10 n.natAbs := by
  cases n with
  | ofNat m =>
      change m.repr.toList = _
      simp [Decimal.signText]
  | negSucc m =>
      change ("-" ++ m.succ.repr).toList = _
      simp [Decimal.signText]

/-- A 64-bit integer is read back from its text. -/
theorem int64OfText?_toString (n : Int64) : int64OfText? (toString n.toInt) = some n := by
  have hLower := n.le_toInt
  have hUpper := n.toInt_lt
  rw [int64OfText?, toList_toString_int, Decimal.readInt?_signText _ (Decimal.isRun_toDigits _),
    Decimal.digitsValue_toDigits]
  have hValue : (if decide (n.toInt < 0) then -(n.toInt.natAbs : ℤ) else n.toInt.natAbs) =
      n.toInt := by
    rcases lt_or_ge n.toInt 0 with h | h
    · rw [if_pos (by simpa using h)]
      omega
    · rw [if_neg (by simpa using h)]
      omega
  rw [hValue, Option.bind_some, int64OfInt?, if_pos (by omega), Int64.ofInt_toInt]

/-! ### Plain numbers -/

namespace Binary64

open Decimal

/-- Digits and a point among them: there are digits on both sides, and the quantity is that of the
digits with the point where it was asked for. -/
theorem positional_eq {digits : List Char} (h : IsRun digits) (point : ℤ) :
    ∃ whole places, positional digits point = whole ++ '.' :: places ∧ IsRun whole ∧
      IsRun places ∧ (digitsValue (whole ++ places) : ℚ) * 10 ^ (-(places.length : ℤ)) =
        digitsValue digits * 10 ^ (point - digits.length) := by
  have hZeros (n : ℕ) : ∀ c ∈ List.replicate n '0', c.isDigit = true := by
    intro c hc
    rw [List.eq_of_mem_replicate hc]
    rfl
  rw [positional]
  split
  · rename_i hPoint
    refine ⟨['0'], List.replicate (-point).toNat '0' ++ digits, rfl, by simp [IsRun],
      ⟨by simp [h.1], fun c hc => (List.mem_append.1 hc).elim (hZeros _ c) (h.2 c)⟩, ?_⟩
    have hValue : digitsValue (['0'] ++ (List.replicate (-point).toNat '0' ++ digits)) =
        digitsValue digits :=
      digitsValue_zeros_append ((-point).toNat + 1) digits
    rw [hValue]
    congr 2
    rw [List.length_append, List.length_replicate]
    omega
  · split
    · rename_i hPoint hLong
      refine ⟨digits ++ List.replicate (point.toNat - digits.length) '0', ['0'], by simp,
        ⟨by simp [h.1], fun c hc => (List.mem_append.1 hc).elim (h.2 c) (hZeros _ c)⟩,
        by simp [IsRun], ?_⟩
      have hPower : point - digits.length = ((point.toNat - digits.length : ℕ) : ℤ) := by omega
      have hValue :
          digitsValue (digits ++ List.replicate (point.toNat - digits.length) '0' ++ ['0']) =
            10 * (10 ^ (point.toNat - digits.length) * digitsValue digits) := by
        rw [← digitsValue_append_zeros digits]
        exact digitsValue_append_zeros _ 1
      rw [hValue, hPower, zpow_natCast]
      push_cast
      norm_num
      ring
    · rename_i hPoint hShort
      refine ⟨digits.take point.toNat, digits.drop point.toNat, rfl,
        ⟨?_, fun c hc => h.2 c (List.mem_of_mem_take hc)⟩,
        ⟨?_, fun c hc => h.2 c (List.mem_of_mem_drop hc)⟩, ?_⟩
      · rw [Ne, List.take_eq_nil_iff]
        exact fun hNil => hNil.elim (by omega) h.1
      · rw [Ne, List.drop_eq_nil_iff]
        omega
      · have hPower : -((digits.drop point.toNat).length : ℤ) = point - digits.length := by
          rw [List.length_drop]
          omega
        rw [List.take_append_drop, hPower]

/-- A number without magnitude is a zero of its sign. -/
theorem zero_of_magnitude {x : Binary64} (h : x.magnitude = 0) : zero x.isNegative = x := by
  obtain ⟨p, significand, hMagnitude, hFields, hp⟩ := x.magnitude_eq_significand
  have hNone : p = 0 := by simp [hp, h]
  have hSignificand : significand = 0 := by simpa [h, hNone] using hMagnitude.symm
  have hRest : x.exponentField * Nat.pow 2 52 + x.fraction = 0 := by
    rw [← hFields, hNone, hSignificand]
  have hParts := x.ofParts_fields
  rwa [hRest] at hParts

/-- The place of the point in a decimal number that is plain. -/
theorem point_bounds {d : Decimal} (h : Plain d.quantity) :
    -3 ≤ ((Nat.toDigits 10 d.digits).length : ℤ) + d.exponent ∧
      ((Nat.toDigits 10 d.digits).length : ℤ) + d.exponent ≤ 16 := by
  have hDigits := digits_pos_of_quantity_pos h.moderate.pos
  have hLength := Nat.length_toDigits_pos (b := 10) (n := d.digits)
  constructor
  · have hBelow : d.digits < 10 ^ (Nat.toDigits 10 d.digits).length :=
      (Nat.length_toDigits_le_iff (by decide) hLength).1 (Nat.le_refl _)
    have := (zpow_lt_zpow_iff_right₀ (by norm_num)).1
      (lt_of_le_of_lt h.1 (Decimal.quantity_lt_pow hBelow))
    omega
  · have hAtLeast : 10 ^ ((Nat.toDigits 10 d.digits).length - 1) ≤ d.digits := by
      by_contra hLess
      rcases Nat.eq_zero_or_pos ((Nat.toDigits 10 d.digits).length - 1) with hOne | hMore
      · rw [hOne] at hLess
        omega
      · have := (Nat.length_toDigits_le_iff (by decide) hMore).2 (Nat.lt_of_not_le hLess)
        omega
    have := (zpow_lt_zpow_iff_right₀ (by norm_num)).1
      (lt_of_le_of_lt (Decimal.pow_le_quantity hAtLeast) h.2)
    omega

/-- A text that is read as a decimal number is read as what that number is rounded to. -/
theorem ofText?_of_read? {text : String} {d : Decimal} (h : read? text.toList = some d) :
    ofText? text = some d.toBinary64 := by
  rw [ofText?, h]

/-- A plain number is written with digits on both sides of a point, and is read back. -/
theorem text_plain {x : Binary64} (h : x.IsPlain) :
    ∃ whole places, IsRun whole ∧ IsRun places ∧
      x.text.toList = signText x.isNegative ++ (whole ++ '.' :: places) ∧
        ofText? x.text = some x := by
  have hFinite := h.isFinite
  have hNumber := isNaN_of_isFinite hFinite
  by_cases hZero : x.magnitude = 0
  · have hText : x.text.toList = signText x.isNegative ++ (['0'] ++ '.' :: ['0']) := by
      simp [text, hNumber, hFinite, shortest, hZero, signText, positional]
    refine ⟨['0'], ['0'], by simp [IsRun], by simp [IsRun], hText, ?_⟩
    rw [ofText?_of_read? (hText ▸ read?_pointed _ (by simp [IsRun]) (by simp [IsRun]))]
    exact congrArg some (zero_of_magnitude hZero)
  · obtain ⟨hSign, hRead, hPlain⟩ := shortest_reads hZero h
    obtain ⟨hPointLower, hPointUpper⟩ := point_bounds hPlain
    have hDigits := digits_pos_of_quantity_pos hPlain.moderate.pos
    obtain ⟨whole, places, hPositional, hWhole, hPlaces, hQuantity⟩ :=
      positional_eq (isRun_toDigits x.shortest.digits)
        ((Nat.toDigits 10 x.shortest.digits).length + x.shortest.exponent)
    have hText : x.text.toList = signText x.isNegative ++ (whole ++ '.' :: places) := by
      simp [text, hNumber, hFinite, hDigits.ne', hPointLower, hPointUpper, hPositional, signText]
    refine ⟨whole, places, hWhole, hPlaces, hText, ?_⟩
    rw [ofText?_of_read? (hText ▸ read?_pointed _ hWhole hPlaces)]
    refine congrArg some (Eq.trans ?_ hRead)
    rw [digitsValue_toDigits, add_sub_cancel_left] at hQuantity
    have hSame :
        Decimal.quantity ⟨x.isNegative, digitsValue (whole ++ places), -(places.length : ℤ)⟩ =
          x.shortest.quantity := hQuantity
    exact toBinary64_congr hSign.symm hSame (hSame ▸ hPlain.moderate)

end Binary64

end CaseMatch
