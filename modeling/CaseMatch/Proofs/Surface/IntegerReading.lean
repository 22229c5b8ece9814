import CaseMatch.Proofs.Surface.LexSafety
import CaseMatch.Proofs.Surface.PatternDerivation
import CaseMatch.Regex.Compile

/-!
Integers as they are written. A sign and a run of digits, however long, are read as the integer that
they denote if it has 64 bits, and are refused as a whole otherwise. What stands behind goes on with
them only if it is a point with a digit behind it, so that the sign of a range never does.
-/

namespace CaseMatch.Surface

open Decimal (IsRun signText)

/-- The integer that a sign and digits denote. -/
def written (negative : Bool) (digits : List Char) : ℤ :=
  if negative then -(Nat.ofDigitChars 10 digits 0 : ℤ) else Nat.ofDigitChars 10 digits 0

/-- An integer as it is written, with a sign or without one. -/
def writtenText (negative : Bool) (digits : List Char) : String :=
  String.ofList (signText negative ++ digits)

/-- What does not go on with a whole number: no digit, and no point with a digit behind it. -/
def EndsWhole (behind : List UInt8) : Prop :=
  (∀ b ∈ behind.head?, isDigit b = false) ∧
    ∀ places, behind = 46 :: places → startsWithDigit places = false

section

variable {negative : Bool} {digits : List Char} {behind : List UInt8}

/-- A sign and digits are written byte by byte. -/
theorem bytesOf_writtenText (hDigits : IsRun digits) :
    bytesOf (writtenText negative digits) = signBytes negative ++ digits.map byteOf :=
  bytesOf_signed String.toList_ofList fun c hc => (isDigit_byteOf (hDigits.2 c hc)).1

/-- Reading a text with a sign and digits in it gives the integer that is written, if it has 64
bits. -/
theorem int64OfText?_writtenText (hDigits : IsRun digits) :
    int64OfText? (writtenText negative digits) = int64OfInt? (written negative digits) := by
  rw [int64OfText?, writtenText, String.toList_ofList, Decimal.readInt?_signText _ hDigits,
    Decimal.digitsValue_eq_ofDigitChars]
  rfl

/-- An integer is shown as it can be written. -/
theorem exists_writtenText (n : ℤ) : ∃ negative digits, IsRun digits ∧
    toString n = writtenText negative digits ∧ n = written negative digits := by
  refine ⟨decide (n < 0), Nat.toDigits 10 n.natAbs, Decimal.isRun_toDigits _, ?_, ?_⟩
  · rw [← String.toList_inj, toList_toString_int, writtenText, String.toList_ofList]
  · rw [written, Nat.ofDigitChars_ten_toDigits]
    rcases lt_or_ge n 0 with h | h
    · rw [if_pos (decide_eq_true h)]
      omega
    · rw [if_neg (by simpa using h)]
      omega

theorem int64OfInt?_toInt (n : Int64) : int64OfInt? n.toInt = some n := by
  have hLower := n.le_toInt
  have hUpper := n.toInt_lt
  rw [int64OfInt?, if_pos (by omega), Int64.ofInt_toInt]

/-- A number that is written ends where its digits do, unless a digit or a point with a digit stands
behind it. -/
theorem numberLength_writtenText (hDigits : IsRun digits) (hBehind : EndsWhole behind) :
    numberLength (bytesOf (writtenText negative digits) ++ behind) =
      ((bytesOf (writtenText negative digits)).length, false) := by
  rw [bytesOf_writtenText hDigits, List.append_assoc,
    numberLength_whole (isDigits_of_isRun hDigits) hBehind.1 hBehind.2, List.length_append]

/-- An integer that has 64 bits is read as a lexeme of its own. -/
theorem begins_writtenText (hDigits : IsRun digits) (hBehind : EndsWhole behind) {n : Int64}
    (hn : n.toInt = written negative digits) :
    Begins (.integer n) (bytesOf (writtenText negative digits)) behind := by
  refine begins_integer (isDigits_of_isRun hDigits) (bytesOf_writtenText hDigits) hBehind.1
    hBehind.2 ?_
  rw [int64OfText?_writtenText hDigits, ← hn, int64OfInt?_toInt]

/-- An integer that does not have 64 bits is at fault as a whole. -/
theorem lexFrom_writtenText_fault (hDigits : IsRun digits) (hBehind : EndsWhole behind)
    (hBeyond : ¬(-2 ^ 63 ≤ written negative digits ∧ written negative digits ≤ 2 ^ 63 - 1))
    (offset : ℕ) :
    lexFrom offset (bytesOf (writtenText negative digits) ++ behind) =
      .error (.here offset (bytesOf (writtenText negative digits)).length
        "Failed to parse integer") := by
  -- The number is found first and is converted then, which is what fails.
  have hNone : int64OfText? (writtenText negative digits) = none := by
    rw [int64OfText?_writtenText hDigits, int64OfInt?, if_neg]
    omega
  have hNumber : number (bytesOf (writtenText negative digits) ++ behind) = _ :=
    number_of_whole (numberLength_writtenText hDigits hBehind)
  rw [Walk.integerToken?, hNone] at hNumber
  have hBegins : signBytes negative ++ digits.map byteOf <+:
      bytesOf (writtenText negative digits) := by rw [bytesOf_writtenText hDigits]
  obtain ⟨b, body, hOwn, hBlank, hZero, hRule⟩ :=
    token_of_signed (isDigits_of_isRun hDigits) hBegins behind
  rw [hNumber] at hRule
  rw [hOwn] at hRule ⊢
  exact lexFrom_fault hBlank hZero hRule offset

end

/-! ### Ranges -/

/-- What stands between the bounds of a range. -/
def rangeSignText (inclusive : Bool) : String := if inclusive then "..=" else ".."

/-- No integer begins with an equals sign, so that the sign of a range ends where one begins. -/
theorem begins_rangeSign (negative : Bool) {digits : List Char} (hDigits : IsRun digits)
    (inclusive : Bool) :
    Begins (rangeSign inclusive) (bytesOf (rangeSignText inclusive))
      (bytesOf (writtenText negative digits)) := by
  have hNoEquals : (bytesOf (writtenText negative digits)).head? ≠ some 61 := by
    rw [bytesOf_writtenText hDigits]
    obtain ⟨b, rest, hBytes, hFirst, -⟩ := isDigits_of_isRun hDigits
    rw [hBytes]
    cases negative with
    | true => simp [signBytes]
    | false =>
        rintro ⟨⟩
        cases hFirst
  cases inclusive with
  | true => exact TokenForm.inclusiveRange.begins
  | false => exact (TokenForm.exclusiveRange hNoEquals).begins

/-- No digit begins the sign of a range, and no digit stands behind its first point. -/
theorem endsWhole_rangeSign (inclusive : Bool) (behind : List UInt8) :
    EndsWhole (bytesOf (rangeSignText inclusive) ++ behind) := by
  cases inclusive with
  | true => exact ⟨by rintro _ ⟨⟩; rfl, by rintro _ ⟨⟩; rfl⟩
  | false => exact ⟨by rintro _ ⟨⟩; rfl, by rintro _ ⟨⟩; rfl⟩

theorem endsWhole_nil : EndsWhole [] := ⟨nofun, nofun⟩

/-- Two integers with the sign of a range between them are read as the pattern of the range. -/
theorem readPattern_of_range [RegexEngine] {start last : Int64} {inclusive : Bool} {l m n : Lexeme}
    (hStart : l.token = .integer start) (hSign : m.token = rangeSign inclusive)
    (hLast : n.token = .integer last) (stop : ℕ) :
    readPattern stop [l, m, n] = .ok (.ofRange ⟨start, last, inclusive⟩) := by
  refine readPattern_eq_ok_iff.2 ⟨.range ⟨start, last, inclusive⟩, by simp, ?_, rfl⟩
  refine (item_eq_ok_iff (by simp [hStart])).2 ⟨_, ⟨[], by simp⟩, ?_, naming_of_stops stops_nil⟩
  rw [primary_of_plain (by simp [hStart]) (by simp [hStart])]
  exact (plain_eq_ok_iff_of_range hStart hSign).2 ⟨n, last, rfl, hLast, rfl⟩

/-- A range is read with the bounds that are written, however they are written. -/
theorem parsePattern_writtenRange [RegexEngine] {negative negative' : Bool}
    {digits digits' : List Char} (hDigits : IsRun digits) (hDigits' : IsRun digits')
    {start last : Int64} (hStart : start.toInt = written negative digits)
    (hLast : last.toInt = written negative' digits') (inclusive : Bool) :
    parsePattern (writtenText negative digits ++ rangeSignText inclusive ++
      writtenText negative' digits') = .ok (.ofRange ⟨start, last, inclusive⟩) := by
  have hBeginsLast := begins_writtenText hDigits' endsWhole_nil hLast
  have hBeginsSign := begins_rangeSign negative' hDigits' inclusive
  have hBeginsStart := begins_writtenText hDigits
    (endsWhole_rangeSign inclusive (bytesOf (writtenText negative' digits'))) hStart
  have hLex : ∃ spans : Span × Span × Span,
      lex (writtenText negative digits ++ rangeSignText inclusive ++
        writtenText negative' digits') = .ok [⟨.integer start, spans.1⟩,
          ⟨rangeSign inclusive, spans.2.1⟩, ⟨.integer last, spans.2.2⟩] := by
    rw [lex, bytesOf_append, bytesOf_append, List.append_assoc, lexFrom_of_begins hBeginsStart,
      lexFrom_of_begins hBeginsSign, ← List.append_nil (bytesOf (writtenText negative' digits')),
      lexFrom_of_begins hBeginsLast, lexFrom_nil]
    exact ⟨(_, _, _), rfl⟩
  obtain ⟨spans, hLex⟩ := hLex
  exact parsePattern_eq_ok_iff.2 ⟨_, hLex, readPattern_of_range rfl rfl rfl _⟩

/-- Integers are read exactly. However many digits there are, zeros in front among them, and
whatever stands behind that is no digit nor a point with a digit behind it: the lexeme at the place
of a sign and digits is the integer that they denote, or they are at fault where it does not have 64
bits. The range between any two integers is read with these bounds, also as it is shown, as a
pattern of just the values that the range contains. -/
theorem integers_read_exactly [RegexEngine] :
    (∀ (negative : Bool) (digits : List Char) (behind : List UInt8) (offset : ℕ),
      IsRun digits → EndsWhole behind →
      let own := bytesOf (writtenText negative digits)
      (-2 ^ 63 ≤ written negative digits ∧ written negative digits ≤ 2 ^ 63 - 1 →
        ∃ n : Int64, n.toInt = written negative digits ∧
          lexFrom offset (own ++ behind) = (lexFrom (offset + own.length) behind).map
            (⟨.integer n, ⟨offset, offset + own.length⟩⟩ :: ·)) ∧
      (¬(-2 ^ 63 ≤ written negative digits ∧ written negative digits ≤ 2 ^ 63 - 1) →
        lexFrom offset (own ++ behind) =
          .error (.unlexable ⟨offset, own.length, "Failed to parse integer"⟩))) ∧
    (∀ (negative negative' : Bool) (digits digits' : List Char) (r : NumberRange),
      IsRun digits → IsRun digits' → r.start.toInt = written negative digits →
      r.stop.toInt = written negative' digits' →
      parsePattern (writtenText negative digits ++ rangeSignText r.inclusive ++
        writtenText negative' digits') = .ok (.ofRange r)) ∧
    (∀ r : NumberRange, parsePattern r.text = .ok (.ofRange r)) ∧
    ∀ (r : NumberRange) (v : Value) (b : Bindings),
      (Pattern.ofRange r).test v = .ok b ↔ r.contains v = true ∧ b = .empty := by
  refine ⟨?_, ?_, ?_, fun r v b => Pattern.test_ofPredicate_eq_ok_iff⟩
  · intro negative digits behind offset hDigits hBehind
    refine ⟨fun hWithin => ?_, fun hBeyond => lexFrom_writtenText_fault hDigits hBehind hBeyond _⟩
    have hValue : (Int64.ofInt (written negative digits)).toInt = written negative digits :=
      Int64.toInt_ofInt_of_le (by omega) (by omega)
    exact ⟨_, hValue, lexFrom_of_begins (begins_writtenText hDigits hBehind hValue) offset⟩
  · intro negative negative' digits digits' r hDigits hDigits' hStart hStop
    exact parsePattern_writtenRange hDigits hDigits' hStart hStop r.inclusive
  · intro r
    obtain ⟨negative, digits, hDigits, hText, hStart⟩ := exists_writtenText r.start.toInt
    obtain ⟨negative', digits', hDigits', hText', hStop⟩ := exists_writtenText r.stop.toInt
    rw [NumberRange.text, hText, hText']
    exact parsePattern_writtenRange hDigits hDigits' hStart hStop r.inclusive

/-- Zeros in front of a number, the first integer that is too great, and the least one there is. -/
theorem integers_read_exactly_atLimits :
    letI := Regex.standard
    (∃ n : Int64, n.toInt = -7 ∧
      lexFrom 3 (bytesOf "-007" ++ bytesOf "..=9") = (lexFrom 7 (bytesOf "..=9")).map
        (⟨.integer n, ⟨3, 7⟩⟩ :: ·)) ∧
    lexFrom 0 (bytesOf "9223372036854775808" ++ bytesOf ".") =
      .error (.unlexable ⟨0, 19, "Failed to parse integer"⟩) ∧
    parsePattern "-9223372036854775808..007" = .ok (.ofRange ⟨Int64.minValue, 7, false⟩) ∧
    (Pattern.ofRange ⟨Int64.minValue, 7, false⟩).test (.integer 6) = .ok .empty := by
  let := Regex.standard
  have hZeros : IsRun "007".toList :=
    ⟨by decide +kernel, List.all_eq_true.1 (by decide +kernel)⟩
  have hGreat : IsRun "9223372036854775808".toList :=
    ⟨by decide +kernel, List.all_eq_true.1 (by decide +kernel)⟩
  have hSign : EndsWhole (bytesOf "..=9") := endsWhole_rangeSign true [57]
  have hPoint : EndsWhole (bytesOf ".") := ⟨by rintro _ ⟨⟩; rfl, by rintro _ ⟨⟩; rfl⟩
  have hSeven : writtenText true "007".toList = "-007" := by decide +kernel
  have hBeyond : writtenText false "9223372036854775808".toList = "9223372036854775808" := by
    decide +kernel
  have hRange : writtenText true "9223372036854775808".toList ++ rangeSignText false ++
      writtenText false "007".toList = "-9223372036854775808..007" := by decide +kernel
  have hLengths : (bytesOf "-007").length = 4 ∧ (bytesOf "9223372036854775808").length = 19 := by
    decide +kernel
  obtain ⟨hRead, hRanges, -, hAccepts⟩ := integers_read_exactly
  refine ⟨?_, ?_, ?_, (hAccepts _ _ _).2 ⟨by decide, rfl⟩⟩
  · have hWithin := (hRead true _ _ 3 hZeros hSign).1 (by decide +kernel)
    rw [hSeven, hLengths.1] at hWithin
    exact hWithin
  · have hFault := (hRead false _ _ 0 hGreat hPoint).2 (by decide +kernel)
    rw [hBeyond, hLengths.2] at hFault
    exact hFault
  · rw [← hRange]
    exact hRanges true false _ _ ⟨Int64.minValue, 7, false⟩ hGreat hZeros (by decide +kernel)
      (by decide +kernel)

end CaseMatch.Surface
