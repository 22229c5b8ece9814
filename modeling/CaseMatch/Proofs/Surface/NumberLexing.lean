import CaseMatch.Proofs.Number.DecimalText
import CaseMatch.Proofs.Surface.Lexing

/-!
Texts of numbers are read as numbers, where no word, number or point follows.
-/

namespace CaseMatch.Surface

/-- The bytes of a sign. -/
def signBytes (negative : Bool) : List UInt8 := if negative then [45] else []

/-- How long a number is whose digits before the point end here, and whether it has a point. -/
def lengthFrom (whole : Nat) : List UInt8 → Nat × Bool
  | b :: places =>
    if charOf b = '.' ∧ startsWithDigit places then (whole + 1 + digitsLength places, true)
    else (whole, false)
  | [] => (whole, false)

/-- The bytes of a run of digits that is not empty. -/
def IsDigits (bytes : List UInt8) : Prop :=
  ∃ b rest, bytes = b :: rest ∧ isDigit b = true ∧ ∀ c ∈ rest, isDigit c = true

theorem Isolated.isDigit {behind : List UInt8} (h : Isolated behind) :
    ∀ b ∈ behind.head?, isDigit b = false := fun b hb =>
  Bool.eq_false_iff.2 fun hDigit =>
    Bool.eq_false_iff.1 (h b hb).1 (isWordPart_iff.2 (.inr hDigit))

section numbers

variable {negative : Bool} {digits places behind : List UInt8}

theorem digitsLength_append (h : IsDigits digits)
    (hBehind : ∀ b ∈ behind.head?, isDigit b = false) :
    digitsLength (digits ++ behind) = digits.length := by
  obtain ⟨b, rest, rfl, hFirst, hRest⟩ := h
  rw [digitsLength, takeWhile_append_eq_left (List.forall_mem_cons.2 ⟨hFirst, hRest⟩) hBehind]

theorem numberLength_append (h : IsDigits digits)
    (hBehind : ∀ b ∈ behind.head?, isDigit b = false) :
    numberLength (signBytes negative ++ (digits ++ behind)) =
      lengthFrom ((signBytes negative).length + digits.length) behind := by
  have hLength := digitsLength_append h hBehind
  have hDrop : (digits ++ behind).drop digits.length = behind := by simp
  cases negative with
  | true =>
      have hMinus : charOf 45 = '-' := rfl
      simp only [signBytes, if_true, List.singleton_append, numberLength, if_pos hMinus,
        List.drop_succ_cons, List.drop_zero, hLength, Nat.add_comm 1, hDrop, List.length_singleton]
      cases behind <;> rfl
  | false =>
      obtain ⟨b, rest, rfl, hFirst, -⟩ := h
      have hNumber := isDigit_iff.1 hFirst
      have hPlus : charOf b ≠ '-' := charOf_ne (Nat.lt_of_lt_of_le (by decide : _ < 48) hNumber.1)
      simp only [signBytes, Bool.false_eq_true, if_false, List.nil_append, numberLength]
      rw [List.cons_append] at hLength hDrop ⊢
      simp only [if_neg hPlus, List.drop_zero, hLength, Nat.zero_add, hDrop, List.length_nil]
      cases behind <;> rfl

/-- A number ends behind its digits, where no point with a digit follows. -/
theorem numberLength_whole (h : IsDigits digits)
    (hBehind : ∀ b ∈ behind.head?, isDigit b = false)
    (hPoint : ∀ places, behind = 46 :: places → startsWithDigit places = false) :
    numberLength (signBytes negative ++ (digits ++ behind)) =
      ((signBytes negative).length + digits.length, false) := by
  rw [numberLength_append h hBehind]
  cases behind with
  | nil => rfl
  | cons b behind =>
      rw [lengthFrom, if_neg]
      rintro ⟨hPointByte, hStarts⟩
      have hb : b = 46 := byte_of_charOf hPointByte
      rw [hPoint behind (by rw [hb])] at hStarts
      cases hStarts

/-- A number with a point ends behind the digits that follow the point. -/
theorem numberLength_point (h : IsDigits digits) (hPlaces : IsDigits places)
    (hBehind : ∀ b ∈ behind.head?, isDigit b = false) :
    numberLength (signBytes negative ++ (digits ++ 46 :: (places ++ behind))) =
      ((signBytes negative).length + digits.length + 1 + places.length, true) := by
  have hPoint : ∀ b ∈ (46 :: (places ++ behind)).head?, isDigit b = false := by
    rintro b ⟨⟩
    rfl
  have hStarts : startsWithDigit (places ++ behind) = true := by
    obtain ⟨b, rest, rfl, hFirst, -⟩ := hPlaces
    exact hFirst
  rw [numberLength_append h hPoint, lengthFrom, if_pos ⟨rfl, hStarts⟩,
    digitsLength_append hPlaces hBehind]

/-- Bytes that begin as a number are read by the rule for numbers, wherever the number ends. -/
theorem token_of_signed {own : List UInt8} (h : IsDigits digits)
    (hBegins : signBytes negative ++ digits <+: own) (behind : List UInt8) :
    ∃ b body, own = b :: body ∧ isBlank b = false ∧ b ≠ 0 ∧
      token b (body ++ behind) = number (own ++ behind) >>= fun t =>
        .ok (t, (numberLength (own ++ behind)).1) := by
  have hStarts : ∃ b body, own = b :: body ∧ 32 < b.toNat ∧ isWordStart b = false ∧
      (isDigit b = true ∨ charOf b = '-' ∧ startsWithDigit (body ++ behind) = true) := by
    obtain ⟨more, rfl⟩ := hBegins
    obtain ⟨b, rest, rfl, hFirst, -⟩ := h
    cases negative with
    | true => exact ⟨45, b :: rest ++ more, rfl, by decide, rfl, .inr ⟨rfl, hFirst⟩⟩
    | false =>
        have hDigit := isDigit_iff.1 hFirst
        refine ⟨b, rest ++ more, rfl, by omega, ?_, .inl hFirst⟩
        rw [Bool.eq_false_iff, Ne, isWordStart_iff]
        omega
  obtain ⟨b, body, rfl, hGreat, hWord, hNumeric⟩ := hStarts
  refine ⟨b, body, rfl, isBlank_of_lt hGreat, ne_zero_of_lt hGreat, ?_⟩
  rw [token, if_neg (by simp [hWord]), if_pos hNumeric]
  rfl

/-- A text that begins as a number and is all that is taken for one is read as the number that it
stands for. -/
theorem begins_number {text : String} {hasPoint : Bool} {t : Token} (h : IsDigits digits)
    (hBegins : signBytes negative ++ digits <+: bytesOf text)
    (hLength : numberLength (bytesOf text ++ behind) = ((bytesOf text).length, hasPoint))
    (hToken : (if hasPoint then (Binary64.ofText? text).map Token.float
      else (int64OfText? text).map .integer) = some t) : Begins t (bytesOf text) behind := by
  have hNumber : number (bytesOf text ++ behind) = .ok t := by
    rw [number, hLength]
    dsimp only
    rw [List.take_left, slice_bytesOf]
    cases hasPoint <;> obtain ⟨n, hn, rfl⟩ := Option.map_eq_some_iff.1 hToken <;>
      simp [bind, Except.bind, hn]
  obtain ⟨b, body, hText, hBlank, hZero, hRule⟩ := token_of_signed h hBegins behind
  refine ⟨b, body, hText, hBlank, hZero, ?_⟩
  rw [hRule, hNumber, hLength]
  rfl

/-- Digits that stand for a 64-bit integer are read as this integer. -/
theorem begins_integer {text : String} {n : Int64} (h : IsDigits digits)
    (hBytes : bytesOf text = signBytes negative ++ digits)
    (hBehind : ∀ b ∈ behind.head?, isDigit b = false)
    (hPoint : ∀ places, behind = 46 :: places → startsWithDigit places = false)
    (hValue : int64OfText? text = some n) : Begins (.integer n) (bytesOf text) behind := by
  have hLength : numberLength (bytesOf text ++ behind) = ((bytesOf text).length, false) := by
    rw [hBytes, List.append_assoc, numberLength_whole h hBehind hPoint, List.length_append]
  exact begins_number h ⟨[], by rw [hBytes, List.append_nil]⟩ hLength (by rw [hValue]; rfl)

/-- Digits around a point are read as the number that they stand for. -/
theorem begins_float {text : String} {x : Binary64} (h : IsDigits digits)
    (hPlaces : IsDigits places)
    (hBytes : bytesOf text = signBytes negative ++ (digits ++ 46 :: places))
    (hBehind : ∀ b ∈ behind.head?, isDigit b = false) (hValue : Binary64.ofText? text = some x) :
    Begins (.float x) (bytesOf text) behind := by
  have hLength : numberLength (bytesOf text ++ behind) = ((bytesOf text).length, true) := by
    rw [hBytes, List.append_assoc, List.append_assoc, List.cons_append,
      numberLength_point h hPlaces hBehind]
    simp only [List.length_append, List.length_cons, Prod.mk.injEq, and_true]
    omega
  exact begins_number h ⟨46 :: places, by rw [hBytes, List.append_assoc]⟩ hLength
    (by rw [hValue]; rfl)

theorem isDigits_of_isRun {run : List Char} (h : Decimal.IsRun run) :
    IsDigits (run.map byteOf) := by
  obtain ⟨hSome, hAll⟩ := h
  cases run with
  | nil => exact absurd rfl hSome
  | cons c run =>
      refine ⟨byteOf c, run.map byteOf, rfl, (isDigit_byteOf (hAll c (by simp))).2, ?_⟩
      rintro _ hb
      obtain ⟨d, hd, rfl⟩ := List.mem_map.1 hb
      exact (isDigit_byteOf (hAll d (List.mem_cons_of_mem c hd))).2

/-- The bytes of a text with a sign are those of its sign and of what follows. -/
theorem bytesOf_signed {text : String} {body : List Char}
    (h : text.toList = Decimal.signText negative ++ body) (hBody : ∀ c ∈ body, c.toNat < 128) :
    bytesOf text = signBytes negative ++ body.map byteOf := by
  rw [bytesOf_of_ascii, h]
  · cases negative <;> rfl
  · rw [h]
    intro c hc
    rcases List.mem_append.1 hc with hSign | hRest
    · cases negative with
      | true => simp_all [Decimal.signText]
      | false => simp [Decimal.signText] at hSign
    · exact hBody c hRest

/-- An integer is read from its text. -/
theorem lexes_integer (n : Int64) (hBehind : Isolated behind) :
    Lexes (bytesOf (toString n.toInt)) [.integer n] behind := by
  have hRun := Decimal.isRun_toDigits n.toInt.natAbs
  have hBytes := bytesOf_signed (toList_toString_int n.toInt) fun c hc =>
    (isDigit_byteOf (hRun.2 c hc)).1
  refine .of_begins (begins_integer (isDigits_of_isRun hRun) hBytes hBehind.isDigit ?_
    (int64OfText?_toString n))
  rintro places rfl
  exact absurd rfl (hBehind 46 rfl).2

/-- A plain number is read from its text. -/
theorem lexes_float {x : Binary64} (h : x.IsPlain) (hBehind : Isolated behind) :
    Lexes (bytesOf x.text) [.float x] behind := by
  obtain ⟨whole, places, hWhole, hPlaces, hText, hRead⟩ := Binary64.text_plain h
  have hBytes : bytesOf x.text = signBytes x.isNegative ++
      (whole.map byteOf ++ 46 :: places.map byteOf) := by
    rw [bytesOf_signed hText, List.map_append, List.map_cons]
    · rfl
    · intro c hc
      simp only [List.mem_append, List.mem_cons] at hc
      rcases hc with hc | rfl | hc
      · exact (isDigit_byteOf (hWhole.2 c hc)).1
      · decide
      · exact (isDigit_byteOf (hPlaces.2 c hc)).1
  exact .of_begins (begins_float (isDigits_of_isRun hWhole) (isDigits_of_isRun hPlaces) hBytes
    hBehind.isDigit hRead)

end numbers

end CaseMatch.Surface
