import CaseMatch.Proofs.Surface.NumberLexing

/-!
The bytes of each kind of token, and what may stand behind them. A token is read exactly where one
of these forms stands. What stands behind can keep a token from ending where it does, but nothing
behind is needed for it to end: each token is read from its own bytes alone.
-/

namespace CaseMatch.Surface

/-- The tokens of a single byte. -/
def marks : List (UInt8 × Token) :=
  [(123, .leftCurly), (125, .rightCurly), (91, .leftBracket), (93, .rightBracket), (44, .comma),
    (64, .atSign), (42, .star)]

/-- The bytes of a text between delimiters. -/
def delimitedBytes (delimiter : UInt8) (text : String) : List UInt8 :=
  delimiter :: (bytesOf text ++ [delimiter])

/-- No byte of a text ends it early where it stands between delimiters. -/
def Delimitable (delimiter : UInt8) (text : String) : Prop :=
  ∀ b ∈ bytesOf text, b ≠ delimiter ∧ b ≠ 0

/-- Some bytes are a token where others stand behind them. -/
inductive TokenForm : Token → List UInt8 → List UInt8 → Prop where
  | word {word : String} {behind : List UInt8} (isWord : IsWord (bytesOf word))
      (ends : ∀ b ∈ behind.head?, isWordPart b = false) :
      TokenForm (wordToken word) (bytesOf word) behind
  | integer {negative : Bool} {digits behind : List UInt8} {text : String} {n : Int64}
      (isDigits : IsDigits digits) (own : bytesOf text = signBytes negative ++ digits)
      (ends : ∀ b ∈ behind.head?, isDigit b = false)
      (noPoint : ∀ places, behind = 46 :: places → startsWithDigit places = false)
      (denotes : int64OfText? text = some n) : TokenForm (.integer n) (bytesOf text) behind
  | float {negative : Bool} {digits places behind : List UInt8} {text : String} {x : Binary64}
      (isDigits : IsDigits digits) (arePlaces : IsDigits places)
      (own : bytesOf text = signBytes negative ++ (digits ++ 46 :: places))
      (ends : ∀ b ∈ behind.head?, isDigit b = false)
      (denotes : Binary64.ofText? text = some x) : TokenForm (.float x) (bytesOf text) behind
  | string {text : String} {behind : List UInt8} (delimitable : Delimitable 34 text) :
      TokenForm (.string text) (delimitedBytes 34 text) behind
  | regex {source : String} {behind : List UInt8} (delimitable : Delimitable 47 source) :
      TokenForm (.regex source) (delimitedBytes 47 source) behind
  | symbol {name : String} {behind : List UInt8} (isWord : IsWord (bytesOf name))
      (ends : ∀ b ∈ behind.head?, isWordPart b = false) :
      TokenForm (.symbol name) (58 :: bytesOf name) behind
  | quotedSymbol {name : String} {behind : List UInt8} (delimitable : Delimitable 34 name) :
      TokenForm (.symbol name) (58 :: delimitedBytes 34 name) behind
  | symbolRegex {source : String} {behind : List UInt8} (delimitable : Delimitable 47 source) :
      TokenForm (.symbolRegex source) (58 :: delimitedBytes 47 source) behind
  | mark {b : UInt8} {t : Token} {behind : List UInt8} (isMark : (b, t) ∈ marks) :
      TokenForm t [b] behind
  | fatArrow {behind : List UInt8} : TokenForm .fatArrow [61, 62] behind
  | inclusiveRange {behind : List UInt8} : TokenForm .inclusiveRange [46, 46, 61] behind
  | exclusiveRange {behind : List UInt8} (ends : behind.head? ≠ some 61) :
      TokenForm .exclusiveRange [46, 46] behind

theorem not_isWordPart_of_isBlank {b : UInt8} (h : isBlank b = true) : isWordPart b = false := by
  by_contra hPart
  have hClasses := isWordPart_iff.1 (by simpa using hPart)
  rw [isWordStart_iff, isDigit_iff] at hClasses
  rw [isBlank_of_lt (by omega)] at h
  cases h

theorem not_isDigit_of_isBlank {b : UInt8} (h : isBlank b = true) : isDigit b = false :=
  (Bool.or_eq_false_iff.1 (not_isWordPart_of_isBlank h)).2

/-- Bytes that a token goes on with no more than with others: they begin as these do, or with a
blank, and no digit comes behind a point where there was none. -/
structure NoLonger (other behind : List UInt8) : Prop where
  head : ∀ b ∈ other.head?, isBlank b = true ∨ b ∈ behind.head?
  point : ∀ places, other = 46 :: places → ∃ before, behind = 46 :: before ∧
    (startsWithDigit before = false → startsWithDigit places = false)

/-- What the bytes behind a token do not go on with, the others do not go on with either, if it goes
on with no blank. -/
theorem NoLonger.ends {other behind : List UInt8} (h : NoLonger other behind) {p : UInt8 → Bool}
    (hBlank : ∀ b, isBlank b = true → p b = false) (ends : ∀ b ∈ behind.head?, p b = false) :
    ∀ b ∈ other.head?, p b = false :=
  fun b hb => (h.head b hb).elim (hBlank b) (ends b)

/-- A token is of its form also where other bytes stand behind it with which it does not go on. -/
theorem TokenForm.of_noLonger {t : Token} {own behind other : List UInt8}
    (h : TokenForm t own behind) (hOther : NoLonger other behind) : TokenForm t own other := by
  cases h with
  | word isWord ends => exact .word isWord (hOther.ends (fun _ => not_isWordPart_of_isBlank) ends)
  | integer isDigits own ends noPoint denotes =>
      refine .integer isDigits own (hOther.ends (fun _ => not_isDigit_of_isBlank) ends) ?_ denotes
      intro places hPlaces
      obtain ⟨before, hBefore, hStarts⟩ := hOther.point places hPlaces
      exact hStarts (noPoint before hBefore)
  | float isDigits arePlaces own ends denotes =>
      exact .float isDigits arePlaces own (hOther.ends (fun _ => not_isDigit_of_isBlank) ends)
        denotes
  | string delimitable => exact .string delimitable
  | regex delimitable => exact .regex delimitable
  | symbol isWord ends =>
      exact .symbol isWord (hOther.ends (fun _ => not_isWordPart_of_isBlank) ends)
  | quotedSymbol delimitable => exact .quotedSymbol delimitable
  | symbolRegex delimitable => exact .symbolRegex delimitable
  | mark isMark => exact .mark isMark
  | fatArrow => exact .fatArrow
  | inclusiveRange => exact .inclusiveRange
  | exclusiveRange ends =>
      refine .exclusiveRange fun hEquals => ?_
      rcases hOther.head 61 hEquals with hBlank | hBehind
      · cases hBlank
      · exact ends hBehind

/-- A token is of its form also where nothing stands behind it. -/
theorem TokenForm.alone {t : Token} {own behind : List UInt8} (h : TokenForm t own behind) :
    TokenForm t own [] :=
  h.of_noLonger ⟨nofun, nofun⟩

/-! ### What is read where a form stands -/

section begins

variable {behind : List UInt8}

theorem begins_delimited {delimiter : UInt8} {text : String} {make : String → Token}
    (h : Delimitable delimiter text) (hBlank : isBlank delimiter = false) (hZero : delimiter ≠ 0)
    (hToken : ∀ rest, token delimiter rest =
      enclosed delimiter delimiter rest >>= fun (text, length) => .ok (make text, length)) :
    Begins (make text) (delimitedBytes delimiter text) behind := by
  refine ⟨delimiter, bytesOf text ++ [delimiter], rfl, hBlank, hZero, ?_⟩
  rw [hToken, List.append_assoc, List.singleton_append, enclosed_append h, delimitedBytes,
    List.length_cons, List.length_append]
  rfl

theorem begins_delimitedSymbol {delimiter : UInt8} {text : String} {make : String → Token}
    (h : Delimitable delimiter text)
    (hToken : ∀ rest, symbolToken (delimiter :: rest) =
      match enclosed delimiter delimiter rest with
      | .ok (text, length) => .ok (make text, length + 1)
      | .error fault => .error (fault.shift 1)) :
    Begins (make text) (58 :: delimitedBytes delimiter text) behind := by
  refine ⟨58, delimitedBytes delimiter text, rfl, rfl, by decide, ?_⟩
  have hSymbol : symbolToken (delimitedBytes delimiter text ++ behind) =
      .ok (make text, (58 :: delimitedBytes delimiter text).length) := by
    rw [delimitedBytes, List.cons_append, hToken, List.append_assoc, List.singleton_append,
      enclosed_append h]
    simp
  exact hSymbol

/-- Bytes of the form of a token are read as the token. -/
theorem TokenForm.begins {t : Token} {own : List UInt8} (h : TokenForm t own behind) :
    Begins t own behind := by
  cases h with
  | word isWord ends => exact begins_word isWord ends
  | integer isDigits own ends noPoint denotes =>
      exact begins_integer isDigits own ends noPoint denotes
  | float isDigits arePlaces own ends denotes =>
      exact begins_float isDigits arePlaces own ends denotes
  | string delimitable => exact begins_delimited delimitable rfl (by decide) fun _ => rfl
  | regex delimitable => exact begins_delimited delimitable rfl (by decide) fun _ => rfl
  | symbol isWord ends => exact begins_symbol isWord ends
  | quotedSymbol delimitable => exact begins_delimitedSymbol delimitable fun _ => rfl
  | symbolRegex delimitable => exact begins_delimitedSymbol delimitable fun _ => rfl
  | mark isMark =>
      simp only [marks, List.mem_cons, Prod.mk.injEq, List.not_mem_nil, or_false] at isMark
      rcases isMark with ⟨rfl, rfl⟩ | ⟨rfl, rfl⟩ | ⟨rfl, rfl⟩ | ⟨rfl, rfl⟩ | ⟨rfl, rfl⟩ |
        ⟨rfl, rfl⟩ | ⟨rfl, rfl⟩ <;> exact ⟨_, [], rfl, rfl, by decide, rfl⟩
  | fatArrow => exact ⟨61, [62], rfl, rfl, by decide, rfl⟩
  | inclusiveRange => exact ⟨46, [46, 61], rfl, rfl, by decide, rfl⟩
  | exclusiveRange ends =>
      refine ⟨46, [46], rfl, rfl, by decide, ?_⟩
      have hAfter : (behind.head?.map charOf).getD '\x00' ≠ '=' := by
        cases behind with
        | nil => decide
        | cons b behind =>
            intro hEq
            exact ends (congrArg some (byte_of_charOf hEq))
      have hToken : token 46 (46 :: behind) =
          if (behind.head?.map charOf).getD '\x00' = '=' then .ok (.inclusiveRange, 3)
          else .ok (.exclusiveRange, 2) := rfl
      rw [List.singleton_append, hToken, if_neg hAfter]
      rfl

end begins

/-! ### The form of what is read -/

section read

variable {b : UInt8} {bytes rest : List UInt8} {t : Token} {n : Nat}

/-- Bytes are a text exactly if they are those of the text. -/
theorem slice_eq_ok_iff {text : String} : slice bytes = .ok text ↔ bytes = bytesOf text := by
  constructor
  · intro h
    rw [slice, textOf?, String.fromUTF8?] at h
    split at h
    · rename_i text' hText
      split at hText
      · cases hText
        cases h
        rfl
      · cases hText
    · cases h
  · rintro rfl
    exact slice_bytesOf text

/-- A run of bytes of a class, as long as it goes. -/
theorem exists_run (p : UInt8 → Bool) (bytes : List UInt8) :
    ∃ run behind, bytes = run ++ behind ∧ (∀ b ∈ run, p b = true) ∧
      (∀ b ∈ behind.head?, p b = false) ∧ bytes.takeWhile p = run := by
  refine ⟨bytes.takeWhile p, bytes.dropWhile p, List.takeWhile_append_dropWhile.symm,
    fun b hb => List.mem_takeWhile_imp hb, fun b hb => ?_, rfl⟩
  have hHead := List.head?_dropWhile_not p bytes
  rw [Option.mem_def] at hb
  simpa [hb] using hHead

theorem exists_word (h : isWordStart b = true) (rest : List UInt8) :
    ∃ own behind, b :: rest = own ++ behind ∧ IsWord own ∧
      (∀ b ∈ behind.head?, isWordPart b = false) ∧ wordLength (b :: rest) = own.length := by
  obtain ⟨run, behind, rfl, hRun, hEnds, hTaken⟩ := exists_run isWordPart rest
  refine ⟨b :: run, behind, rfl, ⟨b, run, rfl, h, hRun⟩, hEnds, ?_⟩
  rw [wordLength, if_pos h, hTaken, List.length_cons]

theorem exists_digits (h : startsWithDigit bytes = true) :
    ∃ digits behind, bytes = digits ++ behind ∧ IsDigits digits ∧
      ∀ b ∈ behind.head?, isDigit b = false := by
  cases bytes with
  | nil => cases h
  | cons b rest =>
      obtain ⟨run, behind, rfl, hRun, hEnds, -⟩ := exists_run isDigit rest
      exact ⟨b :: run, behind, rfl, ⟨b, run, rfl, h, hRun⟩, hEnds⟩

/-- A number begins with a sign or none and its digits, as many as there are. -/
theorem exists_signed (h : isDigit b = true ∨ charOf b = '-' ∧ startsWithDigit rest = true) :
    ∃ negative digits behind, b :: rest = signBytes negative ++ (digits ++ behind) ∧
      IsDigits digits ∧ ∀ b ∈ behind.head?, isDigit b = false := by
  rcases h with hDigit | ⟨hMinus, hStarts⟩
  · have hStarts : startsWithDigit (b :: rest) = true := hDigit
    obtain ⟨digits, behind, hBytes, hDigits, hEnds⟩ := exists_digits hStarts
    exact ⟨false, digits, behind, hBytes, hDigits, hEnds⟩
  · obtain ⟨digits, behind, rfl, hDigits, hEnds⟩ := exists_digits hStarts
    obtain rfl : b = 45 := byte_of_charOf hMinus
    exact ⟨true, digits, behind, rfl, hDigits, hEnds⟩

theorem exists_text_of_number {own behind : List UInt8} {hasPoint : Bool}
    (hLength : numberLength (own ++ behind) = (own.length, hasPoint))
    (h : number (own ++ behind) = .ok t) :
    ∃ text, own = bytesOf text ∧ (if hasPoint then (Binary64.ofText? text).map Token.float
      else (int64OfText? text).map .integer) = some t := by
  rw [number, hLength] at h
  dsimp only at h
  rw [List.take_left] at h
  obtain ⟨text, hText, hDenotes⟩ := bind_eq_ok_iff.1 h
  refine ⟨text, slice_eq_ok_iff.1 hText, ?_⟩
  cases hasPoint with
  | true =>
      simp only [if_true] at hDenotes ⊢
      split at hDenotes
      · rename_i hSome
        cases hDenotes
        rw [hSome]
        rfl
      · cases hDenotes
  | false =>
      simp only [Bool.false_eq_true, if_false] at hDenotes ⊢
      split at hDenotes
      · rename_i hSome
        cases hDenotes
        rw [hSome]
        rfl
      · cases hDenotes

/-- A number ends behind its digits, or behind those that a point has behind it. -/
theorem form_of_number (hNumeric : isDigit b = true ∨ charOf b = '-' ∧ startsWithDigit rest = true)
    (h : number (b :: rest) = .ok t) :
    ∃ own behind, b :: rest = own ++ behind ∧ own.length = (numberLength (b :: rest)).1 ∧
      TokenForm t own behind := by
  obtain ⟨negative, digits, behind, hBytes, hDigits, hEnds⟩ := exists_signed hNumeric
  rw [hBytes] at h ⊢
  by_cases hPoint : ∃ places, behind = 46 :: places ∧ startsWithDigit places = true
  · obtain ⟨places, rfl, hStarts⟩ := hPoint
    obtain ⟨places, behind, rfl, hPlaces, hEnds⟩ := exists_digits hStarts
    have hLength : numberLength (signBytes negative ++ (digits ++ 46 :: (places ++ behind))) = _ :=
      numberLength_point hDigits hPlaces hEnds
    rw [hLength]
    have hOwn : signBytes negative ++ (digits ++ 46 :: (places ++ behind)) =
        signBytes negative ++ (digits ++ 46 :: places) ++ behind := by simp
    have hOwnLength : (signBytes negative ++ (digits ++ 46 :: places)).length =
        (signBytes negative).length + digits.length + 1 + places.length := by
      simp only [List.length_append, List.length_cons]
      omega
    rw [hOwn] at h hLength
    rw [← hOwnLength] at hLength
    obtain ⟨text, hText, hDenotes⟩ := exists_text_of_number hLength h
    obtain ⟨x, hx, rfl⟩ := Option.map_eq_some_iff.1 hDenotes
    refine ⟨bytesOf text, behind, by rw [hOwn, hText], by rw [← hText, hOwnLength], ?_⟩
    exact .float hDigits hPlaces hText.symm hEnds hx
  · have hNoPoint : ∀ places, behind = 46 :: places → startsWithDigit places = false := by
      intro places hBehind
      by_contra hStarts
      exact hPoint ⟨places, hBehind, by simpa using hStarts⟩
    have hLength : numberLength (signBytes negative ++ (digits ++ behind)) = _ :=
      numberLength_whole hDigits hEnds hNoPoint
    rw [hLength]
    rw [← List.length_append] at hLength ⊢
    rw [← List.append_assoc] at h hLength ⊢
    obtain ⟨text, hText, hDenotes⟩ := exists_text_of_number hLength h
    obtain ⟨n, hn, rfl⟩ := Option.map_eq_some_iff.1 hDenotes
    refine ⟨bytesOf text, behind, by rw [hText], by rw [hText], ?_⟩
    exact .integer hDigits hText.symm hEnds hNoPoint hn

/-- What is taken with its delimiters has the closing one at its end. -/
theorem form_of_enclosed {delimiter opening : UInt8} {text : String} (hZero : delimiter ≠ 0)
    (h : enclosed delimiter opening rest = .ok (text, n)) :
    ∃ behind, delimiter :: rest = delimitedBytes delimiter text ++ behind ∧
      (delimitedBytes delimiter text).length = n ∧ Delimitable delimiter text := by
  obtain ⟨body, behind, rfl, hBody, -, hTaken⟩ :=
    exists_run (fun b => b != delimiter && b != 0) rest
  rw [enclosed, delimited] at h
  dsimp only at h
  rw [hTaken, List.drop_left] at h
  split at h
  · rename_i hClosed
    obtain ⟨text', hText, hResult⟩ := bind_eq_ok_iff.1 h
    cases hResult
    rw [slice_eq_ok_iff] at hText
    subst hText
    have hClosing : behind.head? = some delimiter := by simpa [hZero] using hClosed
    obtain ⟨behind, rfl⟩ := List.head?_eq_some_iff.1 hClosing
    exact ⟨behind, by simp [delimitedBytes], by simp [delimitedBytes],
      by simpa [Delimitable] using hBody⟩
  · cases h

/-- What is taken as a symbol is of the form of one: a word, or a text or an expression with its
delimiters. -/
theorem form_of_symbolToken (h : symbolToken rest = .ok (t, n)) :
    ∃ own behind, 58 :: rest = own ++ behind ∧ own.length = n ∧ TokenForm t own behind := by
  have hQuoted {delimiter : UInt8} {behind : List UInt8} {text : String} {length : Nat}
      (hZero : delimiter ≠ 0) (h : enclosed delimiter delimiter behind = .ok (text, length)) :
      ∃ behind', 58 :: delimiter :: behind = (58 :: delimitedBytes delimiter text) ++ behind' ∧
        (58 :: delimitedBytes delimiter text).length = length + 1 ∧
        Delimitable delimiter text := by
    obtain ⟨behind', hBytes, rfl, hText⟩ := form_of_enclosed hZero h
    exact ⟨behind', by rw [hBytes, List.cons_append], List.length_cons, hText⟩
  cases rest with
  | nil => cases h
  | cons b rest =>
      rw [symbolToken] at h
      dsimp only at h
      split at h
      · rename_i hSlash
        obtain rfl : b = 47 := byte_of_charOf hSlash
        split at h
        · rename_i hEnclosed
          cases h
          obtain ⟨behind, hBytes, hLength, hText⟩ := hQuoted (by decide) hEnclosed
          exact ⟨_, behind, hBytes, hLength, .symbolRegex hText⟩
        · cases h
      · split at h
        · rename_i hQuote
          obtain rfl : b = 34 := byte_of_charOf hQuote
          split at h
          · rename_i hEnclosed
            cases h
            obtain ⟨behind, hBytes, hLength, hText⟩ := hQuoted (by decide) hEnclosed
            exact ⟨_, behind, hBytes, hLength, .quotedSymbol hText⟩
          · cases h
        · split at h
          · rename_i hStart
            obtain ⟨own, behind, hBytes, hWord, hEnds, hLength⟩ := exists_word hStart rest
            obtain ⟨name, hName, hResult⟩ := bind_eq_ok_iff.1 h
            cases hResult
            rw [hLength, hBytes, List.take_left, slice_eq_ok_iff] at hName
            subst hName
            exact ⟨58 :: bytesOf name, behind, by rw [hBytes, List.cons_append],
              by rw [hLength, List.length_cons], .symbol hWord hEnds⟩
          · cases h

/-- A byte that is looked at further on and found. -/
theorem exists_next {c : Char} (h : (rest.head?.map charOf).getD '\x00' = c) (hc : c ≠ '\x00') :
    ∃ behind, rest = byteOf c :: behind := by
  cases rest with
  | nil => exact absurd h.symm hc
  | cons b behind => exact ⟨behind, by rw [byte_of_charOf h]⟩

theorem form_of_mark {c : Char} (h : charOf b = c) (hMark : (byteOf c, t) ∈ marks) :
    ∃ own behind, b :: rest = own ++ behind ∧ own.length = 1 ∧ TokenForm t own behind := by
  rw [← byte_of_charOf h] at hMark
  exact ⟨[b], rest, rfl, rfl, .mark hMark⟩

/-- What is read as a token is of its form. -/
theorem form_of_token (h : token b rest = .ok (t, n)) :
    ∃ own behind, b :: rest = own ++ behind ∧ own.length = n ∧ TokenForm t own behind := by
  rw [token] at h
  dsimp only at h
  split at h
  · rename_i hStart
    obtain ⟨own, behind, hBytes, hWord, hEnds, hLength⟩ := exists_word hStart rest
    obtain ⟨word, hSlice, hResult⟩ := bind_eq_ok_iff.1 h
    cases hResult
    rw [hLength, hBytes, List.take_left, slice_eq_ok_iff] at hSlice
    subst hSlice
    exact ⟨bytesOf word, behind, hBytes, hLength.symm, .word hWord hEnds⟩
  · split at h
    · rename_i hNumeric
      obtain ⟨t', hNumber, hResult⟩ := bind_eq_ok_iff.1 h
      cases hResult
      exact form_of_number hNumeric hNumber
    · split at h
      · rename_i hQuote
        obtain rfl : b = 34 := byte_of_charOf hQuote
        obtain ⟨⟨text, length⟩, hEnclosed, hResult⟩ := bind_eq_ok_iff.1 h
        cases hResult
        obtain ⟨behind, hBytes, hLength, hText⟩ := form_of_enclosed (by decide) hEnclosed
        exact ⟨_, behind, hBytes, hLength, .string hText⟩
      · rename_i hSlash
        obtain rfl : b = 47 := byte_of_charOf hSlash
        obtain ⟨⟨text, length⟩, hEnclosed, hResult⟩ := bind_eq_ok_iff.1 h
        cases hResult
        obtain ⟨behind, hBytes, hLength, hText⟩ := form_of_enclosed (by decide) hEnclosed
        exact ⟨_, behind, hBytes, hLength, .regex hText⟩
      · rename_i hColon
        obtain rfl : b = 58 := byte_of_charOf hColon
        exact form_of_symbolToken h
      -- the tokens of one byte
      iterate 7 · rename_i hMark; cases h; exact form_of_mark hMark (by decide)
      · rename_i hEquals
        obtain rfl : b = 61 := byte_of_charOf hEquals
        split at h
        · rename_i hNext
          cases h
          obtain ⟨behind, rfl⟩ := exists_next hNext (by decide)
          exact ⟨[61, 62], behind, rfl, rfl, .fatArrow⟩
        · cases h
      · rename_i hPoint
        obtain rfl : b = 46 := byte_of_charOf hPoint
        split at h
        · rename_i hNext
          obtain ⟨behind, rfl⟩ := exists_next hNext (by decide)
          split at h
          · rename_i hAfterNext
            cases h
            obtain ⟨behind, rfl⟩ := exists_next hAfterNext (by decide)
            exact ⟨[46, 46, 61], behind, rfl, rfl, .inclusiveRange⟩
          · rename_i hAfterNext
            cases h
            refine ⟨[46, 46], behind, rfl, rfl, .exclusiveRange fun hHead => hAfterNext ?_⟩
            have hSecond : (byteOf '.' :: behind).drop 1 = behind := rfl
            rw [hSecond, hHead]
            rfl
        · cases h
      · cases h

/-- A token is read exactly where bytes of its form stand at the front. -/
theorem token_eq_ok_iff : token b rest = .ok (t, n) ↔
    ∃ own behind, b :: rest = own ++ behind ∧ own.length = n ∧ TokenForm t own behind := by
  refine ⟨form_of_token, ?_⟩
  rintro ⟨own, behind, hBytes, rfl, hForm⟩
  obtain ⟨c, body, rfl, -, -, hToken⟩ := hForm.begins
  obtain ⟨rfl, rfl⟩ := List.cons.inj hBytes
  exact hToken

end read

end CaseMatch.Surface
