import CaseMatch.Proofs.Surface.WalkPieces

/-!
Lexing is safe. The walk over a text ends wherever the cursor is, and comes to what the rules for
the bytes there say; it never does what it may not. What a rule reports is about some bytes of the
text.
-/

namespace CaseMatch.Surface

open Walk

variable {code : String} {α : Type}

/-! ### Numbers -/

section tokens

variable {start : Nat} {b : UInt8} {rest own behind : List UInt8}

/-- What is made of the text of a number. -/
def numberOr (length : Nat) (failed : String) : Option Token → Except Fault Token
  | some t => .ok t
  | none => .error (.here 0 length failed)

/-- A number with a point is read from its text, which is what the lexer has found to be one. -/
theorem number_of_point {text : String}
    (hLength : numberLength (bytesOf text ++ behind) = ((bytesOf text).length, true)) :
    number (bytesOf text ++ behind) = numberOr (bytesOf text).length "Failed to parse float"
      (floatToken? text) := by
  rw [number, hLength]
  dsimp only
  rw [List.take_left, slice_bytesOf]
  cases hText : Binary64.ofText? text <;> simp [bind, Except.bind, numberOr, floatToken?, hText]

theorem number_of_whole {text : String}
    (hLength : numberLength (bytesOf text ++ behind) = ((bytesOf text).length, false)) :
    number (bytesOf text ++ behind) = numberOr (bytesOf text).length "Failed to parse integer"
      (integerToken? text) := by
  rw [number, hLength]
  dsimp only
  rw [List.take_left, slice_bytesOf]
  cases hText : int64OfText? text <;> simp [bind, Except.bind, numberOr, integerToken?, hText]

/-- A walk that comes to the end of a number follows the rule for numbers. -/
theorem follows_readUpTo (hBytes : (bytesOf code).drop start = own ++ behind) (hSome : own ≠ [])
    (hAscii : ∀ b ∈ own, b.toNat < 128) {denotes : String → Option Token} {failed : String}
    {m : Walk Token}
    (hWalk : ∀ r, Ends (readUpTo code start denotes failed) (start + own.length) r → Ends m start r)
    {x : Except Fault Token}
    (hRule : ∀ text, bytesOf text = own → x = numberOr own.length failed (denotes text)) :
    Follows code m start (x >>= fun t => .ok (t, own.length)) := by
  cases own with
  | nil => exact absurd rfl hSome
  | cons c body =>
      have hStart := (isBoundary_of_ascii hBytes (hAscii c List.mem_cons_self)).1
      have hStop := isBoundary_in_run hBytes hStart hAscii (Nat.le_refl _)
      obtain ⟨text, hText, hCut⟩ := ends_cutText hBytes hStart hStop
      rw [hRule text hText]
      cases hDenotes : denotes text with
      | some t =>
          refine .read (n := body.length) (hWalk _ ?_)
          refine .bind (ends_place _) (.bind (hCut _) (.bind (ends_stepBack _) ?_))
          rw [hDenotes]
          exact ends_pure _ _
      | none =>
          refine .reported (Nat.succ_pos _) hStop.le (hWalk _ ?_)
          refine .bind (ends_place _) (.bind (hCut _) (.bind (ends_stepBack _) ?_))
          rw [hDenotes]
          have hReport : Ends (report start (start + body.length + 1) failed : Walk Token) _ _ :=
            ends_report _ _ _ (start + body.length)
          rw [Nat.add_assoc, Nat.add_sub_cancel_left] at hReport
          exact .bind (ends_place _) hReport

/-- The walk passes over the sign of a number if there is one. -/
theorem ends_skipSign {negative : Bool} {digits : List UInt8} (hDigits : IsDigits digits)
    (hBytes : (bytesOf code).drop start = signBytes negative ++ (digits ++ behind)) :
    Ends (skipSign code) start (.ok ((), start + (signBytes negative).length)) := by
  refine .bind (ends_peek hBytes 0) ?_
  cases negative with
  | true => exact ends_move 1 _
  | false =>
      obtain ⟨d, rest, rfl, hFirst, -⟩ := hDigits
      have hNumber := isDigit_iff.1 hFirst
      have hPlain : charOf d ≠ '-' :=
        charOf_ne (Nat.lt_of_lt_of_le (by decide : _ < 48) hNumber.1)
      show Ends (if charOf d = '-' then move 1 else pure ()) _ _
      rw [if_neg hPlain]
      exact ends_pure _ _

/-- A number comes to what it comes to behind its first digits. -/
theorem ends_readNumber {negative : Bool} {digits : List UInt8} (hDigits : IsDigits digits)
    (hBytes : (bytesOf code).drop start = signBytes negative ++ (digits ++ behind))
    (hEnd : ∀ b ∈ behind.head?, isDigit b = false) {r : WalkResult Token}
    (hOn : Ends (readPlaces code start (behind[0]?.getD 0) (behind[1]?.getD 0))
      (start + (signBytes negative ++ digits).length) r) : Ends (readNumber code) start r := by
  have hSigned := drop_add hBytes
  have hBehind := drop_add hSigned
  rw [List.length_append, ← Nat.add_assoc] at hOn
  exact .bind (ends_place _) (.bind (ends_skipSign hDigits hBytes)
    (.bind (ends_skipDigits hSigned hDigits hEnd)
      (.bind (ends_peek hBehind 0) (.bind (ends_peek hBehind 1) hOn))))

theorem charOf_next (bytes : List UInt8) :
    charOf (bytes[0]?.getD 0) = (bytes.head?.map charOf).getD '\x00' := by
  cases bytes <;> rfl

theorem isDigit_next (bytes : List UInt8) :
    isDigit (bytes[0]?.getD 0) = startsWithDigit bytes := by
  cases bytes <;> rfl

/-- A number without a point ends behind its first digits. -/
theorem follows_whole {negative : Bool} {digits : List UInt8} (hDigits : IsDigits digits)
    (hBytes : (bytesOf code).drop start = signBytes negative ++ (digits ++ behind))
    (hEnd : ∀ b ∈ behind.head?, isDigit b = false)
    (hNoPoint : ∀ places, behind = 46 :: places → startsWithDigit places = false)
    (hAscii : ∀ b ∈ signBytes negative ++ digits, b.toNat < 128) :
    Follows code (readNumber code) start (number (signBytes negative ++ digits ++ behind) >>=
      fun t => .ok (t, (numberLength (signBytes negative ++ digits ++ behind)).1)) := by
  have hLength : numberLength (signBytes negative ++ digits ++ behind) =
      ((signBytes negative ++ digits).length, false) := by
    rw [List.append_assoc, numberLength_whole hDigits hEnd hNoPoint, List.length_append]
  have hNot : ¬(charOf (behind[0]?.getD 0) = '.' ∧ isDigit (behind[1]?.getD 0) = true) := by
    rintro ⟨hPoint, hDigit⟩
    rw [charOf_next] at hPoint
    obtain ⟨places, rfl⟩ := exists_next hPoint (by decide)
    rw [List.getElem?_cons_succ, isDigit_next, hNoPoint places rfl] at hDigit
    cases hDigit
  have hWalk (r : WalkResult Token)
      (h : Ends (readUpTo code start integerToken? "Failed to parse integer")
        (start + (signBytes negative ++ digits).length) r) :
      Ends (readNumber code) start r := by
    apply ends_readNumber hDigits hBytes hEnd
    rwa [readPlaces, if_neg hNot]
  have hSome : signBytes negative ++ digits ≠ [] := by
    obtain ⟨d, rest, rfl, -⟩ := hDigits
    simp
  rw [← List.append_assoc] at hBytes
  rw [hLength]
  refine follows_readUpTo hBytes hSome hAscii hWalk fun text hText => ?_
  rw [← hText] at hLength ⊢
  exact number_of_whole hLength

/-- A number with a point ends behind the digits that the point has behind it. -/
theorem follows_point {negative : Bool} {digits places : List UInt8} (hDigits : IsDigits digits)
    (hPlaces : IsDigits places)
    (hBytes : (bytesOf code).drop start =
      signBytes negative ++ (digits ++ 46 :: (places ++ behind)))
    (hEnd : ∀ b ∈ behind.head?, isDigit b = false)
    (hAscii : ∀ b ∈ signBytes negative ++ (digits ++ 46 :: places), b.toNat < 128) :
    Follows code (readNumber code) start
      (number (signBytes negative ++ (digits ++ 46 :: places) ++ behind) >>= fun t =>
        .ok (t, (numberLength (signBytes negative ++ (digits ++ 46 :: places) ++ behind)).1)) := by
  have hSplit : signBytes negative ++ (digits ++ 46 :: (places ++ behind)) =
      signBytes negative ++ (digits ++ 46 :: places) ++ behind := by simp
  have hLength : numberLength (signBytes negative ++ (digits ++ 46 :: places) ++ behind) =
      ((signBytes negative ++ (digits ++ 46 :: places)).length, true) := by
    rw [← hSplit, numberLength_point hDigits hPlaces hEnd]
    simp only [List.length_append, List.length_cons]
    congr 1
    omega
  have hWalk (r : WalkResult Token)
      (h : Ends (readUpTo code start floatToken? "Failed to parse float")
        (start + (signBytes negative ++ (digits ++ 46 :: places)).length) r) :
      Ends (readNumber code) start r := by
    apply ends_readNumber hDigits hBytes (by rintro _ ⟨⟩; rfl)
    have hFront : (bytesOf code).drop (start + (signBytes negative ++ digits).length) =
        [46] ++ (places ++ behind) := by
      apply drop_add
      rw [hBytes, List.append_assoc, List.singleton_append]
    have hAfter := drop_add hFront
    have hStop : start + (signBytes negative ++ (digits ++ 46 :: places)).length =
        start + (signBytes negative ++ digits).length + 1 + places.length := by
      simp only [List.length_append, List.length_cons]
      omega
    obtain ⟨d, more, rfl, hFirst, -⟩ := id hPlaces
    rw [readPlaces, if_pos ⟨rfl, hFirst⟩]
    refine .bind (ends_move 1 _) (.bind (ends_skipDigits hAfter hPlaces hEnd) ?_)
    rwa [← hStop]
  rw [hSplit] at hBytes
  rw [hLength]
  refine follows_readUpTo hBytes (by simp) hAscii hWalk fun text hText => ?_
  rw [← hText] at hLength ⊢
  exact number_of_point hLength

/-- A number, with a point in it or without one. -/
theorem follows_number (hBytes : (bytesOf code).drop start = b :: rest)
    (hNumeric : isDigit b = true ∨ charOf b = '-' ∧ startsWithDigit rest = true) :
    Follows code (readNumber code) start
      (number (b :: rest) >>= fun t => .ok (t, (numberLength (b :: rest)).1)) := by
  obtain ⟨negative, digits, behind, hSplit, hDigits, hEnd⟩ := exists_signed hNumeric
  rw [hSplit] at hBytes ⊢
  by_cases hPoint : ∃ places, behind = 46 :: places ∧ startsWithDigit places = true
  · obtain ⟨places, rfl, hStarts⟩ := hPoint
    obtain ⟨places, behind, rfl, hPlaces, hEnd⟩ := exists_digits hStarts
    have hFollows := follows_point hDigits hPlaces hBytes hEnd (List.forall_mem_append.2
      ⟨signBytes_forall_lt negative, List.forall_mem_append.2 ⟨hDigits.forall_lt,
        List.forall_mem_cons.2 ⟨by decide, hPlaces.forall_lt⟩⟩⟩)
    simpa using hFollows
  · have hNoPoint : ∀ places, behind = 46 :: places → startsWithDigit places = false := by
      intro places hBehind
      by_contra hStarts
      exact hPoint ⟨places, hBehind, by simpa using hStarts⟩
    rw [← List.append_assoc]
    exact follows_whole hDigits hBytes hEnd hNoPoint
      (List.forall_mem_append.2 ⟨signBytes_forall_lt negative, hDigits.forall_lt⟩)

/-- What is made of a value that a walk reads follows what is made of a value that the rule
gives. -/
theorem Follows.map {m : Walk α} {x : Except Fault (α × Nat)} (h : Follows code m start x)
    (make : α → Token) : Follows code (m >>= fun a => pure (make a)) start
      (x >>= fun (a, n) => .ok (make a, n)) := by
  cases h with
  | read ends => exact .read (.bind ends (ends_pure _ _))
  | reported nonempty within ends => exact .reported nonempty within ends.bind_error

/-- A rule for the bytes behind the first. -/
def behindOne (make : α → Token) : Except Fault (α × Nat) → Except Fault (Token × Nat)
  | .ok (a, n) => .ok (make a, n + 1)
  | .error fault => .error (fault.shift 1)

/-- A walk behind the first byte follows a rule for the bytes behind it. -/
theorem Follows.behindOne {m : Walk α} {x : Except Fault (α × Nat)}
    (h : Follows code m (start + 1) x) (make : α → Token) :
    Follows code (move 1 >>= fun _ => m >>= fun a => pure (make a)) start
      (behindOne make x) := by
  cases h with
  | @read a n ends =>
      rw [Nat.add_assoc, Nat.add_comm 1] at ends
      exact .read (.bind (ends_move 1 _) (.bind ends (ends_pure _ _)))
  | @reported label nonempty within ends =>
      rw [Nat.add_assoc start] at within ends
      exact .reported nonempty within (.bind (ends_move 1 _) ends.bind_error)

/-- A report of the byte at which the walk stands is within the text. -/
theorem follows_report (hBytes : (bytesOf code).drop start = b :: rest) (message : String) :
    Follows code (report start (start + 1) message : Walk α) start
      (.error (.here 0 1 message)) := by
  have hSize := length_of_drop hBytes (List.cons_ne_nil _ _)
  have hReport : Ends (report start (start + 1) message : Walk α) start _ := ends_report _ _ _ _
  rw [Nat.add_sub_cancel_left] at hReport
  refine .reported Nat.zero_lt_one ?_ hReport
  show start + 0 + 1 ≤ _
  rw [← hSize, List.length_cons]
  omega

/-- What a colon begins. -/
theorem follows_symbol (hBytes : (bytesOf code).drop start = b :: rest) :
    Follows code (readSymbol code start (rest[0]?.getD 0)) start (symbolToken rest) := by
  cases rest with
  | nil => exact follows_report hBytes _
  | cons c rest =>
      have hNext : (bytesOf code).drop (start + 1) = c :: rest := drop_succ hBytes
      rw [List.getElem?_cons_zero, Option.getD_some, readSymbol, symbolToken]
      dsimp only
      split
      · rename_i hSlash
        obtain rfl : c = 47 := byte_of_charOf hSlash
        have hQuoted := (follows_enclosed hNext (by decide) (by decide)).behindOne Token.symbolRegex
        generalize enclosed 47 47 rest = x at hQuoted ⊢
        rcases x with fault | ⟨source, n⟩ <;> exact hQuoted
      · split
        · rename_i hQuote
          obtain rfl : c = 34 := byte_of_charOf hQuote
          have hQuoted := (follows_enclosed hNext (by decide) (by decide)).behindOne Token.symbol
          generalize enclosed 34 34 rest = x at hQuoted ⊢
          rcases x with fault | ⟨name, n⟩ <;> exact hQuoted
        · split
          · rename_i hStart
            obtain ⟨name, n, hSlice, hLength, hEnds⟩ := ends_readWord hNext hStart
            have hWord : Follows code (readMatching code matchesWord) (start + 1)
                (.ok (name, n + 1)) := .read hEnds
            rw [hSlice, hLength]
            exact hWord.behindOne _
          · exact follows_report hBytes _

theorem follows_step {m : Walk Unit} {n : Nat} (h : Ends m start (.ok ((), start + n)))
    (t : Token) : Follows code (m >>= fun _ => pure t) start (.ok (t, n + 1)) :=
  .read (.bind h (ends_pure _ _))

theorem follows_pure (t : Token) : Follows code (pure t) start (.ok (t, 1)) :=
  .read (n := 0) (ends_pure _ _)

/-- The characters that a token begins with, those of words and numbers apart. -/
def openers : List Char :=
  ['"', '/', ':', '\x7b', '\x7d', '[', ']', ',', '@', '*', '=', '.']

/-- No rule of the lexer is for a text that begins with these bytes. -/
structure NoRule (b : UInt8) (rest : List UInt8) : Prop where
  word : ¬isWordStart b = true
  number : ¬(isDigit b = true ∨ charOf b = '-' ∧ startsWithDigit rest = true)
  opener : charOf b ∉ openers

/-- A byte that no rule is for is an unexpected character. -/
theorem NoRule.token_eq (h : NoRule b rest) :
    token b rest = .error (.here 0 1 ("Unexpected character " ++ quotedChar (charOf b))) := by
  have hOpener := h.opener
  rw [token, if_neg h.word, if_neg h.number]
  generalize charOf b = c at hOpener ⊢
  split
  case h_13 => rfl
  all_goals exact absurd (by decide) hOpener

/-- The walk reports a byte that no rule is for. -/
theorem NoRule.readToken_eq (h : NoRule b rest) :
    readToken code start b (rest[0]?.getD 0) (rest[1]?.getD 0) =
      report start (start + 1) ("Unexpected character " ++ quotedChar (charOf b)) := by
  have hOpener := h.opener
  rw [readToken, isDigit_next, if_neg h.word, if_neg h.number]
  generalize charOf b = c at hOpener ⊢
  split
  case h_13 => rfl
  all_goals exact absurd (by decide) hOpener

/-- What begins with a letter is a word, whatever token the word is. -/
theorem follows_word (hBytes : (bytesOf code).drop start = b :: rest)
    (hStart : isWordStart b = true) :
    Follows code (readToken code start b (rest[0]?.getD 0) (rest[1]?.getD 0)) start
      (token b rest) := by
  obtain ⟨word, n, hSlice, hLength, hEnds⟩ := ends_readWord hBytes hStart
  have hWord : Follows code (readMatching code matchesWord) start (.ok (word, n + 1)) :=
    .read hEnds
  rw [token, readToken, if_pos hStart, if_pos hStart]
  dsimp only
  rw [hSlice, hLength]
  exact hWord.map _

/-- What begins with one of the characters that open a token. -/
theorem follows_opener (hBytes : (bytesOf code).drop start = b :: rest)
    (hStart : ¬isWordStart b = true)
    (hNumeric : ¬(isDigit b = true ∨ charOf b = '-' ∧ startsWithDigit rest = true))
    (hOpener : charOf b ∈ openers) :
    Follows code (readToken code start b (rest[0]?.getD 0) (rest[1]?.getD 0)) start
      (token b rest) := by
  have hAfterNext : (rest.drop 1)[0]? = rest[1]? := List.getElem?_drop
  rw [token, readToken, isDigit_next rest, if_neg hStart, if_neg hStart, if_neg hNumeric,
    if_neg hNumeric, ← charOf_next rest, ← charOf_next (rest.drop 1), hAfterNext]
  generalize hc : charOf b = c at hOpener
  simp only [openers, List.mem_cons, List.not_mem_nil, or_false] at hOpener
  rcases hOpener with rfl | rfl | rfl | rfl | rfl | rfl | rfl | rfl | rfl | rfl | rfl | rfl
  · obtain rfl : b = 34 := byte_of_charOf hc
    exact (follows_enclosed hBytes (by decide) (by decide)).map _
  · obtain rfl : b = 47 := byte_of_charOf hc
    exact (follows_enclosed hBytes (by decide) (by decide)).map _
  · exact follows_symbol hBytes
  -- the tokens of one byte
  iterate 7 · exact follows_pure _
  · show Follows code (if _ then _ else _) start (if _ then _ else _)
    split
    · exact follows_step (ends_move 1 _) _
    · exact follows_report hBytes _
  · show Follows code (if _ then _ else _) start (if _ then _ else _)
    split
    · split
      · exact follows_step (ends_move 2 _) _
      · exact follows_step (ends_move 1 _) _
    · exact follows_report hBytes _

/-- Each token is read by the rule for the bytes at its start. -/
theorem follows_token (hBytes : (bytesOf code).drop start = b :: rest) :
    Follows code (readToken code start b (rest[0]?.getD 0) (rest[1]?.getD 0)) start
      (token b rest) := by
  by_cases hStart : isWordStart b = true
  · exact follows_word hBytes hStart
  by_cases hNumeric : isDigit b = true ∨ charOf b = '-' ∧ startsWithDigit rest = true
  · rw [token, readToken, isDigit_next rest, if_neg hStart, if_neg hStart, if_pos hNumeric,
      if_pos hNumeric]
    exact follows_number hBytes hNumeric
  by_cases hOpener : charOf b ∈ openers
  · exact follows_opener hBytes hStart hNumeric hOpener
  · have hNone : NoRule b rest := ⟨hStart, hNumeric, hOpener⟩
    rw [hNone.token_eq, hNone.readToken_eq]
    exact follows_report hBytes _

end tokens

/-! ### The whole text -/

section rounds

variable {i start : Nat} {b : UInt8} {bytes rest : List UInt8} {before : List Lexeme}
  {r : WalkResult (List Lexeme ⊕ List Lexeme)}

/-- A round that finds no byte, or a zero byte, is the last. -/
theorem ends_lexRound_done (before : List Lexeme)
    (hBytes : (bytesOf code).drop (i + (((bytesOf code).drop i).takeWhile isBlank).length) = bytes)
    (hZero : bytes[0]?.getD 0 = 0) :
    Ends (lexRound code before) i
      (.ok (.inr before, i + (((bytesOf code).drop i).takeWhile isBlank).length)) := by
  refine .bind (ends_skipBlanks i) (.bind (ends_place _) (.bind (ends_peek hBytes 0) ?_))
  rw [if_pos hZero]
  exact ends_pure _ _

/-- A round that finds another byte comes to what the lexeme there comes to. -/
theorem ends_lexRound (before : List Lexeme)
    (hStart : i + (((bytesOf code).drop i).takeWhile isBlank).length = start)
    (hBytes : (bytesOf code).drop start = b :: rest) (hb : b ≠ 0)
    (hOn : Ends (addLexeme code before start b) start r) : Ends (lexRound code before) i r := by
  subst hStart
  refine .bind (ends_skipBlanks i) (.bind (ends_place _) (.bind (ends_peek hBytes 0) ?_))
  rw [List.getElem?_cons_zero, Option.getD_some, if_neg hb]
  exact hOn

/-- A token that is read is added to the lexemes before, and the cursor goes on behind it. -/
theorem ends_addLexeme (hBytes : (bytesOf code).drop start = b :: rest) {t : Token} {last : Nat}
    (h : Ends (readToken code start b (rest[0]?.getD 0) (rest[1]?.getD 0)) start
      (.ok (t, last))) :
    Ends (addLexeme code before start b) start
      (.ok (.inl (before ++ [⟨t, start, last + 1⟩]), last + 1)) :=
  .bind (ends_peek hBytes 1) (.bind (ends_peek hBytes 2)
    (.bind h (.bind (ends_place _) (.bind (ends_move 1 _) (ends_pure _ _)))))

theorem ends_addLexeme_error (hBytes : (bytesOf code).drop start = b :: rest) {e : Stop}
    (h : Ends (readToken code start b (rest[0]?.getD 0) (rest[1]?.getD 0)) start (.error e)) :
    Ends (addLexeme code before start b) start (.error e) :=
  .bind (ends_peek hBytes 1) (.bind (ends_peek hBytes 2) h.bind_error)

/-- From a place on the rounds of the lexer end, with the lexemes before it and those of a rule, or
with the report of a rule, which is about some bytes within the text. -/
inductive LexEnds (code : String) (before : List Lexeme) (i : Nat) :
    Except Fault (List Lexeme) → Prop where
  | lexed {ls : List Lexeme} {finish : Nat}
      (ends : Ends (loop (lexRound code) before) i (.ok (before ++ ls, finish))) :
      LexEnds code before i (.ok ls)
  | reported {label : Label} (nonempty : 0 < label.length)
      (within : label.offset + label.length ≤ code.utf8ByteSize)
      (ends : Ends (loop (lexRound code) before) i (.error (.reported label))) :
      LexEnds code before i (.error (.unlexable label))

theorem lexEnds_of_done {j : Nat} (h : Ends (lexRound code before) i (.ok (.inr before, j))) :
    LexEnds code before i (.ok []) := by
  have hEnds : Ends (loop (lexRound code) before) i (.ok (before ++ [], j)) := by
    rw [List.append_nil]
    exact h.loop_done
  exact .lexed hEnds

/-- A round with a token in it, and the rounds behind that. -/
theorem lexEnds_of_token
    (hStart : i + (((bytesOf code).drop i).takeWhile isBlank).length = start)
    (hBytes : (bytesOf code).drop start = b :: rest) (hb : b ≠ 0)
    (hOn : ∀ t n, LexEnds code (before ++ [⟨t, start, start + n + 1⟩]) (start + n + 1)
      (lexFrom (start + n + 1) ((bytesOf code).drop (start + n + 1)))) :
    LexEnds code before i (lexHere start (b :: rest)) := by
  have hFollows := follows_token hBytes
  rw [lexHere, if_neg hb]
  generalize token b rest = x at hFollows
  cases hFollows with
  | reported nonempty within ends =>
      have hRound := ends_lexRound before hStart hBytes hb (ends_addLexeme_error hBytes ends)
      exact .reported nonempty within hRound.loop_stopped
  | @read t n ends =>
      have hRound := ends_lexRound before hStart hBytes hb (ends_addLexeme hBytes ends)
      have hLeft : (b :: rest).drop (n + 1) = (bytesOf code).drop (start + n + 1) := by
        rw [← hBytes, List.drop_drop, Nat.add_assoc]
      have hBehind := hOn t n
      dsimp only
      rw [hLeft, ← Nat.add_assoc]
      generalize lexFrom (start + n + 1) _ = y at hBehind
      cases hBehind with
      | reported nonempty within ends => exact .reported nonempty within (hRound.loop_again ends)
      | lexed ends =>
          rw [List.append_assoc] at ends
          exact .lexed (hRound.loop_again ends)

/-- The rounds of the lexer end from any place on. Each begins further on than the one before, so
that fewer bytes are left. -/
theorem lexEnds (before : List Lexeme) (i : Nat) :
    LexEnds code before i (lexFrom i ((bytesOf code).drop i)) := by
  induction h : ((bytesOf code).drop i).length using Nat.strongRecOn generalizing before i with
  | ind length ih =>
      subst h
      rw [lexFrom_eq, List.drop_drop]
      generalize hStart : i + (((bytesOf code).drop i).takeWhile isBlank).length = start
      cases hBytes : (bytesOf code).drop start with
      | nil => exact lexEnds_of_done (ends_lexRound_done before (hStart ▸ hBytes) rfl)
      | cons b rest =>
          by_cases hb : b = 0
          · subst hb
            exact lexEnds_of_done (ends_lexRound_done before (hStart ▸ hBytes) rfl)
          · refine lexEnds_of_token hStart hBytes hb fun t n => ih _ ?_ _ _ rfl
            have hSome := congrArg List.length hBytes
            rw [List.length_drop, List.length_cons] at hSome
            rw [List.length_drop, List.length_drop]
            omega

end rounds

/-- Lexing a text ends, and on the way it does nothing that it may not: no piece is cut out beyond
the text or through a character, no piece is anything but a text, and the cursor does not step back
from the start. It gives the lexemes of the text, or it reports something with one label, and the
bytes that this is about are some of the text. -/
theorem lex_safe (code : String) :
    (∃ ls finish, lex code = .ok ls ∧ Ends (lexing code) 0 (.ok (ls, finish))) ∨
    ∃ label : Label, lex code = .error (.unlexable label) ∧
      Ends (lexing code) 0 (.error (.reported label)) ∧
      (Fault.unlexable label).diagnostic.labels = [label] ∧
      0 < label.length ∧ label.offset + label.length ≤ code.utf8ByteSize := by
  have hEnds : LexEnds code [] 0 (lex code) := lexEnds [] 0
  generalize lex code = x at hEnds
  cases hEnds with
  | @lexed ls finish ends => exact .inl ⟨ls, finish, rfl, ends⟩
  | @reported label nonempty within ends => exact .inr ⟨label, rfl, ends, rfl, nonempty, within⟩

/-- A longer character between quotes is cut out whole, and what is reported behind it is in its
place. -/
theorem lex_safe_of_accent :
    (∃ finish, Ends (lexing "\"\u00e9\"") 0 (.ok ([⟨.string "\u00e9", 0, 4⟩], finish))) ∧
    Ends (lexing "\"\u00e9\"=") 0 (.error (.reported ⟨4, 1, "Expected \"=>\""⟩)) := by
  have hLex : lex "\"\u00e9\"" = .ok [⟨.string "\u00e9", 0, 4⟩] := by decide +kernel
  have hFault : lex "\"\u00e9\"=" = .error (.here 4 1 "Expected \"=>\"") := by decide +kernel
  constructor
  · rcases lex_safe "\"\u00e9\"" with ⟨ls, finish, hLexed, ends⟩ | ⟨label, hReported, -⟩
    · cases hLex.symm.trans hLexed
      exact ⟨finish, ends⟩
    · cases hLex.symm.trans hReported
  · rcases lex_safe "\"\u00e9\"=" with ⟨ls, finish, hLexed, -⟩ | ⟨label, hReported, ends, -⟩
    · cases hFault.symm.trans hLexed
    · cases hFault.symm.trans hReported
      exact ends

end CaseMatch.Surface
