import CaseMatch.Proofs.Surface.Spans
import CaseMatch.Proofs.Surface.Walk

/-!
What a walk cuts out of a text. A piece with an ASCII byte on each side of each of its ends is
within the text and cuts no character in two, so that it is a text. Words and what stands between
delimiters are read as by the rules for their bytes.
-/

namespace CaseMatch.Surface

open Walk

variable {code : String} {α : Type}

/-! ### Boundaries -/

theorem isBoundary_iff {i : Nat} : IsBoundary code i ↔
    ∃ front back, code = front ++ back ∧ front.utf8ByteSize = i := by
  rw [IsBoundary, String.Pos.Raw.isValid_iff_exists_append]
  simp [String.Pos.Raw.ext_iff, eq_comm]

theorem IsBoundary.le {i : Nat} (h : IsBoundary code i) : i ≤ code.utf8ByteSize := by
  obtain ⟨front, back, rfl, rfl⟩ := isBoundary_iff.1 h
  rw [String.utf8ByteSize_append]
  exact Nat.le_add_right _ _

/-- On both sides of an ASCII byte no character is cut in two. -/
theorem isBoundary_of_ascii {i : Nat} {b : UInt8} {rest : List UInt8}
    (hBytes : (bytesOf code).drop i = b :: rest) (hb : b.toNat < 128) :
    IsBoundary code i ∧ IsBoundary code (i + 1) := by
  have hSplit : bytesOf code = (bytesOf code).take i ++ b :: rest := by
    rw [← hBytes, List.take_append_drop]
  have hLength : ((bytesOf code).take i).length = i := by
    have hSome := congrArg List.length hBytes
    rw [List.length_drop, List.length_cons] at hSome
    rw [List.length_take]
    omega
  obtain ⟨front, own, back, hCode, hFront, hOwn, -⟩ := exists_texts_around hb hSplit
  have hSize : front.utf8ByteSize = i := by rw [← length_bytesOf, hFront, hLength]
  have hOne : own.utf8ByteSize = 1 := by rw [← length_bytesOf, hOwn, List.length_singleton]
  refine ⟨isBoundary_iff.2 ⟨front, own ++ back, ?_, hSize⟩,
    isBoundary_iff.2 ⟨front ++ own, back, hCode, ?_⟩⟩
  · rw [hCode, String.append_assoc]
  · rw [String.utf8ByteSize_append, hSize, hOne]

/-- What stands between two boundaries is a text. -/
theorem exists_text_between {i : Nat} {own behind : List UInt8}
    (hBytes : (bytesOf code).drop i = own ++ behind) (hStart : IsBoundary code i)
    (hStop : IsBoundary code (i + own.length)) : ∃ text, bytesOf text = own := by
  obtain ⟨front, back, hCode, rfl⟩ := isBoundary_iff.1 hStart
  obtain ⟨before, after, hCode', hSize⟩ := isBoundary_iff.1 hStop
  have hBack : bytesOf back = own ++ behind := by
    rw [← hBytes, hCode, bytesOf_append, ← length_bytesOf, List.drop_left]
  have hChars : front.toList ++ back.toList = before.toList ++ after.toList := by
    rw [← String.toList_append, ← String.toList_append, ← hCode, ← hCode']
  rcases List.append_eq_append_iff.1 hChars with ⟨mid, hBefore, hMid⟩ | ⟨mid, hFront, -⟩
  · have hText : before = front ++ String.ofList mid := by
      rw [← String.toList_inj, hBefore]
      simp
    have hBehind : back = String.ofList mid ++ after := by
      rw [← String.toList_inj, hMid]
      simp
    rw [hBehind, bytesOf_append] at hBack
    rw [hText, String.utf8ByteSize_append] at hSize
    refine ⟨String.ofList mid, (List.append_inj hBack ?_).1⟩
    rw [length_bytesOf]
    omega
  · have hText : front = before ++ String.ofList mid := by
      rw [← String.toList_inj, hFront]
      simp
    rw [hText, String.utf8ByteSize_append] at hSize
    have hNone : own = [] := by
      rw [← List.length_eq_zero_iff]
      omega
    exact ⟨"", by rw [hNone]; rfl⟩

/-- Bytes that are left behind some others. -/
theorem drop_add {i : Nat} {own behind : List UInt8}
    (hBytes : (bytesOf code).drop i = own ++ behind) :
    (bytesOf code).drop (i + own.length) = behind := by
  rw [← List.drop_drop, hBytes, List.drop_left]

/-- Behind a boundary there are boundaries among ASCII bytes. -/
theorem isBoundary_in_run {i : Nat} {run behind : List UInt8}
    (hBytes : (bytesOf code).drop i = run ++ behind) (hStart : IsBoundary code i)
    (hRun : ∀ b ∈ run, b.toNat < 128) {n : Nat} (hn : n ≤ run.length) :
    IsBoundary code (i + n) := by
  cases n with
  | zero => exact hStart
  | succ n =>
      have hByte : run[n] ∈ run := List.getElem_mem hn
      have hRest : (bytesOf code).drop (i + n) = run[n] :: (run.drop (n + 1) ++ behind) := by
        rw [← List.drop_drop, hBytes, List.drop_append_of_le_length (Nat.le_of_succ_le hn),
          List.drop_eq_getElem_cons hn, List.cons_append]
      exact (isBoundary_of_ascii hRest (hRun _ hByte)).2

/-! ### Pieces of a text -/

section pieces

variable {start : Nat} {own behind : List UInt8}

/-- A piece between boundaries of characters can be cut out. -/
theorem ends_cut (hBytes : (bytesOf code).drop start = own ++ behind)
    (hStart : IsBoundary code start) (hStop : IsBoundary code (start + own.length)) (i : Nat) :
    Ends (cut code start (start + own.length)) i (.ok (own, i)) := by
  have hLe := hStop.le
  apply ends_step
  rw [if_pos ⟨Nat.le_add_right _ _, hLe⟩, if_pos ⟨hStart, hStop⟩, hBytes, Nat.add_sub_cancel_left,
    List.take_left]

/-- A piece between boundaries is cut out as a text. -/
theorem ends_cutText (hBytes : (bytesOf code).drop start = own ++ behind)
    (hStart : IsBoundary code start) (hStop : IsBoundary code (start + own.length)) :
    ∃ text, bytesOf text = own ∧
      ∀ i, Ends (cutText code start (start + own.length)) i (.ok (text, i)) := by
  obtain ⟨text, rfl⟩ := exists_text_between hBytes hStart hStop
  refine ⟨text, rfl, fun i => .bind (ends_cut hBytes hStart hStop i) ?_⟩
  rw [textOf?_bytesOf]
  exact ends_pure _ _

/-- Blanks are skipped up to the first byte that is none. -/
theorem ends_skipBlanks (i : Nat) :
    Ends (skipBlanks code) i
      (.ok ((), i + (((bytesOf code).drop i).takeWhile isBlank).length)) := by
  obtain ⟨run, behind, hBytes, hRun, hEnd, hTaken⟩ := exists_run isBlank ((bytesOf code).drop i)
  rw [hTaken]
  refine .goWhile_run hBytes (fun n b hb => ?_) (.goWhile_done (drop_add hBytes) ?_)
  · rw [hRun b (List.mem_of_getElem? hb)]
    exact ends_pure _ _
  · have hNot : isBlank (behind.head?.getD 0) = false := by
      cases hHead : behind.head? with
      | none => rfl
      | some b => exact hEnd b hHead
    rw [hNot]
    exact ends_pure _ _

/-- ASCII bytes are skipped as far as they match. -/
theorem ends_skipMatches {isMatch : UInt8 → List UInt8 → Bool}
    (hBytes : (bytesOf code).drop start = own ++ behind) (hStart : IsBoundary code start)
    (hOwn : ∀ b ∈ own, b.toNat < 128 ∧ b ≠ 0)
    (hMatch : ∀ n b, own[n]? = some b → isMatch b (own.take n) = true)
    (hEnd : ∀ b ∈ behind.head?, isMatch b own = false) :
    Ends (skipMatches code isMatch) start (.ok ((), start + own.length)) := by
  have hCut {n : Nat} (hn : n ≤ own.length) :
      Ends (cut code start (start + n)) (start + n) (.ok (own.take n, start + n)) := by
    have hTake : (own.take n).length = n := by rw [List.length_take, Nat.min_eq_left hn]
    have hSplit : (bytesOf code).drop start = own.take n ++ (own.drop n ++ behind) := by
      rw [hBytes, ← List.append_assoc, List.take_append_drop]
    have hBoundary := isBoundary_in_run hBytes hStart (fun b hb => (hOwn b hb).1) hn
    rw [← hTake] at hBoundary
    have hEnds := ends_cut hSplit hStart hBoundary (start + n)
    rwa [hTake] at hEnds
  refine .bind (ends_place _) (.goWhile_run hBytes (fun n b hb => ?_) ?_)
  · have hn : n < own.length := (List.getElem?_eq_some_iff.1 hb).1
    rw [if_neg (hOwn b (List.mem_of_getElem? hb)).2, ← hMatch n b hb]
    exact .bind (ends_place _) (.bind (hCut (Nat.le_of_lt hn)) (ends_pure _ _))
  · refine .goWhile_done (drop_add hBytes) ?_
    split
    · exact ends_pure _ _
    · rename_i hSome
      have hNot : isMatch (behind.head?.getD 0) own = false := by
        cases hHead : behind.head? with
        | none => exact absurd (by rw [hHead]; rfl) hSome
        | some b => exact hEnd b hHead
      have hAll := hCut (Nat.le_refl own.length)
      rw [List.take_length] at hAll
      rw [← hNot]
      exact .bind (ends_place _) (.bind hAll (ends_pure _ _))

end pieces

/-! ### Tokens -/

/-- A walk follows a rule for the bytes at its start. What the rule reads it gives, and leaves the
cursor on the last byte of that. What the rule reports it reports, some bytes within the text. A
rule that finds bytes which are no text is not followed. -/
inductive Follows (code : String) (m : Walk α) (start : Nat) : Except Fault (α × Nat) → Prop where
  | read {a : α} {n : Nat} (ends : Ends m start (.ok (a, start + n))) :
      Follows code m start (.ok (a, n + 1))
  | reported {label : Label} (nonempty : 0 < label.length)
      (within : start + label.offset + label.length ≤ code.utf8ByteSize)
      (ends : Ends m start (.error (.reported { label with offset := start + label.offset }))) :
      Follows code m start (.error (.unlexable label))

section tokens

variable {start : Nat} {b : UInt8} {rest own behind : List UInt8}

theorem length_of_drop {bytes : List UInt8} (hBytes : (bytesOf code).drop start = bytes)
    (hSome : bytes ≠ []) : start + bytes.length = code.utf8ByteSize := by
  have hLength := congrArg List.length hBytes
  have hPos := List.length_pos_of_ne_nil hSome
  rw [List.length_drop, length_bytesOf] at hLength
  omega

/-- A word is passed up to where it ends. -/
theorem ends_skipWord (hBytes : (bytesOf code).drop start = own ++ behind) (hOwn : IsWord own)
    (hEnd : ∀ b ∈ behind.head?, isWordPart b = false) :
    Ends (skipMatches code matchesWord) start (.ok ((), start + own.length)) := by
  obtain ⟨c, body, rfl, hFirst, hBody⟩ := hOwn
  have hPart : ∀ d ∈ c :: body, isWordPart d = true :=
    List.forall_mem_cons.2 ⟨isWordPart_iff.2 (.inl hFirst), hBody⟩
  have hStart := (isBoundary_of_ascii hBytes (lt_of_isWordStart hFirst)).1
  -- behind the first byte a word goes on with digits, too
  have hBehind (d e : UInt8) (passed : List UInt8) :
      matchesWord d (e :: passed) = isWordPart d := by
    rw [matchesWord, List.isEmpty_cons, Bool.not_false, Bool.and_true, isWordPart]
  refine ends_skipMatches hBytes hStart (fun d hd => ⟨lt_of_isWordPart (hPart d hd), ?_⟩) ?_ ?_
  · rintro rfl
    cases hPart 0 hd
  · intro n d hd
    cases n with
    | zero =>
        obtain rfl := Option.some.inj hd
        rw [matchesWord, hFirst, Bool.true_or]
    | succ n =>
        rw [List.take_succ_cons, hBehind]
        exact hPart d (List.mem_of_getElem? hd)
  · intro d hd
    rw [hBehind]
    exact hEnd d hd

theorem ends_skipDigits (hBytes : (bytesOf code).drop start = own ++ behind)
    (hOwn : IsDigits own) (hEnd : ∀ b ∈ behind.head?, isDigit b = false) :
    Ends (skipMatches code matchesDigit) start (.ok ((), start + own.length)) := by
  have hAscii := hOwn.forall_lt
  obtain ⟨c, body, rfl, hFirst, hBody⟩ := hOwn
  have hDigit : ∀ d ∈ c :: body, isDigit d = true := List.forall_mem_cons.2 ⟨hFirst, hBody⟩
  have hStart := (isBoundary_of_ascii hBytes (lt_of_isDigit hFirst)).1
  refine ends_skipMatches hBytes hStart (fun d hd => ⟨hAscii d hd, ?_⟩) ?_ hEnd
  · rintro rfl
    cases hDigit 0 hd
  · exact fun n d hd => hDigit d (List.mem_of_getElem? hd)

/-- The text of a word, with its length. -/
theorem ends_readWord (hBytes : (bytesOf code).drop start = b :: rest)
    (hStart : isWordStart b = true) :
    ∃ word n, slice ((b :: rest).take (wordLength (b :: rest))) = .ok word ∧
      wordLength (b :: rest) = n + 1 ∧
        Ends (readMatching code matchesWord) start (.ok (word, start + n)) := by
  obtain ⟨own, behind, hSplit, hWord, hEnd, hLength⟩ := exists_word hStart rest
  have hBoundary := (isBoundary_of_ascii hBytes (lt_of_isWordStart hStart)).1
  rw [hLength, hSplit, List.take_left]
  rw [hSplit] at hBytes
  have hSkip := ends_skipWord hBytes hWord hEnd
  obtain ⟨c, body, rfl, hFirst, hBody⟩ := hWord
  have hAscii : ∀ d ∈ c :: body, d.toNat < 128 :=
    List.forall_mem_cons.2 ⟨lt_of_isWordStart hFirst, fun d hd => lt_of_isWordPart (hBody d hd)⟩
  have hStop := isBoundary_in_run hBytes hBoundary hAscii (Nat.le_refl _)
  obtain ⟨word, hText, hCut⟩ := ends_cutText hBytes hBoundary hStop
  refine ⟨word, body.length, by rw [← hText, slice_bytesOf], rfl, ?_⟩
  refine .bind (ends_place _) (.bind hSkip (.bind (ends_place _) ?_))
  rw [if_neg (by simp)]
  exact .bind (hCut _) (.bind (ends_stepBack _) (ends_pure _ _))

end tokens

/-! ### What stands between delimiters -/

section delimited

variable {start : Nat} {delimiter : UInt8} {body behind rest : List UInt8}

/-- On the way to a delimiter all other bytes but zero are passed. -/
theorem ends_toDelimiter (hBytes : (bytesOf code).drop start = body ++ behind)
    (hBody : ∀ b ∈ body, b ≠ delimiter ∧ b ≠ 0) {opening : Nat} {r : WalkResult Unit}
    (hBehind : Ends (goWhile code (goesOnTo code opening delimiter)) (start + body.length) r) :
    Ends (goWhile code (goesOnTo code opening delimiter)) start r := by
  refine .goWhile_run hBytes (fun n b hb => ?_) hBehind
  have hOther := hBody b (List.mem_of_getElem? hb)
  rw [goesOnTo, if_neg hOther.1, if_neg hOther.2]
  exact ends_pure _ _

/-- A text between delimiters is read without them. -/
theorem ends_readDelimited
    (hBytes : (bytesOf code).drop start = delimiter :: (body ++ delimiter :: behind))
    (hAscii : delimiter.toNat < 128) (hBody : ∀ b ∈ body, b ≠ delimiter ∧ b ≠ 0) :
    ∃ text, bytesOf text = body ∧
      Ends (readDelimited code delimiter) start (.ok (text, start + (body.length + 1))) := by
  have hRest : (bytesOf code).drop (start + 1) = body ++ delimiter :: behind := drop_succ hBytes
  have hStart := (isBoundary_of_ascii hBytes hAscii).2
  have hStop := (isBoundary_of_ascii (drop_add hRest) hAscii).1
  obtain ⟨text, hText, hCut⟩ := ends_cutText hRest hStart hStop
  have hLast : Ends (goesOnTo code start delimiter delimiter) (start + 1 + body.length)
      (.ok (false, start + 1 + body.length)) := by
    rw [goesOnTo, if_pos rfl]
    exact ends_pure _ _
  refine ⟨text, hText, ?_⟩
  rw [Nat.add_comm body.length, ← Nat.add_assoc]
  exact .bind (ends_place _) (.bind (ends_move 1 _) (.bind (ends_place _)
    (.bind (ends_toDelimiter hRest hBody (.goWhile_done (drop_add hRest) hLast))
      (.bind (ends_place _) (hCut _)))))

/-- Where the second delimiter is missing, the whole of the text from the first one on is
reported. -/
theorem ends_readDelimited_error
    (hBytes : (bytesOf code).drop start = delimiter :: (body ++ behind))
    (hZero : delimiter ≠ 0) (hBody : ∀ b ∈ body, b ≠ delimiter ∧ b ≠ 0)
    (hMissing : behind.head?.getD 0 = 0) :
    Ends (readDelimited code delimiter) start
      (.error (.reported ⟨start, code.utf8ByteSize - start, missingClosing delimiter⟩)) := by
  have hRest : (bytesOf code).drop (start + 1) = body ++ behind := drop_succ hBytes
  have hLast : Ends (goesOnTo code start delimiter (behind.head?.getD 0))
      (start + 1 + body.length) (.error (.reported
        ⟨start, code.utf8ByteSize - start, missingClosing delimiter⟩)) := by
    rw [hMissing, goesOnTo, if_neg hZero.symm, if_pos rfl]
    exact ends_report _ _ _ _
  exact .bind (ends_place _) (.bind (ends_move 1 _) (.bind (ends_place _)
    (.bind_error (ends_toDelimiter hRest hBody (.goWhile_stopped (drop_add hRest) hLast)))))

/-- What stands between delimiters, or a report that the second of them is missing. -/
theorem follows_enclosed (hBytes : (bytesOf code).drop start = delimiter :: rest)
    (hAscii : delimiter.toNat < 128) (hZero : delimiter ≠ 0) :
    Follows code (readDelimited code delimiter) start (enclosed delimiter delimiter rest) := by
  obtain ⟨body, behind, rfl, hRun, hEnd, hTaken⟩ :=
    exists_run (fun b => b != delimiter && b != 0) rest
  have hBody : ∀ b ∈ body, b ≠ delimiter ∧ b ≠ 0 := by simpa using hRun
  rw [enclosed, delimited]
  dsimp only
  rw [hTaken, List.drop_left]
  by_cases hClosed : behind.head? = some delimiter
  · rw [if_pos (by simp [hClosed])]
    obtain ⟨others, rfl⟩ := List.head?_eq_some_iff.1 hClosed
    obtain ⟨text, rfl, hEnds⟩ := ends_readDelimited hBytes hAscii hBody
    rw [slice_bytesOf]
    exact .read hEnds
  · have hMissing : behind.head?.getD 0 = 0 := by
      cases hHead : behind.head? with
      | none => rfl
      | some b =>
          have hOther : b ≠ delimiter := by
            rintro rfl
            exact hClosed hHead
          simpa [hOther] using hEnd b hHead
    have hEnds := ends_readDelimited_error hBytes hZero hBody hMissing
    have hSize := length_of_drop hBytes (List.cons_ne_nil _ _)
    rw [← hSize, Nat.add_sub_cancel_left] at hEnds
    rw [if_neg (by simp [hClosed, hZero])]
    exact .reported (Nat.succ_pos _) (Nat.le_of_eq hSize) hEnds

end delimited

end CaseMatch.Surface
