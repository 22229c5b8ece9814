import CaseMatch.Proofs.Surface.PatternReading
import CaseMatch.Proofs.Surface.TokenForms
import CaseMatch.Regex.Compile
import Mathlib.Data.List.TakeWhile

/-!
What the lexemes of a text account for. A text that has lexemes is laid out as blanks and lexemes,
one behind the other without a gap, up to its first zero byte. No lexeme holds that byte or any
behind it, so that nothing of the text is passed over exactly if there is no zero byte in it.
-/

namespace CaseMatch.Surface

/-! ### The bytes of a token -/

/-- So many bytes stand at the start, and none of them is zero. -/
def Takes (bytes : List UInt8) (n : Nat) : Prop :=
  ∃ taken, taken <+: bytes ∧ taken.length = n ∧ 0 ∉ taken

namespace Takes

variable {b : UInt8} {bytes rest : List UInt8} {n m : Nat}

theorem none : Takes bytes 0 := ⟨[], List.nil_prefix, rfl, by simp⟩

theorem cons (hb : b ≠ 0) (h : Takes rest n) : Takes (b :: rest) (n + 1) := by
  obtain ⟨taken, hPrefix, rfl, hTaken⟩ := h
  refine ⟨b :: taken, (List.prefix_cons_inj b).2 hPrefix, rfl, ?_⟩
  rw [List.mem_cons, not_or]
  exact ⟨hb.symm, hTaken⟩

theorem one (hb : b ≠ 0) : Takes (b :: rest) 1 := cons hb none

/-- Bytes that are taken in two steps are taken at once. -/
theorem add (h : Takes bytes n) (hMore : Takes (bytes.drop n) m) : Takes bytes (n + m) := by
  obtain ⟨taken, ⟨behind, rfl⟩, rfl, hTaken⟩ := h
  rw [List.drop_left] at hMore
  obtain ⟨more, ⟨rest, rfl⟩, rfl, hMoreTaken⟩ := hMore
  refine ⟨taken ++ more, ⟨rest, by rw [List.append_assoc]⟩, List.length_append, ?_⟩
  rw [List.mem_append, not_or]
  exact ⟨hTaken, hMoreTaken⟩

/-- Zero ends a run of bytes of a kind that it is not of. -/
theorem takeWhile {p : UInt8 → Bool} (h : p 0 = false) :
    Takes bytes (bytes.takeWhile p).length := by
  refine ⟨bytes.takeWhile p, List.takeWhile_prefix p, rfl, ?_⟩
  intro hZero
  simp [List.mem_takeWhile_imp hZero] at h

end Takes

theorem ne_zero_of_charOf {b : UInt8} {c : Char} (h : charOf b = c) (hc : c ≠ '\x00') : b ≠ 0 := by
  rintro rfl
  exact hc h.symm

theorem takes_wordLength {b : UInt8} (hb : b ≠ 0) (rest : List UInt8) :
    Takes (b :: rest) (wordLength (b :: rest)) := by
  rw [wordLength]
  split
  · exact .cons hb (.takeWhile rfl)
  · exact .none

theorem takes_digitsLength (bytes : List UInt8) : Takes bytes (digitsLength bytes) :=
  .takeWhile rfl

/-- A number takes only bytes that are there. -/
theorem takes_numberLength (bytes : List UInt8) : Takes bytes (numberLength bytes).1 := by
  unfold numberLength
  extract_lets sign whole
  have hSign : Takes bytes sign := by
    cases bytes with
    | nil => exact .none
    | cons b rest =>
        by_cases hMinus : charOf b = '-'
        · have hb : b ≠ 0 := ne_zero_of_charOf hMinus (by decide)
          have hOne : Takes (b :: rest) 1 := .one hb
          simpa [sign, hMinus] using hOne
        · simpa [sign, hMinus] using Takes.none
  have hWhole : Takes bytes whole := hSign.add (takes_digitsLength _)
  split
  · rename_i b places hPlaces
    split
    · rename_i hPoint
      have hb : b ≠ 0 := ne_zero_of_charOf hPoint.1 (by decide)
      have hRest : Takes (bytes.drop whole) (1 + digitsLength places) := by
        rw [hPlaces, Nat.add_comm]
        exact .cons hb (takes_digitsLength places)
      simpa [Nat.add_assoc] using hWhole.add hRest
    · exact hWhole
  · exact hWhole

/-- What stands between delimiters goes up to a byte that is there: zero is no delimiter. -/
theorem takes_enclosed {delimiter opening : UInt8} (hDelimiter : delimiter ≠ 0)
    (hOpening : opening ≠ 0) {rest : List UInt8} {text : String} {n : Nat}
    (h : enclosed delimiter opening rest = .ok (text, n)) : Takes (opening :: rest) n := by
  rw [enclosed, delimited] at h
  dsimp only at h
  split at h
  · rename_i hClosed
    obtain ⟨body, hBody, hLength⟩ := bind_eq_ok_iff.1 h
    cases hLength
    have hRest : Takes rest (rest.takeWhile fun b => b != delimiter && b != 0).length :=
      .takeWhile (by simp)
    have hClosing : (rest.drop (rest.takeWhile fun b => b != delimiter && b != 0).length).head? =
        some delimiter := by
      simpa [hDelimiter] using hClosed
    obtain ⟨behind, hBehind⟩ := List.head?_eq_some_iff.1 hClosing
    refine .cons hOpening (hRest.add ?_)
    rw [hBehind]
    exact .one hDelimiter
  · cases h

/-- A symbol takes only bytes that are there, a quoted one its delimiters too. -/
theorem takes_symbolToken {colon : UInt8} (hColon : colon ≠ 0) {bytes : List UInt8} {t : Token}
    {n : Nat} (h : symbolToken bytes = .ok (t, n)) : Takes (colon :: bytes) n := by
  cases bytes with
  | nil => cases h
  | cons b rest =>
      have hQuoted {text : String} {length : Nat} (hb : b ≠ 0)
          (h : enclosed b b rest = .ok (text, length)) :
          Takes (colon :: b :: rest) (length + 1) :=
        .cons hColon (takes_enclosed hb hb h)
      rw [symbolToken] at h
      dsimp only at h
      split at h
      · rename_i hSlash
        split at h
        · rename_i hEnclosed
          cases h
          exact hQuoted (ne_zero_of_charOf hSlash (by decide)) hEnclosed
        · cases h
      · split at h
        · rename_i hQuote
          split at h
          · rename_i hEnclosed
            cases h
            exact hQuoted (ne_zero_of_charOf hQuote (by decide)) hEnclosed
          · cases h
        · split at h
          · rename_i hStart
            have hb : b ≠ 0 := by
              rintro rfl
              revert hStart
              decide
            obtain ⟨name, -, hName⟩ := bind_eq_ok_iff.1 h
            cases hName
            exact .cons hColon (takes_wordLength hb rest)
          · cases h

/-- A byte that is looked at further on is there, unless it is taken for zero. -/
theorem takes_next {bytes : List UInt8} {c : Char} (h : (bytes.head?.map charOf).getD '\x00' = c)
    (hc : c ≠ '\x00') : Takes bytes 1 := by
  cases bytes with
  | nil => exact absurd h.symm hc
  | cons b rest => exact .one (ne_zero_of_charOf h hc)

/-- No token holds a zero byte, and none goes on behind the last byte. -/
theorem takes_token {b : UInt8} (hb : b ≠ 0) {rest : List UInt8} {t : Token} {n : Nat}
    (h : token b rest = .ok (t, n)) : Takes (b :: rest) n := by
  have hOne : Takes (b :: rest) 1 := .one hb
  rw [token] at h
  dsimp only at h
  split at h
  · obtain ⟨word, -, hWord⟩ := bind_eq_ok_iff.1 h
    cases hWord
    exact takes_wordLength hb rest
  · split at h
    · obtain ⟨t, -, hNumber⟩ := bind_eq_ok_iff.1 h
      cases hNumber
      exact takes_numberLength _
    · split at h
      · obtain ⟨⟨text, length⟩, hEnclosed, hText⟩ := bind_eq_ok_iff.1 h
        cases hText
        exact takes_enclosed hb hb hEnclosed
      · obtain ⟨⟨source, length⟩, hEnclosed, hSource⟩ := bind_eq_ok_iff.1 h
        cases hSource
        exact takes_enclosed hb hb hEnclosed
      · exact takes_symbolToken hb h
      -- the tokens of one byte
      iterate 7 · cases h; exact hOne
      · split at h
        · rename_i hNext
          cases h
          exact .cons hb (takes_next hNext (by decide))
        · cases h
      · split at h
        · rename_i hNext
          have hSecond := takes_next hNext (by decide)
          split at h
          · rename_i hAfterNext
            cases h
            exact .cons hb (hSecond.add (takes_next hAfterNext (by decide)))
          · cases h
            exact .cons hb hSecond
        · cases h
      · cases h

/-! ### The layout of a text -/

/-- Bytes that are laid out as blanks and lexemes, where `offset` bytes stand before them. -/
inductive Laid : Nat → List UInt8 → List Lexeme → Prop where
  | nothing (offset : Nat) : Laid offset [] []
  | blank {offset : Nat} {b : UInt8} {bytes : List UInt8} {ls : List Lexeme}
      (skipped : isBlank b = true) (behind : Laid (offset + 1) bytes ls) :
      Laid offset (b :: bytes) ls
  | lexeme {offset : Nat} {t : Token} {taken bytes : List UInt8} {ls : List Lexeme}
      (nonempty : taken ≠ []) (behind : Laid (offset + taken.length) bytes ls) :
      Laid offset (taken ++ bytes) (⟨t, offset, offset + taken.length⟩ :: ls)

/-- The bytes before the first zero byte. -/
def beforeZero (bytes : List UInt8) : List UInt8 := bytes.takeWhile (· != 0)

/-- Bytes before which there is no zero belong to what stands before the first zero. -/
theorem beforeZero_append {taken bytes : List UInt8} (h : 0 ∉ taken) :
    beforeZero (taken ++ bytes) = taken ++ beforeZero bytes := by
  refine List.takeWhile_append_of_pos fun b hb => ?_
  rw [bne_iff_ne]
  rintro rfl
  exact h hb

/-- What lexing does with the bytes at the front: nothing is there, or a zero byte ends it, or a
blank is skipped, or a token takes some of them. -/
theorem lexFrom_ok_cases {offset : Nat} {bytes : List UInt8} {ls : List Lexeme}
    (h : lexFrom offset bytes = .ok ls) :
    (bytes = [] ∧ ls = []) ∨ (∃ rest, bytes = 0 :: rest ∧ ls = []) ∨
      (∃ b rest, bytes = b :: rest ∧ isBlank b = true ∧ lexFrom (offset + 1) rest = .ok ls) ∨
      ∃ t taken behind others, bytes = taken ++ behind ∧ taken ≠ [] ∧ 0 ∉ taken ∧
        TokenForm t taken behind ∧ ls = ⟨t, offset, offset + taken.length⟩ :: others ∧
        lexFrom (offset + taken.length) behind = .ok others := by
  cases bytes with
  | nil =>
      rw [lexFrom_nil] at h
      cases h
      exact .inl ⟨rfl, rfl⟩
  | cons b rest =>
      cases hBlank : isBlank b with
      | true =>
          rw [lexFrom_blank hBlank] at h
          exact .inr (.inr (.inl ⟨b, rest, rfl, hBlank, h⟩))
      | false =>
          rw [lexFrom_eq, List.takeWhile_cons_of_neg (by simp [hBlank])] at h
          simp only [List.length_nil, Nat.add_zero, List.drop_zero, lexHere] at h
          split at h
          · rename_i hZero
            cases h
            exact .inr (.inl ⟨rest, by rw [hZero], rfl⟩)
          · rename_i hb
            split at h
            · cases h
            · rename_i t n hToken
              have hSome := length_pos_of_token hToken
              obtain ⟨taken, ⟨behind, hTaken⟩, rfl, hFree⟩ := takes_token hb hToken
              obtain ⟨own, behind', hOwn, hLength, hForm⟩ := form_of_token hToken
              obtain ⟨hSame, hSameBehind⟩ := List.append_inj (hOwn.symm.trans hTaken.symm) hLength
              rw [hSame, hSameBehind] at hForm
              rw [← hTaken, List.drop_left] at h
              cases hBehind : lexFrom (offset + taken.length) behind with
              | error fault =>
                  rw [hBehind] at h
                  cases h
              | ok others =>
                  rw [hBehind] at h
                  cases h
                  exact .inr (.inr (.inr ⟨t, taken, behind, others, hTaken.symm,
                    List.ne_nil_of_length_pos hSome, hFree, hForm, rfl, hBehind⟩))

/-- How lexing goes through bytes, of which `offset` stand before: it skips a blank or takes a token
as long as there are bytes, and ends at a zero byte. -/
inductive Scans : Nat → List UInt8 → List Lexeme → Prop where
  | nothing (offset : Nat) : Scans offset [] []
  | zero (offset : Nat) (rest : List UInt8) : Scans offset (0 :: rest) []
  | blank {offset : Nat} {b : UInt8} {rest : List UInt8} {ls : List Lexeme}
      (skipped : isBlank b = true) (behind : Scans (offset + 1) rest ls) :
      Scans offset (b :: rest) ls
  | token {offset : Nat} {t : Token} {taken rest : List UInt8} {ls : List Lexeme}
      (form : TokenForm t taken rest) (nonempty : taken ≠ []) (free : 0 ∉ taken)
      (behind : Scans (offset + taken.length) rest ls) :
      Scans offset (taken ++ rest) (⟨t, offset, offset + taken.length⟩ :: ls)

/-- A text that is lexed is scanned lexeme by lexeme up to its end or a zero byte. -/
theorem scans_of_lexFrom {offset : Nat} {bytes : List UInt8} {ls : List Lexeme}
    (h : lexFrom offset bytes = .ok ls) : Scans offset bytes ls := by
  induction hLength : bytes.length using Nat.strongRecOn generalizing offset bytes ls with
  | ind length ih =>
      subst hLength
      rcases lexFrom_ok_cases h with ⟨rfl, rfl⟩ | ⟨rest, rfl, rfl⟩ | ⟨b, rest, rfl, hBlank, hRest⟩ |
        ⟨t, taken, behind, others, rfl, hSome, hFree, hForm, rfl, hBehind⟩
      · exact .nothing offset
      · exact .zero offset rest
      · exact .blank hBlank (ih rest.length (by simp) hRest rfl)
      · have hTaken := List.length_pos_of_ne_nil hSome
        refine .token hForm hSome hFree (ih behind.length ?_ hBehind rfl)
        rw [List.length_append]
        omega

/-- What is lexed of a text is laid out up to the first zero byte. -/
theorem laid_of_lexFrom {offset : Nat} {bytes : List UInt8} {ls : List Lexeme}
    (h : lexFrom offset bytes = .ok ls) : Laid offset (beforeZero bytes) ls := by
  have hScans := scans_of_lexFrom h
  clear h
  induction hScans with
  | nothing offset => exact .nothing offset
  | zero offset rest => exact .nothing offset
  | @blank offset b rest ls skipped behind ih =>
      have hb : 0 ∉ [b] := by
        rw [List.mem_singleton]
        rintro rfl
        cases skipped
      rw [← List.singleton_append, beforeZero_append hb]
      exact .blank skipped ih
  | token form nonempty free behind ih =>
      rw [beforeZero_append free]
      exact .lexeme nonempty ih

/-- The byte at a place stands in a lexeme. -/
def Covered (ls : List Lexeme) (i : Nat) : Prop := ∃ l ∈ ls, l.span.start ≤ i ∧ i < l.span.stop

namespace Laid

variable {offset : Nat} {bytes : List UInt8} {ls : List Lexeme}

/-- No lexeme reaches out of the bytes that are laid out. -/
theorem within (h : Laid offset bytes ls) :
    ∀ l ∈ ls, offset ≤ l.span.start ∧ l.span.stop ≤ offset + bytes.length := by
  induction h with
  | nothing offset => simp
  | blank skipped behind ih =>
      intro l hl
      have hBehind := ih l hl
      rw [List.length_cons]
      omega
  | lexeme nonempty behind ih =>
      rw [List.forall_mem_cons, List.length_append]
      refine ⟨⟨Nat.le_refl _, by simp⟩, fun l hl => ?_⟩
      have hBehind := ih l hl
      omega

/-- There is no gap but of blanks. -/
theorem covered_or_blank (h : Laid offset bytes ls) :
    ∀ i b, bytes[i]? = some b → Covered ls (offset + i) ∨ isBlank b = true := by
  induction h with
  | nothing offset => simp
  | @blank offset b bytes ls skipped behind ih =>
      intro i c hc
      cases i with
      | zero =>
          cases hc
          exact .inr skipped
      | succ i =>
          have hBehind := ih i c (by simpa using hc)
          rwa [Nat.add_assoc, Nat.add_comm 1] at hBehind
  | @lexeme offset t taken bytes ls nonempty behind ih =>
      intro i c hc
      by_cases hi : i < taken.length
      · exact .inl ⟨_, List.mem_cons_self, by simp, by simpa using hi⟩
      · rw [List.getElem?_append_right (by omega)] at hc
        refine (ih _ c hc).imp_left ?_
        rintro ⟨l, hl, hSpan⟩
        have hPlace : offset + taken.length + (i - taken.length) = offset + i := by omega
        rw [hPlace] at hSpan
        exact ⟨l, List.mem_cons_of_mem _ hl, hSpan⟩

end Laid

/-! ### What is passed over -/

/-- A byte of a text that is no blank stands in none of the lexemes. -/
def PassedOver (code : String) (ls : List Lexeme) (i : Nat) : Prop :=
  ∃ b, (bytesOf code)[i]? = some b ∧ isBlank b = false ∧ ¬Covered ls i

/-- A place is behind the bytes before the first zero byte exactly if a zero byte stands there or
before. -/
theorem length_beforeZero_le_iff {bytes : List UInt8} {i : Nat} (hi : i < bytes.length) :
    (beforeZero bytes).length ≤ i ↔ ∃ j ≤ i, bytes[j]? = some 0 := by
  induction bytes generalizing i with
  | nil => simp at hi
  | cons b rest ih =>
      by_cases hb : b = 0
      · subst hb
        simpa [beforeZero] using ⟨0, Nat.zero_le i, rfl⟩
      · have hFree : 0 ∉ [b] := by simpa [eq_comm] using hb
        rw [← List.singleton_append, beforeZero_append hFree, List.length_append,
          List.length_singleton]
        cases i with
        | zero => simp [hb]
        | succ i =>
            have hRest := ih (i := i) (by simpa using hi)
            rw [Nat.add_comm, Nat.add_le_add_iff_right, hRest]
            constructor
            · rintro ⟨j, hj, hZero⟩
              exact ⟨j + 1, Nat.succ_le_succ hj, by simpa using hZero⟩
            · rintro ⟨j, hj, hZero⟩
              cases j with
              | zero => simp [hb] at hZero
              | succ j => exact ⟨j, Nat.le_of_succ_le_succ hj, by simpa using hZero⟩

/-- The bytes that are passed over are those from the first zero byte on, but for blanks. -/
theorem passedOver_iff {code : String} {ls : List Lexeme} (h : lex code = .ok ls) (i : Nat) :
    PassedOver code ls i ↔ (∃ b, (bytesOf code)[i]? = some b ∧ isBlank b = false) ∧
      ∃ j ≤ i, (bytesOf code)[j]? = some 0 := by
  have hLaid := laid_of_lexFrom h
  constructor
  · rintro ⟨b, hb, hBlank, hCovered⟩
    refine ⟨⟨b, hb, hBlank⟩, (length_beforeZero_le_iff ?_).1 (Nat.le_of_not_lt fun hi => ?_)⟩
    · exact (List.getElem?_eq_some_iff.1 hb).1
    · obtain ⟨behind, hBytes⟩ := List.takeWhile_prefix (l := bytesOf code) (· != 0)
      have hSplit : bytesOf code = beforeZero (bytesOf code) ++ behind := hBytes.symm
      rw [hSplit, List.getElem?_append_left hi] at hb
      have hPlace := hLaid.covered_or_blank i b hb
      rw [Nat.zero_add] at hPlace
      simp [hBlank, hCovered] at hPlace
  · rintro ⟨⟨b, hb, hBlank⟩, hZero⟩
    refine ⟨b, hb, hBlank, ?_⟩
    rintro ⟨l, hl, hSpan⟩
    have hEnd := (length_beforeZero_le_iff (List.getElem?_eq_some_iff.1 hb).1).2 hZero
    have hWithin := (hLaid.within l hl).2
    omega

/-- A zero byte is the character U+0000, as it is a part of no other character. -/
theorem zero_mem_bytesOf_iff {text : String} : 0 ∈ bytesOf text ↔ '\x00' ∈ text.toList := by
  constructor
  · exact fun h => mem_toList_of_mem_bytesOf (by decide) h
  · intro h
    rw [bytesOf_eq_flatMap, List.mem_flatMap]
    exact ⟨_, h, by decide⟩

/-- Nothing is passed over in a text without the character U+0000, and in any other text at least
that character is. -/
theorem nothing_passedOver_iff {code : String} {ls : List Lexeme} (h : lex code = .ok ls) :
    (∀ i, ¬PassedOver code ls i) ↔ '\x00' ∉ code.toList := by
  rw [← zero_mem_bytesOf_iff]
  constructor
  · intro hNone hZero
    obtain ⟨i, hi⟩ := List.getElem?_of_mem hZero
    exact hNone i ((passedOver_iff h i).2 ⟨⟨0, hi, rfl⟩, i, Nat.le_refl i, hi⟩)
  · intro hFree i hPassed
    obtain ⟨-, j, -, hZero⟩ := (passedOver_iff h i).1 hPassed
    exact hFree (List.mem_of_getElem? hZero)

/-- The bytes of a text that stand in no lexeme are blanks, up to the first zero byte; from there on
none stands in a lexeme. Only a text with the character U+0000 has bytes that are passed over. The
lexemes are all used up where the text is read as a value or as a pattern. -/
theorem lexemes_account_for_text [RegexEngine] {code : String} {ls : List Lexeme}
    (h : lex code = .ok ls) :
    (∀ i, PassedOver code ls i ↔ (∃ b, (bytesOf code)[i]? = some b ∧ isBlank b = false) ∧
      ∃ j ≤ i, (bytesOf code)[j]? = some 0) ∧
    ((∀ i, ¬PassedOver code ls i) ↔ '\x00' ∉ code.toList) ∧
    (∀ v, parseValue code = .ok v →
      ∃ shorter, value code.utf8ByteSize ls = .ok (v, ⟨[], shorter⟩)) ∧
    ∀ p, parsePattern code = .ok p →
      ∃ t shorter, item code.utf8ByteSize ls = .ok (t, ⟨[], shorter⟩) ∧ t.toPattern = .ok p := by
  refine ⟨passedOver_iff h, nothing_passedOver_iff h, fun v hv => ?_, fun p hp => ?_⟩
  · obtain ⟨ts, hts, hRead⟩ := parseValue_eq_ok_iff.1 hv
    obtain rfl : ls = ts := Except.ok.inj (h.symm.trans hts)
    exact readValue_eq_ok_iff_value.1 hRead
  · obtain ⟨ts, hts, hRead⟩ := parsePattern_eq_ok_iff.1 hp
    obtain rfl : ls = ts := Except.ok.inj (h.symm.trans hts)
    exact readPattern_eq_ok_iff.1 hRead

/-- A list with a string that has a blank in it, and a blank behind the list. -/
def spacedList : String := "[1, \"a b\"] "

def spacedListLexemes : List Lexeme :=
  [⟨.leftBracket, 0, 1⟩, ⟨.integer 1, 1, 2⟩, ⟨.comma, 2, 3⟩, ⟨.string "a b", 4, 9⟩,
    ⟨.rightBracket, 9, 10⟩]

/-- Of a list with blanks around its items nothing is passed over, since no zero byte is in it. -/
theorem lexemes_account_for_spacedList :
    lex spacedList = .ok spacedListLexemes ∧ ∀ i, ¬PassedOver spacedList spacedListLexemes i := by
  have hLex : lex spacedList = .ok spacedListLexemes := by decide +kernel
  let := Regex.standard
  exact ⟨hLex, (lexemes_account_for_text hLex).2.1.2 (by decide)⟩

/-- Behind a zero byte a bracket without its fellow is passed over, and the text is read as the
number that stands before. -/
theorem passedOver_behind_zero :
    lex "1\x00 ]" = .ok [⟨.integer 1, 0, 1⟩] ∧ parseValue "1\x00 ]" = .ok (.integer 1) ∧
      PassedOver "1\x00 ]" [⟨.integer 1, 0, 1⟩] 1 ∧
      PassedOver "1\x00 ]" [⟨.integer 1, 0, 1⟩] 3 := by
  have hLex : lex "1\x00 ]" = .ok [⟨.integer 1, 0, 1⟩] := by decide +kernel
  have hBytes : bytesOf "1\x00 ]" = [49, 0, 32, 93] := by decide +kernel
  refine ⟨hLex, ?_, ?_, ?_⟩
  · rw [parseValue_eq_ok_iff]
    exact ⟨_, hLex, readValue_eq_ok_iff.2 (.integer 1)⟩
  · exact ⟨0, by rw [hBytes]; rfl, rfl, by simp [Covered]⟩
  · exact ⟨93, by rw [hBytes]; rfl, rfl, by simp [Covered]⟩

end CaseMatch.Surface
