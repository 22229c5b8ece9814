import CaseMatch.Proofs.Surface.Coverage
import Mathlib.Data.List.Chain

/-!
The spans of the lexemes of a text. They follow one another with nothing but blanks between them,
and each cuts a piece out of the text that is whole characters and is read as the token of the
lexeme where it stands alone.
-/

namespace CaseMatch.Surface

/-! ### Where a token begins and ends -/

/-- Bytes whose first and last are characters of their own. -/
def EndsPlainly (own : List UInt8) : Prop :=
  (∃ b body, own = b :: body ∧ b.toNat < 128) ∧ ∃ body b, own = body ++ [b] ∧ b.toNat < 128

namespace EndsPlainly

theorem of_forall {own : List UInt8} (hSome : own ≠ []) (h : ∀ b ∈ own, b.toNat < 128) :
    EndsPlainly own := by
  refine ⟨?_, own.dropLast, own.getLast hSome, (List.dropLast_append_getLast hSome).symm,
    h _ (List.getLast_mem hSome)⟩
  cases own with
  | nil => exact absurd rfl hSome
  | cons b body => exact ⟨b, body, rfl, h b List.mem_cons_self⟩

theorem cons {b : UInt8} (hb : b.toNat < 128) {own : List UInt8} (h : EndsPlainly own) :
    EndsPlainly (b :: own) := by
  obtain ⟨-, body, c, rfl, hc⟩ := h
  exact ⟨⟨b, body ++ [c], rfl, hb⟩, b :: body, c, rfl, hc⟩

theorem delimited {delimiter : UInt8} (h : delimiter.toNat < 128) (text : String) :
    EndsPlainly (delimitedBytes delimiter text) :=
  ⟨⟨delimiter, _, rfl, h⟩, delimiter :: bytesOf text, delimiter, rfl, h⟩

end EndsPlainly

theorem lt_of_isDigit {b : UInt8} (h : isDigit b = true) : b.toNat < 128 := by
  have hNumber := isDigit_iff.1 h
  omega

theorem lt_of_isWordStart {b : UInt8} (h : isWordStart b = true) : b.toNat < 128 := by
  have hNumber := isWordStart_iff.1 h
  omega

theorem lt_of_isWordPart {b : UInt8} (h : isWordPart b = true) : b.toNat < 128 :=
  (isWordPart_iff.1 h).elim lt_of_isWordStart lt_of_isDigit

theorem IsWord.endsPlainly {bytes : List UInt8} (h : IsWord bytes) : EndsPlainly bytes := by
  obtain ⟨b, rest, rfl, hStart, hRest⟩ := h
  exact .of_forall (by simp) (List.forall_mem_cons.2
    ⟨lt_of_isWordStart hStart, fun c hc => lt_of_isWordPart (hRest c hc)⟩)

theorem IsDigits.forall_lt {bytes : List UInt8} (h : IsDigits bytes) :
    ∀ b ∈ bytes, b.toNat < 128 := by
  obtain ⟨b, rest, rfl, hFirst, hRest⟩ := h
  exact List.forall_mem_cons.2 ⟨lt_of_isDigit hFirst, fun c hc => lt_of_isDigit (hRest c hc)⟩

theorem signBytes_forall_lt (negative : Bool) : ∀ b ∈ signBytes negative, b.toNat < 128 := by
  cases negative <;> simp [signBytes]

/-- A token ends with a byte below 128, so that no character is cut in two behind it. -/
theorem TokenForm.endsPlainly {t : Token} {own behind : List UInt8} (h : TokenForm t own behind) :
    EndsPlainly own := by
  cases h with
  | word isWord ends => exact isWord.endsPlainly
  | @integer negative digits _ _ _ isDigits own =>
      obtain ⟨d, rest, rfl, -⟩ := id isDigits
      rw [own]
      exact .of_forall (by simp) (List.forall_mem_append.2
        ⟨signBytes_forall_lt negative, isDigits.forall_lt⟩)
  | @float negative digits places _ _ _ isDigits arePlaces own =>
      rw [own]
      refine .of_forall (by simp) (List.forall_mem_append.2 ⟨signBytes_forall_lt negative, ?_⟩)
      exact List.forall_mem_append.2 ⟨isDigits.forall_lt,
        List.forall_mem_cons.2 ⟨by decide, arePlaces.forall_lt⟩⟩
  | string => exact .delimited (by decide) _
  | regex => exact .delimited (by decide) _
  | symbol isWord ends => exact .cons (by decide) isWord.endsPlainly
  | quotedSymbol => exact .cons (by decide) (.delimited (by decide) _)
  | symbolRegex => exact .cons (by decide) (.delimited (by decide) _)
  | @mark b _ _ isMark =>
      have hMarks : ∀ m ∈ marks, m.1.toNat < 128 := by simp [marks]
      exact .of_forall (by simp) (by simpa using hMarks _ isMark)
  | fatArrow => exact .of_forall (by simp) (by simp)
  | inclusiveRange => exact .of_forall (by simp) (by simp)
  | exclusiveRange => exact .of_forall (by simp) (by simp)

/-- A text can be cut on both sides of bytes that end plainly. -/
theorem EndsPlainly.exists_texts {text : String} {before own after : List UInt8}
    (hOwn : EndsPlainly own) (h : bytesOf text = before ++ own ++ after) :
    ∃ front piece back, text = front ++ piece ++ back ∧ bytesOf front = before ∧
      bytesOf piece = own ∧ bytesOf back = after := by
  obtain ⟨⟨b, body, rfl, hb⟩, body', c, hLast, hc⟩ := hOwn
  have hFirst : bytesOf text = before ++ b :: (body ++ after) := by simp [h]
  obtain ⟨front, first, rest, hText, hFront, hFirstOwn, hRest⟩ := exists_texts_around hb hFirst
  have hTail : bytesOf (first ++ rest) = body' ++ c :: after := by
    rw [bytesOf_append, hFirstOwn, hRest, ← List.append_assoc, List.singleton_append, hLast]
    simp
  obtain ⟨piece, last, back, hPiece, hBody, hLastOwn, hBack⟩ := exists_texts_around hc hTail
  refine ⟨front, piece ++ last, back, ?_, hFront, ?_, hBack⟩
  · rw [hText, String.append_assoc, hPiece]
    simp only [String.append_assoc]
  · rw [bytesOf_append, hBody, hLastOwn, hLast]

/-! ### What stands at a span -/

/-- A lexeme is the token of some bytes of the text and its span is where they stand. -/
theorem exists_form_of_lexFrom {offset : Nat} {bytes : List UInt8} {ls : List Lexeme}
    (h : lexFrom offset bytes = .ok ls) :
    ∀ l ∈ ls, ∃ before own after, bytes = before ++ own ++ after ∧
      l.span = ⟨offset + before.length, offset + before.length + own.length⟩ ∧
      TokenForm l.token own after := by
  have hScans := scans_of_lexFrom h
  clear h
  induction hScans with
  | nothing offset => simp
  | zero offset rest => simp
  | @blank offset b rest ls skipped behind ih =>
      intro l hl
      obtain ⟨before, own, after, rfl, hSpan, hForm⟩ := ih l hl
      refine ⟨b :: before, own, after, by simp, ?_, hForm⟩
      rw [hSpan, List.length_cons, Nat.add_assoc, Nat.add_comm 1]
  | @token offset t taken rest ls form some free behind ih =>
      refine List.forall_mem_cons.2 ⟨⟨[], taken, rest, rfl, rfl, form⟩, fun l hl => ?_⟩
      obtain ⟨before, own, after, rfl, hSpan, hForm⟩ := ih l hl
      refine ⟨taken ++ before, own, after, by simp, ?_, hForm⟩
      rw [hSpan, List.length_append, Nat.add_assoc offset]

/-- The piece of a text that is whole characters and at a span, and what else is read of it. -/
def StandsAlone (code : String) (l : Lexeme) : Prop :=
  ∃ before own after, code = before ++ own ++ after ∧ before.utf8ByteSize = l.span.start ∧
    (before ++ own).utf8ByteSize = l.span.stop ∧
    lex own = .ok [⟨l.token, 0, l.span.stop - l.span.start⟩]

/-- A token is all that is read of its own bytes. -/
theorem lex_of_form {t : Token} {own : String} {behind : List UInt8}
    (h : TokenForm t (bytesOf own) behind) : lex own = .ok [⟨t, 0, own.utf8ByteSize⟩] := by
  have hLex := lexFrom_of_begins h.alone.begins 0
  rw [List.append_nil, lexFrom_nil, Nat.zero_add] at hLex
  exact hLex

/-- Every lexeme of a text stands alone: cut out by its span it is lexed as just itself. -/
theorem standsAlone_of_lex {code : String} {ls : List Lexeme} (h : lex code = .ok ls) :
    ∀ l ∈ ls, StandsAlone code l := by
  intro l hl
  obtain ⟨before, own, after, hBytes, hSpan, hForm⟩ := exists_form_of_lexFrom h l hl
  obtain ⟨front, piece, back, hCode, rfl, rfl, rfl⟩ := hForm.endsPlainly.exists_texts hBytes
  rw [Nat.zero_add] at hSpan
  refine ⟨front, piece, back, hCode, by rw [hSpan]; rfl, ?_, ?_⟩
  · rw [hSpan, ← length_bytesOf, bytesOf_append, List.length_append]
  · rw [hSpan, Nat.add_sub_cancel_left]
    exact lex_of_form hForm

/-! ### What stands between spans -/

/-- The bytes from one place up to another are blanks. -/
def BlankBetween (bytes : List UInt8) (start stop : Nat) : Prop :=
  ∀ i, start ≤ i → i < stop → ∃ b, bytes[i]? = some b ∧ isBlank b = true

namespace Laid

variable {offset : Nat} {bytes : List UInt8} {ls : List Lexeme}

theorem start_lt_stop (h : Laid offset bytes ls) : ∀ l ∈ ls, l.span.start < l.span.stop := by
  induction h with
  | nothing offset => simp
  | blank skipped behind ih => exact ih
  | lexeme some behind ih =>
      have hTaken := List.length_pos_of_ne_nil some
      exact List.forall_mem_cons.2 ⟨Nat.lt_add_of_pos_right hTaken, ih⟩

/-- Lexemes stand one behind the other. -/
theorem pairwise (h : Laid offset bytes ls) :
    ls.Pairwise fun l m => l.span.stop ≤ m.span.start := by
  induction h with
  | nothing offset => exact .nil
  | blank skipped behind ih => exact ih
  | lexeme some behind ih => exact .cons (fun m hm => (behind.within m hm).1) ih

/-- Nothing but blanks stands before the first lexeme and between one and the next. -/
theorem gaps (h : Laid offset bytes ls) {all : List UInt8}
    (hAll : ∀ i b, bytes[i]? = some b → all[offset + i]? = some b) :
    (∀ l ∈ ls.head?, BlankBetween all offset l.span.start) ∧
      ls.IsChain fun l m => BlankBetween all l.span.stop m.span.start := by
  induction h with
  | nothing offset => simp
  | @blank offset b bytes ls skipped behind ih =>
      obtain ⟨hFirst, hNext⟩ := ih fun i c hc => by
        rw [Nat.add_assoc, Nat.add_comm 1]
        exact hAll (i + 1) c (by simpa using hc)
      refine ⟨fun l hl i hStart hStop => ?_, hNext⟩
      rcases Nat.eq_or_lt_of_le hStart with rfl | hLater
      · exact ⟨b, hAll 0 b rfl, skipped⟩
      · exact hFirst l hl i hLater hStop
  | @lexeme offset t taken bytes ls some behind ih =>
      obtain ⟨hFirst, hNext⟩ := ih fun i c hc => by
        rw [Nat.add_assoc]
        refine hAll (taken.length + i) c ?_
        rw [List.getElem?_append_right (Nat.le_add_right _ _), Nat.add_sub_cancel_left, hc]
      refine ⟨?_, List.isChain_cons.2 ⟨hFirst, hNext⟩⟩
      rintro l ⟨⟩ i hStart hStop
      exact absurd hStop (Nat.not_lt_of_le hStart)

end Laid

/-- The spans of the lexemes of a text are not empty, within the text, one behind the other, and
with nothing but blanks before and between them. Each is made of whole characters, which alone are
read as the lexeme's token and nothing else. -/
theorem spans_tile_text {code : String} {ls : List Lexeme} (h : lex code = .ok ls) :
    (∀ l ∈ ls, l.span.start < l.span.stop ∧ l.span.stop ≤ code.utf8ByteSize) ∧
    (ls.Pairwise fun l m => l.span.stop ≤ m.span.start) ∧
    (∀ l ∈ ls.head?, BlankBetween (bytesOf code) 0 l.span.start) ∧
    (ls.IsChain fun l m => BlankBetween (bytesOf code) l.span.stop m.span.start) ∧
    ∀ l ∈ ls, StandsAlone code l := by
  have hLaid := laid_of_lexFrom h
  obtain ⟨behind, hBytes⟩ := List.takeWhile_prefix (l := bytesOf code) (· != 0)
  have hSplit : bytesOf code = beforeZero (bytesOf code) ++ behind := hBytes.symm
  have hWithin := hLaid.within
  have hLength : (beforeZero (bytesOf code)).length ≤ code.utf8ByteSize := by
    rw [← length_bytesOf]
    conv_rhs => rw [hSplit, List.length_append]
    exact Nat.le_add_right _ _
  have hAll (i : Nat) (b : UInt8) (hb : (beforeZero (bytesOf code))[i]? = some b) :
      (bytesOf code)[0 + i]? = some b := by
    rw [Nat.zero_add, hSplit, List.getElem?_append_left (List.getElem?_eq_some_iff.1 hb).1, hb]
  obtain ⟨hFirst, hNext⟩ := hLaid.gaps hAll
  refine ⟨fun l hl => ⟨hLaid.start_lt_stop l hl, ?_⟩, hLaid.pairwise, hFirst, hNext,
    standsAlone_of_lex h⟩
  have hStop := (hWithin l hl).2
  omega

/-- Tokens that end where others could go on: a number before a range, a range before a sign, and a
name before a longer character. -/
def rangeText : String := "1..=-2 a..:\"\u00e9\"b"

def rangeTextLexemes : List Lexeme :=
  [⟨.integer 1, 0, 1⟩, ⟨.inclusiveRange, 1, 4⟩, ⟨.integer (-2), 4, 6⟩, ⟨.identifier "a", 7, 8⟩,
    ⟨.exclusiveRange, 8, 10⟩, ⟨.symbol "\u00e9", 10, 15⟩, ⟨.identifier "b", 15, 16⟩]

/-- Each of the tokens can be cut out of the text, and the blank behind the first range is in
none. -/
theorem spans_tile_rangeText :
    lex rangeText = .ok rangeTextLexemes ∧ (∀ l ∈ rangeTextLexemes, StandsAlone rangeText l) ∧
      BlankBetween (bytesOf rangeText) 6 7 := by
  have hLex : lex rangeText = .ok rangeTextLexemes := by decide +kernel
  obtain ⟨-, -, -, hGaps, hAlone⟩ := spans_tile_text hLex
  exact ⟨hLex, hAlone, (List.isChain_cons_cons.1 hGaps.tail.tail).1⟩

end CaseMatch.Surface
