import CaseMatch.Proofs.Surface.TextBytes
import CaseMatch.Proofs.Surface.ValueReading

/-!
Which bytes are read as which tokens. A piece of a text is read as some tokens if the tokens of
what stands behind it come behind them; pieces can be put one behind the other.
-/

namespace CaseMatch.Surface

/-! ### One step -/

/-- What is read where no blanks are in front. -/
def lexHere (start : Nat) : List UInt8 → Except Fault (List Lexeme)
  | [] => .ok []
  | b :: rest =>
    if b = 0 then .ok []
    else
      match token b rest with
      | .error fault => .error (fault.shift start)
      | .ok (t, length) =>
        (lexFrom (start + length) ((b :: rest).drop length)).map (⟨t, start, start + length⟩ :: ·)

/-- Lexing begins behind the blanks at the front. -/
theorem lexFrom_eq (offset : Nat) (bytes : List UInt8) :
    lexFrom offset bytes = lexHere (offset + (bytes.takeWhile isBlank).length)
      (bytes.drop (bytes.takeWhile isBlank).length) := by
  rw [lexFrom.eq_def]
  dsimp only
  split
  · rename_i hLeft
    rw [hLeft, lexHere]
  · rename_i b rest hLeft
    rw [hLeft, lexHere]
    split
    · rfl
    · split
      · rename_i hTaken
        rw [hTaken]
      · rename_i t length hTaken
        rw [hTaken]
        dsimp only
        cases lexFrom (offset + (bytes.takeWhile isBlank).length + length)
          ((b :: rest).drop length) <;> rfl

theorem lexFrom_nil (offset : Nat) : lexFrom offset [] = .ok [] := by
  rw [lexFrom_eq]
  rfl

/-- A blank is skipped. -/
theorem lexFrom_blank {b : UInt8} (h : isBlank b = true) (offset : Nat) (rest : List UInt8) :
    lexFrom offset (b :: rest) = lexFrom (offset + 1) rest := by
  rw [lexFrom_eq, lexFrom_eq (offset + 1), List.takeWhile_cons_of_pos h, List.length_cons,
    List.drop_succ_cons, Nat.add_assoc, Nat.add_comm 1]

/-- A token is taken off the front. -/
theorem lexFrom_token {b : UInt8} {rest : List UInt8} {t : Token} {n : Nat}
    (hBlank : isBlank b = false) (hZero : b ≠ 0) (h : token b rest = .ok (t, n)) (offset : Nat) :
    lexFrom offset (b :: rest) = (lexFrom (offset + n) ((b :: rest).drop n)).map
      (⟨t, offset, offset + n⟩ :: ·) := by
  rw [lexFrom_eq, List.takeWhile_cons_of_neg (by simp [hBlank])]
  simp only [List.length_nil, Nat.add_zero, List.drop_zero, lexHere, if_neg hZero, h]

/-- Where no token can be read at the front, no more is read. -/
theorem lexFrom_fault {b : UInt8} {rest : List UInt8} {fault : Fault} (hBlank : isBlank b = false)
    (hZero : b ≠ 0) (h : token b rest = .error fault) (offset : Nat) :
    lexFrom offset (b :: rest) = .error (fault.shift offset) := by
  rw [lexFrom_eq, List.takeWhile_cons_of_neg (by simp [hBlank])]
  simp only [List.length_nil, Nat.add_zero, List.drop_zero, lexHere, if_neg hZero, h]

/-- The token at the front is made of these bytes and no others. -/
def Begins (t : Token) (own behind : List UInt8) : Prop :=
  ∃ b body, own = b :: body ∧ isBlank b = false ∧ b ≠ 0 ∧
    token b (body ++ behind) = .ok (t, own.length)

/-- A token that the bytes begin with is the first lexeme, with the span of those bytes. -/
theorem lexFrom_of_begins {t : Token} {own behind : List UInt8} (h : Begins t own behind)
    (offset : Nat) : lexFrom offset (own ++ behind) =
      (lexFrom (offset + own.length) behind).map (⟨t, offset, offset + own.length⟩ :: ·) := by
  obtain ⟨b, body, rfl, hBlank, hZero, hToken⟩ := h
  have hDrop : (b :: (body ++ behind)).drop (b :: body).length = behind := by simp
  rw [List.cons_append, lexFrom_token hBlank hZero hToken, hDrop]

/-! ### Pieces of a text -/

/-- Bytes in front of others are read as some tokens: wherever they stand, their tokens come
before those of what is behind. -/
def Lexes (bytes : List UInt8) (tokens : List Token) (behind : List UInt8) : Prop :=
  ∀ offset ls, lexFrom (offset + bytes.length) behind = .ok ls →
    ∃ front, tokensOf front = tokens ∧ lexFrom offset (bytes ++ behind) = .ok (front ++ ls)

namespace Lexes

variable {bytes more behind : List UInt8} {tokens others : List Token}

/-- Bytes that are lexed behind others give their tokens behind those of the others. -/
theorem append (h : Lexes bytes tokens (more ++ behind)) (hMore : Lexes more others behind) :
    Lexes (bytes ++ more) (tokens ++ others) behind := by
  intro offset ls hBehind
  rw [List.length_append, ← Nat.add_assoc] at hBehind
  obtain ⟨back, hOthers, hBack⟩ := hMore _ ls hBehind
  obtain ⟨front, hTokens, hFront⟩ := h offset _ hBack
  refine ⟨front ++ back, by rw [tokensOf, List.map_append, ← hTokens, ← hOthers], ?_⟩
  rw [List.append_assoc, List.append_assoc, hFront]

theorem blank {b : UInt8} (h : isBlank b = true) : Lexes [b] [] behind := by
  intro offset ls hBehind
  exact ⟨[], rfl, by rw [List.singleton_append, lexFrom_blank h]; exact hBehind⟩

theorem of_begins {t : Token} (h : Begins t bytes behind) : Lexes bytes [t] behind := by
  intro offset ls hBehind
  exact ⟨[⟨t, offset, offset + bytes.length⟩], rfl, by rw [lexFrom_of_begins h, hBehind]; rfl⟩

theorem token {b : UInt8} {body : List UInt8} {t : Token} (hBlank : isBlank b = false)
    (hZero : b ≠ 0) (h : Surface.token b (body ++ behind) = .ok (t, body.length + 1)) :
    Lexes (b :: body) [t] behind :=
  .of_begins ⟨b, body, rfl, hBlank, hZero, h⟩

theorem leftBracket : Lexes [91] [.leftBracket] behind := token rfl (by decide) rfl

theorem rightBracket : Lexes [93] [.rightBracket] behind := token rfl (by decide) rfl

theorem leftCurly : Lexes [123] [.leftCurly] behind := token rfl (by decide) rfl

theorem rightCurly : Lexes [125] [.rightCurly] behind := token rfl (by decide) rfl

/-- The comma between two items. -/
theorem comma : Lexes [44, 32] [.comma] behind := by
  have hComma : Lexes [44] [.comma] ([32] ++ behind) := token rfl (by decide) rfl
  exact hComma.append (blank rfl)

/-- The arrow between a key and its value. -/
theorem fatArrow : Lexes [32, 61, 62, 32] [.fatArrow] behind := by
  have hArrow : Lexes [61, 62] [.fatArrow] ([32] ++ behind) := token rfl (by decide) rfl
  have hBlank : Lexes [32] [] ([61, 62, 32] ++ behind) := blank rfl
  exact hBlank.append (hArrow.append (blank rfl))

end Lexes

/-! ### Words -/

/-- Bytes that no word and no number goes on with. -/
def Isolated (behind : List UInt8) : Prop :=
  ∀ b ∈ behind.head?, isWordPart b = false ∧ charOf b ≠ '.'

/-- The bytes of a word. -/
def IsWord (bytes : List UInt8) : Prop :=
  ∃ b rest, bytes = b :: rest ∧ isWordStart b = true ∧ ∀ c ∈ rest, isWordPart c = true

theorem takeWhile_append_eq_left {p : UInt8 → Bool} {bytes behind : List UInt8}
    (h : ∀ b ∈ bytes, p b = true) (hBehind : ∀ b ∈ behind.head?, p b = false) :
    (bytes ++ behind).takeWhile p = bytes := by
  rw [List.takeWhile_append_of_pos h]
  cases behind with
  | nil => simp
  | cons b behind => simp [hBehind b rfl]

section words

variable {behind : List UInt8}

/-- A word is as long as it is written, if no part of a word stands behind it. -/
theorem wordLength_append {bytes : List UInt8} (h : IsWord bytes)
    (hBehind : ∀ b ∈ behind.head?, isWordPart b = false) :
    wordLength (bytes ++ behind) = bytes.length := by
  obtain ⟨b, rest, rfl, hStart, hRest⟩ := h
  rw [List.cons_append, wordLength, if_pos hStart, takeWhile_append_eq_left hRest hBehind,
    List.length_cons]

/-- A word that ends where the bytes do not go on with it is cut off whole. -/
theorem slice_word {word : String} (h : IsWord (bytesOf word))
    (hBehind : ∀ b ∈ behind.head?, isWordPart b = false) :
    slice ((bytesOf word ++ behind).take (wordLength (bytesOf word ++ behind))) = .ok word := by
  rw [wordLength_append h hBehind, List.take_left, slice_bytesOf]

/-- A word is a token of its own, if it cannot go on. -/
theorem begins_word {word : String} (h : IsWord (bytesOf word))
    (hBehind : ∀ b ∈ behind.head?, isWordPart b = false) :
    Begins (wordToken word) (bytesOf word) behind := by
  have hSlice := slice_word h hBehind
  have hLength := wordLength_append h hBehind
  obtain ⟨b, rest, hBytes, hStart, -⟩ := h
  have hNumber := isWordStart_iff.1 hStart
  rw [hBytes, List.cons_append] at hSlice hLength
  rw [hBytes]
  refine ⟨b, rest, rfl, isBlank_of_lt (by omega), ne_zero_of_lt (by omega), ?_⟩
  rw [token, if_pos hStart]
  dsimp only
  rw [hSlice, hLength]
  rfl

/-- A colon and a word are a symbol, if the word cannot go on. -/
theorem begins_symbol {name : String} (h : IsWord (bytesOf name))
    (hBehind : ∀ b ∈ behind.head?, isWordPart b = false) :
    Begins (.symbol name) (58 :: bytesOf name) behind := by
  have hSlice := slice_word h hBehind
  have hLength := wordLength_append h hBehind
  obtain ⟨b, rest, hBytes, hStart, -⟩ := h
  have hNumber := isWordStart_iff.1 hStart
  have hSlash : '/'.toNat < b.toNat := Nat.lt_of_lt_of_le (by decide : _ < 65) (by omega)
  have hQuote : '"'.toNat < b.toNat := Nat.lt_of_lt_of_le (by decide : _ < 65) (by omega)
  rw [hBytes, List.cons_append] at hSlice hLength
  rw [hBytes]
  refine ⟨58, b :: rest, rfl, rfl, by decide, ?_⟩
  have hSymbol : symbolToken (b :: (rest ++ behind)) = .ok (.symbol name, rest.length + 2) := by
    rw [symbolToken, if_neg (charOf_ne hSlash), if_neg (charOf_ne hQuote), if_pos hStart]
    dsimp only
    rw [hSlice, hLength]
    rfl
  exact hSymbol

/-- A word is read as its token. -/
theorem lexes_word {word : String} (h : IsWord (bytesOf word)) (hBehind : Isolated behind) :
    Lexes (bytesOf word) [wordToken word] behind :=
  .of_begins (begins_word h fun b hb => (hBehind b hb).1)

/-- A colon with a word behind it is read as a symbol. -/
theorem lexes_symbol {name : String} (h : IsWord (bytesOf name)) (hBehind : Isolated behind) :
    Lexes (58 :: bytesOf name) [.symbol name] behind :=
  .of_begins (begins_symbol h fun b hb => (hBehind b hb).1)

end words

/-! ### Strings -/

/-- A text without its delimiter and without U+0000 is taken up to the next delimiter. -/
theorem enclosed_append {text : String} {delimiter : UInt8} {behind : List UInt8}
    (h : ∀ b ∈ bytesOf text, b ≠ delimiter ∧ b ≠ 0) :
    enclosed delimiter delimiter (bytesOf text ++ delimiter :: behind) =
      .ok (text, (bytesOf text).length + 2) := by
  have hBody : (bytesOf text ++ delimiter :: behind).takeWhile
      (fun b => b != delimiter && b != 0) = bytesOf text :=
    takeWhile_append_eq_left (by simpa using h) (by simp)
  have hDelimited : delimited delimiter (bytesOf text ++ delimiter :: behind) =
      (bytesOf text, true) := by
    rw [delimited, hBody]
    simp
  rw [enclosed, hDelimited]
  dsimp only
  rw [if_pos rfl, slice_bytesOf]
  rfl

/-- A text in double quotes that needs no escapes is read as a string. -/
theorem lexes_string {text : String} (h : ∀ c ∈ text.toList, escaped '"' c = [c])
    {behind : List UInt8} : Lexes (bytesOf (quoted text)) [.string text] behind := by
  have hPlain : text.toList.flatMap (escaped '"') = text.toList := by
    rw [List.flatMap_congr h]
    simp
  have hQuoted : quoted text = "\"" ++ text ++ "\"" := by
    rw [← String.toList_inj, quoted, hPlain]
    simp
  have hBytes : bytesOf (quoted text) = 34 :: (bytesOf text ++ [34]) := by
    rw [hQuoted, bytesOf_append, bytesOf_append]
    rfl
  have hBody : ∀ b ∈ bytesOf text, b ≠ 34 ∧ b ≠ 0 := by
    intro b hb
    constructor
    · rintro rfl
      have hQuote := h _ (mem_toList_of_mem_bytesOf (c := '"') (by decide) hb)
      revert hQuote
      decide
    · rintro rfl
      have hNull := h _ (mem_toList_of_mem_bytesOf (c := '\x00') (by decide) hb)
      revert hNull
      decide
  rw [hBytes]
  refine .token rfl (by decide) ?_
  rw [List.append_assoc, List.singleton_append, List.length_append, List.length_singleton]
  change (enclosed 34 34 (bytesOf text ++ 34 :: behind) >>= _) = _
  rw [enclosed_append hBody]
  rfl

end CaseMatch.Surface
