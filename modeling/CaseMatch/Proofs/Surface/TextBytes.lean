import CaseMatch.Pattern.Basic
import CaseMatch.Surface.Lexer
import Mathlib.Logic.Basic

/-!
The bytes of a text. They give the text back, and a byte below 128 is a character of the text:
all bytes of a longer character are above.
-/

namespace CaseMatch.Surface

theorem bytesOf_eq_flatMap (text : String) :
    bytesOf text = text.toList.flatMap String.utf8EncodeChar := by
  have hBytes : text.toByteArray = (text.toList.flatMap String.utf8EncodeChar).toByteArray :=
    String.utf8Encode_toList.symm
  rw [bytesOf, String.toUTF8, hBytes, List.data_toByteArray]

@[simp]
theorem bytesOf_append (s t : String) : bytesOf (s ++ t) = bytesOf s ++ bytesOf t := by
  simp [bytesOf_eq_flatMap]

theorem length_bytesOf (text : String) : (bytesOf text).length = text.utf8ByteSize := rfl

/-- The bytes of a text are read back as the text. -/
theorem textOf?_bytesOf (text : String) : textOf? (bytesOf text) = some text := by
  have hBytes : (⟨(bytesOf text).toArray⟩ : ByteArray) = text.toByteArray := rfl
  rw [textOf?, hBytes, String.fromUTF8?, dif_pos text.isValidUTF8]
  rfl

theorem slice_bytesOf (text : String) : slice (bytesOf text) = .ok text := by
  rw [slice, textOf?_bytesOf]

/-- The byte of a character that has but one. -/
def byteOf (c : Char) : UInt8 := UInt8.ofNat c.toNat

theorem toNat_byteOf {c : Char} (h : c.toNat < 128) : (byteOf c).toNat = c.toNat := by
  rw [byteOf, UInt8.toNat_ofNat']
  omega

theorem toNat_charOf (b : UInt8) : (charOf b).toNat = b.toNat := by
  have hByte := b.toNat_lt
  have hValid : b.toNat.isValidChar := .inl (by omega)
  rw [charOf, Char.ofNat, dif_pos hValid]
  rfl

theorem charOf_byteOf {c : Char} (h : c.toNat < 128) : charOf (byteOf c) = c := by
  rw [charOf, toNat_byteOf h, Char.ofNat_toNat]

/-- Which byte has a character with one byte. -/
theorem byte_of_charOf {b : UInt8} {c : Char} (h : charOf b = c) : b = byteOf c := by
  rw [← UInt8.toNat_inj, byteOf, UInt8.toNat_ofNat', ← h, toNat_charOf]
  exact (Nat.mod_eq_of_lt b.toNat_lt).symm

theorem utf8EncodeChar_of_lt {c : Char} (h : c.toNat < 128) :
    String.utf8EncodeChar c = [byteOf c] := by
  have hVal : c.val.toNat ≤ 127 := Nat.le_of_lt_succ h
  simp only [String.utf8EncodeChar, if_pos hVal]
  rfl

/-- The bytes of a character that is not ASCII are none below 128. -/
theorem le_of_mem_utf8EncodeChar {c : Char} (h : 128 ≤ c.toNat) {b : UInt8}
    (hb : b ∈ String.utf8EncodeChar c) : 128 ≤ b.toNat := by
  have hVal : ¬c.val.toNat ≤ 127 := Nat.not_le_of_lt h
  simp only [String.utf8EncodeChar, if_neg hVal] at hb
  -- the bytes of a character that has more than one are made by adding at least 128
  have hMade (m : Nat) (n : Nat) (hm : 128 ≤ m) (hn : n + m < 256) :
      128 ≤ (UInt8.ofNat (n + m)).toNat := by
    rw [UInt8.toNat_ofNat']
    omega
  split at hb
  · simp only [List.mem_cons, List.not_mem_nil, or_false] at hb
    rcases hb with rfl | rfl <;> exact hMade _ _ (by decide) (by omega)
  · split at hb
    · simp only [List.mem_cons, List.not_mem_nil, or_false] at hb
      rcases hb with rfl | rfl | rfl <;> exact hMade _ _ (by decide) (by omega)
    · simp only [List.mem_cons, List.not_mem_nil, or_false] at hb
      rcases hb with rfl | rfl | rfl | rfl <;> exact hMade _ _ (by decide) (by omega)

/-- Texts of characters with one byte each. -/
theorem bytesOf_of_ascii {text : String} (h : ∀ c ∈ text.toList, c.toNat < 128) :
    bytesOf text = text.toList.map byteOf := by
  rw [bytesOf_eq_flatMap]
  generalize text.toList = cs at h
  induction cs with
  | nil => rfl
  | cons c cs ih =>
      rw [List.forall_mem_cons] at h
      rw [List.flatMap_cons, utf8EncodeChar_of_lt h.1, ih h.2]
      rfl

/-- A byte below 128 among those of a text is the byte of one of its characters. -/
theorem mem_toList_of_mem_bytesOf {text : String} {c : Char} (hc : c.toNat < 128)
    (h : byteOf c ∈ bytesOf text) : c ∈ text.toList := by
  rw [bytesOf_eq_flatMap, List.mem_flatMap] at h
  obtain ⟨d, hd, hMem⟩ := h
  rcases Nat.lt_or_ge d.toNat 128 with hSmall | hLarge
  · rw [utf8EncodeChar_of_lt hSmall, List.mem_singleton] at hMem
    rwa [← charOf_byteOf hc, hMem, charOf_byteOf hSmall]
  · have hByte := le_of_mem_utf8EncodeChar hLarge hMem
    rw [toNat_byteOf hc] at hByte
    omega

/-- A byte below 128 among those of some characters is the byte of one of them. -/
theorem exists_chars_of_flatMap {cs : List Char} {before after : List UInt8} {b : UInt8}
    (hb : b.toNat < 128) (h : cs.flatMap String.utf8EncodeChar = before ++ b :: after) :
    ∃ front back, cs = front ++ charOf b :: back ∧
      front.flatMap String.utf8EncodeChar = before ∧
      back.flatMap String.utf8EncodeChar = after := by
  induction cs generalizing before with
  | nil => simp at h
  | cons c cs ih =>
      rw [List.flatMap_cons] at h
      rcases List.append_eq_append_iff.1 h with ⟨mid, hBefore, hRest⟩ | ⟨mid, hEncoded, hRest⟩
      · obtain ⟨front, back, rfl, hFront, hBack⟩ := ih hRest
        exact ⟨c :: front, back, rfl, by rw [List.flatMap_cons, hFront, hBefore], hBack⟩
      · cases mid with
        | nil =>
            rw [List.append_nil] at hEncoded
            have hAll : cs.flatMap String.utf8EncodeChar = [] ++ b :: after := hRest.symm
            obtain ⟨front, back, rfl, hFront, hBack⟩ := ih hAll
            exact ⟨c :: front, back, rfl, by rw [List.flatMap_cons, hFront, hEncoded]; simp, hBack⟩
        | cons b' mid =>
            obtain ⟨rfl, hAfter⟩ := List.cons.inj hRest
            rcases Nat.lt_or_ge c.toNat 128 with hSmall | hLarge
            · rw [utf8EncodeChar_of_lt hSmall] at hEncoded
              rcases List.append_eq_singleton_iff.1 hEncoded.symm with ⟨rfl, hByte⟩ | ⟨-, hNone⟩
              · obtain ⟨rfl, rfl⟩ := List.cons.inj hByte
                exact ⟨[], cs, by rw [charOf_byteOf hSmall]; rfl, rfl, hAfter.symm⟩
              · cases hNone
            · have hMem : b ∈ String.utf8EncodeChar c := by simp [hEncoded]
              exact absurd (le_of_mem_utf8EncodeChar hLarge hMem) (Nat.not_le_of_lt hb)

/-- A text can be cut on both sides of a byte below 128. -/
theorem exists_texts_around {text : String} {before after : List UInt8} {b : UInt8}
    (hb : b.toNat < 128) (h : bytesOf text = before ++ b :: after) :
    ∃ front own back, text = front ++ own ++ back ∧ bytesOf front = before ∧
      bytesOf own = [b] ∧ bytesOf back = after := by
  rw [bytesOf_eq_flatMap] at h
  obtain ⟨front, back, hText, hFront, hBack⟩ := exists_chars_of_flatMap hb h
  refine ⟨String.ofList front, String.singleton (charOf b), String.ofList back, ?_, ?_, ?_, ?_⟩
  · rw [← String.toList_inj, hText]
    simp
  · rw [bytesOf_eq_flatMap, String.toList_ofList, hFront]
  · have hChar : (charOf b).toNat < 128 := by rwa [toNat_charOf]
    have hByte : byteOf (charOf b) = b := (byte_of_charOf rfl).symm
    rw [bytesOf_eq_flatMap, String.toList_singleton, List.flatMap_singleton,
      utf8EncodeChar_of_lt hChar, hByte]
  · rw [bytesOf_eq_flatMap, String.toList_ofList, hBack]

/-! ### Classes of bytes -/

theorem isDigit_iff {b : UInt8} : isDigit b = true ↔ 48 ≤ b.toNat ∧ b.toNat ≤ 57 := by
  simp only [isDigit, decide_eq_true_eq, UInt8.le_iff_toNat_le]
  rfl

theorem isWordStart_iff {b : UInt8} : isWordStart b = true ↔
    ((65 ≤ b.toNat ∧ b.toNat ≤ 90) ∨ 97 ≤ b.toNat ∧ b.toNat ≤ 122) ∨ b.toNat = 95 := by
  simp only [isWordStart, isUpper, Bool.or_eq_true, decide_eq_true_eq, beq_iff_eq,
    UInt8.le_iff_toNat_le, ← UInt8.toNat_inj]
  rfl

theorem isWordPart_iff {b : UInt8} :
    isWordPart b = true ↔ isWordStart b = true ∨ isDigit b = true := by
  simp only [isWordPart, Bool.or_eq_true]

theorem isBlank_of_lt {b : UInt8} (h : 32 < b.toNat) : isBlank b = false := by
  rw [Bool.eq_false_iff]
  intro hBlank
  have hCases : b = 32 ∨ b = 9 ∨ b = 10 ∨ b = 12 ∨ b = 13 := by
    simpa only [isBlank, Bool.or_eq_true, beq_iff_eq, or_assoc] using hBlank
  rcases hCases with rfl | rfl | rfl | rfl | rfl <;> revert h <;> decide

theorem ne_zero_of_lt {b : UInt8} (h : 32 < b.toNat) : b ≠ 0 := by
  rintro rfl
  revert h
  decide

theorem charOf_ne {b : UInt8} {c : Char} (h : c.toNat < b.toNat) : charOf b ≠ c := by
  rintro rfl
  rw [toNat_charOf] at h
  omega

/-! ### Classes of characters -/

/-- What holds of all 128 ASCII characters, one by one. -/
theorem forall_ascii {P : Char → Prop} (h : ∀ n : Fin 128, P (Char.ofNat n)) {c : Char}
    (hAscii : c.toNat < 128) : P c := by
  have hChar := h ⟨c.toNat, hAscii⟩
  rwa [Char.ofNat_toNat] at hChar

theorem isDigit_char_iff {c : Char} : c.isDigit = true ↔ 48 ≤ c.toNat ∧ c.toNat ≤ 57 := by
  simp only [Char.isDigit, Bool.and_eq_true, decide_eq_true_eq, UInt32.le_iff_toNat_le]
  rfl

theorem isNameStart_iff {c : Char} : isNameStart c = true ↔
    ((65 ≤ c.toNat ∧ c.toNat ≤ 90) ∨ 97 ≤ c.toNat ∧ c.toNat ≤ 122) ∨ c.toNat = 95 := by
  have hClasses : isNameStart c = ((decide ('A'.val ≤ c.val ∧ c.val ≤ 'Z'.val) ||
      (decide ('a'.val ≤ c.val) && decide (c.val ≤ 'z'.val))) || c == '_') := rfl
  simp only [hClasses, Bool.or_eq_true, Bool.and_eq_true, decide_eq_true_eq, beq_iff_eq,
    UInt32.le_iff_toNat_le, ← Char.toNat_inj]
  rfl

/-- A character of a name is one that a name can begin with, or a digit. -/
theorem isNamePart_iff {c : Char} :
    isNamePart c = true ↔ isNameStart c = true ∨ c.isDigit = true := by
  simp only [isNamePart, isNameStart, Char.isAlphanum, Bool.or_eq_true]
  exact or_right_comm

theorem isDigit_byteOf {c : Char} (h : c.isDigit = true) :
    c.toNat < 128 ∧ isDigit (byteOf c) = true := by
  have hNumber := isDigit_char_iff.1 h
  have hAscii : c.toNat < 128 := by omega
  exact ⟨hAscii, by rwa [isDigit_iff, toNat_byteOf hAscii]⟩

theorem isWordStart_byteOf {c : Char} (h : isNameStart c = true) :
    c.toNat < 128 ∧ isWordStart (byteOf c) = true := by
  have hNumber := isNameStart_iff.1 h
  have hAscii : c.toNat < 128 := by omega
  exact ⟨hAscii, by rwa [isWordStart_iff, toNat_byteOf hAscii]⟩

theorem isWordPart_byteOf {c : Char} (h : isNamePart c = true) :
    c.toNat < 128 ∧ isWordPart (byteOf c) = true := by
  rw [isWordPart_iff]
  rcases isNamePart_iff.1 h with hStart | hDigit
  · exact ⟨(isWordStart_byteOf hStart).1, .inl (isWordStart_byteOf hStart).2⟩
  · exact ⟨(isDigit_byteOf hDigit).1, .inr (isDigit_byteOf hDigit).2⟩

end CaseMatch.Surface
