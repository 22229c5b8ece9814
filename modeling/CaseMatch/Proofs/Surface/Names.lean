import CaseMatch.Proofs.Surface.Spans

/-!
Names in a text. A word of the notation is a valid name of a variable, and a capitalized one is the
name of a kind: no blank is at its ends, and it is not empty. So that a name is valid is asked of
the tokens of a text once more than needed.
-/

namespace CaseMatch

/-! ### Names of kinds -/

/-- The kind that a capitalized name stands for. -/
def kindNamed (name : String) : Kind :=
  match name with
  | "Nil" | "NilClass" => .nil
  | "Boolean" | "Bool" => .boolean
  | "Integer" => .integer
  | "Float" => .float
  | "Numeric" => .numeric
  | "String" => .string
  | "Symbol" => .symbol
  | "Array" => .array
  | "Hash" | "Map" => .map
  | other => .object other

/-- A name of a variable that begins with a capital letter. -/
def IsKindName (name : String) : Prop :=
  isVariableName name = true ∧ ∃ first rest, name.toList = first :: rest ∧ first.isUpper = true

namespace Unicode

/-- No character of a name is blank. -/
theorem not_whiteSpace_of_isNamePart {c : Char} (h : isNamePart c = true) :
    whiteSpace.contains c = false :=
  Surface.forall_ascii (P := fun c => isNamePart c = true → whiteSpace.contains c = false)
    (by decide +kernel) (Surface.isWordPart_byteOf h).1 h

end Unicode

/-- Every character of a name can be a part of one. -/
theorem forall_isNamePart {name : String} (h : isVariableName name = true) :
    ∀ c ∈ name.toList, isNamePart c = true := by
  rw [isVariableName] at h
  split at h
  · cases h
  · rename_i first rest hName
    rw [Bool.and_eq_true, List.all_eq_true] at h
    rw [hName, List.forall_mem_cons]
    exact ⟨Surface.isNamePart_iff.2 (.inl h.1), h.2⟩

/-- Nothing is taken off the ends of a name. -/
theorem Kind.trimmed_of_isVariableName {name : String} (h : isVariableName name = true) :
    Kind.trimmed name = name := by
  have hDrop {cs : List Char} (hcs : ∀ c ∈ cs, isNamePart c = true) :
      cs.dropWhile Unicode.whiteSpace.contains = cs := by
    cases cs with
    | nil => rfl
    | cons c cs =>
        rw [List.dropWhile_cons_of_neg]
        simp [Unicode.not_whiteSpace_of_isNamePart (hcs c List.mem_cons_self)]
  have hParts := forall_isNamePart h
  rw [trimmed, hDrop hParts, hDrop fun c hc => hParts c (List.mem_reverse.1 hc),
    List.reverse_reverse, String.ofList_toList]

/-- A capitalized name is the name of a kind. -/
theorem Kind.ofName_of_isKindName {name : String} (h : IsKindName name) :
    Kind.ofName name = .ok (kindNamed name) := by
  obtain ⟨hName, first, rest, hList, hUpper⟩ := h
  rw [ofName.eq_def, trimmed_of_isVariableName hName, kindNamed.eq_def]
  split
  iterate 12 · rfl
  · simp at hList
  · simp [hList, hUpper]

namespace Surface

/-! ### Names of variables -/

theorem isNameStart_of_isWordStart {c : Char} (hAscii : c.toNat < 128)
    (h : isWordStart (byteOf c) = true) : isNameStart c = true := by
  rwa [isWordStart_iff, toNat_byteOf hAscii, ← isNameStart_iff] at h

/-- A byte of a word is the character of a name. -/
theorem isNamePart_of_isWordPart {c : Char} (hAscii : c.toNat < 128)
    (h : isWordPart (byteOf c) = true) : isNamePart c = true := by
  rw [isNamePart_iff]
  refine (isWordPart_iff.1 h).imp (isNameStart_of_isWordStart hAscii) fun hDigit => ?_
  rwa [isDigit_iff, toNat_byteOf hAscii, ← isDigit_char_iff] at hDigit

/-- A text whose bytes are all below 128 has no other characters. -/
theorem ascii_of_bytesOf {text : String} (h : ∀ b ∈ bytesOf text, b.toNat < 128) :
    ∀ c ∈ text.toList, c.toNat < 128 := by
  intro c hc
  by_contra hLarge
  obtain ⟨b, hb⟩ := List.exists_mem_of_ne_nil _ (String.utf8EncodeChar_ne_nil (c := c))
  have hByte := le_of_mem_utf8EncodeChar (Nat.le_of_not_lt hLarge) hb
  have hMem : b ∈ bytesOf text := by
    rw [bytesOf_eq_flatMap, List.mem_flatMap]
    exact ⟨c, hc, hb⟩
  exact absurd (h b hMem) (Nat.not_lt_of_le hByte)

/-- The bytes of a word are those of a name. -/
theorem isVariableName_of_isWord {name : String} (h : IsWord (bytesOf name)) :
    isVariableName name = true := by
  obtain ⟨b, rest, hBytes, hStart, hRest⟩ := h
  have hAscii : ∀ c ∈ name.toList, c.toNat < 128 := by
    refine ascii_of_bytesOf ?_
    rw [hBytes, List.forall_mem_cons]
    exact ⟨lt_of_isWordStart hStart, fun c hc => lt_of_isWordPart (hRest c hc)⟩
  rw [bytesOf_of_ascii hAscii] at hBytes
  obtain ⟨first, others, hName, rfl, rfl⟩ := List.map_eq_cons_iff.1 hBytes
  rw [hName, List.forall_mem_cons] at hAscii
  simp only [isVariableName, hName, Bool.and_eq_true, List.all_eq_true]
  exact ⟨isNameStart_of_isWordStart hAscii.1 hStart, fun c hc =>
    isNamePart_of_isWordPart (hAscii.2 c hc) (hRest _ (List.mem_map_of_mem hc))⟩

/-- The name in a token, if there is one, is a valid one. -/
def Token.IsSpelled : Token → Prop
  | .identifier name => isVariableName name = true
  | .typeName name => IsKindName name
  | _ => True

/-- Whatever token a word is, the name in it is spelled as one. -/
theorem isSpelled_wordToken {word : String} (h : IsWord (bytesOf word)) :
    (wordToken word).IsSpelled := by
  have hName := isVariableName_of_isWord h
  rw [wordToken.eq_def]
  split
  iterate 4 · trivial
  · split
    · rename_i first rest hList
      split
      · rename_i hUpper
        exact ⟨hName, first, rest, hList, hUpper⟩
      · exact hName
    · exact hName

/-- The names in a token of any form are spelled as names are. -/
theorem TokenForm.isSpelled {t : Token} {own behind : List UInt8} (h : TokenForm t own behind) :
    t.IsSpelled := by
  cases h with
  | word isWord ends => exact isSpelled_wordToken isWord
  | mark isMark =>
      simp only [marks, List.mem_cons, Prod.mk.injEq, List.not_mem_nil, or_false] at isMark
      rcases isMark with ⟨-, rfl⟩ | ⟨-, rfl⟩ | ⟨-, rfl⟩ | ⟨-, rfl⟩ | ⟨-, rfl⟩ | ⟨-, rfl⟩ | ⟨-, rfl⟩ <;>
        trivial
  | _ => trivial

/-- The names in the lexemes of a text are valid ones. -/
theorem isSpelled_of_lex {code : String} {ls : List Lexeme} (h : lex code = .ok ls) :
    ∀ l ∈ ls, l.token.IsSpelled := by
  intro l hl
  obtain ⟨before, own, after, -, -, hForm⟩ := exists_form_of_lexFrom h l hl
  exact hForm.isSpelled

end Surface

end CaseMatch
