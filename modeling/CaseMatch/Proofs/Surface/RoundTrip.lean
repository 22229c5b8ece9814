import CaseMatch.Proofs.Surface.NumberLexing
import CaseMatch.Value.Text

/-!
Texts of values are read back. What is written for a value that the notation can express is read
as tokens that denote this value, whatever stands behind, as long as it begins no word and no
number.
-/

namespace CaseMatch

/-- Values that the notation can express: their strings need no escapes, their symbols are words,
their floating-point numbers are plain, and none of their parts is an object. -/
inductive Value.Expressible : Value → Prop where
  | nil : Expressible .nil
  | boolean (b : Bool) : Expressible (.boolean b)
  | integer (n : Int64) : Expressible (.integer n)
  | float {x : Binary64} (plain : x.IsPlain) : Expressible (.float x)
  | string {text : String} (unescaped : ∀ c ∈ text.toList, escaped '"' c = [c]) :
      Expressible (.string text)
  | symbol {name : String} (word : isVariableName name = true) : Expressible (.symbol name)
  | array {items : List Value} (parts : ∀ item ∈ items, Expressible item) :
      Expressible (.array items)
  | map {entries : Dict} (keys : ∀ e ∈ entries, Expressible e.1)
      (values : ∀ e ∈ entries, Expressible e.2) : Expressible (.map entries)

namespace Surface

variable {α : Type}

/-- A text is read as tokens that stand for `a`, in front of whatever begins no word and no
number. -/
def ReadsAs (Item : List Token → α → Prop) (text : String) (a : α) : Prop :=
  ∀ behind, Isolated behind → ∃ tokens, Item tokens a ∧ Lexes (bytesOf text) tokens behind

theorem isolated_of_mem {b : UInt8} (h : b ∈ [32, 44, 93, 125]) (behind : List UInt8) :
    Isolated (b :: behind) := by
  rintro _ ⟨⟩
  simp only [List.mem_cons, List.not_mem_nil, or_false] at h
  rcases h with rfl | rfl | rfl | rfl <;> decide

theorem isolated_nil : Isolated [] := nofun

/-! ### Scalars -/

/-- A name is a word, so that it is lexed as one. -/
theorem isWord_of_isVariableName {name : String} (h : isVariableName name = true) :
    IsWord (bytesOf name) := by
  rw [isVariableName] at h
  split at h
  · cases h
  · rename_i first rest hName
    rw [Bool.and_eq_true, List.all_eq_true] at h
    have hAscii : ∀ c ∈ name.toList, c.toNat < 128 := by
      rw [hName, List.forall_mem_cons]
      exact ⟨(isWordStart_byteOf h.1).1, fun c hc => (isWordPart_byteOf (h.2 c hc)).1⟩
    refine ⟨byteOf first, rest.map byteOf, ?_, (isWordStart_byteOf h.1).2, ?_⟩
    · rw [bytesOf_of_ascii hAscii, hName, List.map_cons]
    · intro b hb
      obtain ⟨c, hc, rfl⟩ := List.mem_map.1 hb
      exact (isWordPart_byteOf (h.2 c hc)).2

theorem readsAs_nil : ReadsAs Denotes "nil" .nil := fun _ hBehind =>
  ⟨_, .nil, lexes_word (isWord_of_isVariableName rfl) hBehind⟩

theorem readsAs_boolean (b : Bool) :
    ReadsAs Denotes (if b then "true" else "false") (.boolean b) := fun _ hBehind =>
  match b with
  | true => ⟨_, .boolean true, lexes_word (isWord_of_isVariableName rfl) hBehind⟩
  | false => ⟨_, .boolean false, lexes_word (isWord_of_isVariableName rfl) hBehind⟩

/-- A symbol is written as a colon and its name, and is read as itself. -/
theorem readsAs_symbol {name : String} (h : isVariableName name = true) :
    ReadsAs Denotes (":" ++ name) (.symbol name) := by
  intro behind hBehind
  rw [bytesOf_append]
  exact ⟨_, .symbol name, lexes_symbol (isWord_of_isVariableName h) hBehind⟩

/-! ### Collections -/

/-- Texts with commas between them are read as a list. -/
theorem readsAs_list {Item : List Token → α → Prop} {texts : List String} {items : List α}
    (h : List.Forall₂ (ReadsAs Item) texts items) :
    ReadsAs (Listed Item) (", ".intercalate texts) items := by
  intro behind hBehind
  induction h with
  | nil => exact ⟨[], .empty, fun offset ls hls => ⟨[], rfl, hls⟩⟩
  | @cons text a texts items hText hTexts ih =>
      cases hTexts with
      | nil =>
          obtain ⟨tokens, hItem, hLexes⟩ := hText behind hBehind
          refine ⟨tokens, .one hItem, ?_⟩
          rwa [String.intercalate_singleton]
      | @cons second b others rest hSecond hOthers =>
          obtain ⟨more, hListed, hMore⟩ := ih
          obtain ⟨tokens, hItem, hLexes⟩ := hText
            ([44, 32] ++ bytesOf (", ".intercalate (second :: others)) ++ behind)
            (isolated_of_mem (by decide) _)
          have hComma : Lexes [44, 32] [.comma]
              (bytesOf (", ".intercalate (second :: others)) ++ behind) := .comma
          refine ⟨tokens ++ .comma :: more, .cons hItem hListed, ?_⟩
          rw [String.intercalate_cons_cons, bytesOf_append, bytesOf_append, List.append_assoc]
          exact hLexes.append (hComma.append hMore)

/-- A key and its value with an arrow between them are read as a pair. -/
theorem readsAs_pair {ofKey ofValue : String} {key value : Value}
    (hKey : ReadsAs Denotes ofKey key) (hValue : ReadsAs Denotes ofValue value) :
    ReadsAs DenotesPair (ofKey ++ " => " ++ ofValue) (key, value) := by
  intro behind hBehind
  obtain ⟨right, hRight, hLexesRight⟩ := hValue behind hBehind
  obtain ⟨left, hLeft, hLexesLeft⟩ := hKey ([32, 61, 62, 32] ++ bytesOf ofValue ++ behind)
    (isolated_of_mem (by decide) _)
  have hArrow : Lexes [32, 61, 62, 32] [.fatArrow] (bytesOf ofValue ++ behind) := .fatArrow
  refine ⟨left ++ .fatArrow :: right, .intro hLeft hRight, ?_⟩
  rw [bytesOf_append, bytesOf_append, List.append_assoc]
  exact hLexesLeft.append (hArrow.append hLexesRight)

/-- The text of an array is read as the array of what its items are read as. -/
theorem readsAs_array {texts : List String} {items : List Value}
    (h : List.Forall₂ (ReadsAs Denotes) texts items) :
    ReadsAs Denotes ("[" ++ ", ".intercalate texts ++ "]") (.array items) := by
  intro behind hBehind
  obtain ⟨tokens, hListed, hLexes⟩ :=
    readsAs_list h ([93] ++ behind) (isolated_of_mem (by decide) _)
  refine ⟨_, .array hListed, ?_⟩
  rw [bytesOf_append, bytesOf_append, List.append_assoc]
  exact Lexes.leftBracket.append (hLexes.append Lexes.rightBracket)

/-- The text of a map is read as the map, as its entries come to it one by one. -/
theorem readsAs_map {texts : List String} {entries : Dict} (hCollects : Collects entries entries)
    (h : List.Forall₂ (ReadsAs DenotesPair) texts entries) :
    ReadsAs Denotes ("\x7b" ++ ", ".intercalate texts ++ "\x7d") (.map entries) := by
  intro behind hBehind
  obtain ⟨tokens, hListed, hLexes⟩ :=
    readsAs_list h ([125] ++ behind) (isolated_of_mem (by decide) _)
  refine ⟨_, .map hListed hCollects, ?_⟩
  rw [bytesOf_append, bytesOf_append, List.append_assoc]
  exact Lexes.leftCurly.append (hLexes.append Lexes.rightCurly)

end Surface

/-! ### Values -/

/-- The entries of a map that was built come to this map. -/
theorem Value.Built.collects {entries : Dict} (h : Value.Built (.map entries)) :
    Collects entries entries :=
  collects_iff.2 (h.distinct.ofList_eq fun e he => (h.parts e he).1).symm

theorem Value.itemTexts_eq_map (items : List Value) : itemTexts items = items.map text := by
  induction items with
  | nil => rfl
  | cons item items ih => rw [itemTexts, ih, List.map_cons]

theorem Value.entryTexts_eq_map (entries : Dict) :
    entryTexts entries = entries.map fun e => text e.1 ++ " => " ++ text e.2 := by
  induction entries with
  | nil => rfl
  | cons e entries ih => rw [entryTexts, ih, List.map_cons]

/-- The text of an expressible value is read as tokens that denote the value. -/
theorem Value.Expressible.readsAs {v : Value} (h : v.Expressible) (built : v.Built) :
    Surface.ReadsAs Surface.Denotes v.text v := by
  induction h with
  | nil => exact Surface.readsAs_nil
  | boolean b => exact Surface.readsAs_boolean b
  | integer n => exact fun _ hBehind => ⟨_, .integer n, Surface.lexes_integer n hBehind⟩
  | @float x plain => exact fun _ hBehind => ⟨_, .float x, Surface.lexes_float plain hBehind⟩
  | @string text unescaped => exact fun _ _ => ⟨_, .string text, Surface.lexes_string unescaped⟩
  | symbol word => exact Surface.readsAs_symbol word
  | @array items parts ih =>
      rw [text, itemTexts_eq_map]
      refine Surface.readsAs_array ?_
      rw [List.forall₂_map_left_iff, List.forall₂_same]
      exact fun item hItem => ih item hItem (built.items item hItem)
  | @map entries keys values ihKeys ihValues =>
      rw [text, entryTexts_eq_map]
      refine Surface.readsAs_map built.collects ?_
      rw [List.forall₂_map_left_iff, List.forall₂_same]
      exact fun e he => Surface.readsAs_pair (ihKeys e he (built.parts e he).1)
        (ihValues e he (built.parts e he).2)

/-- Reading undoes printing. -/
theorem Value.parseValue_text {v : Value} (built : v.Built) (h : v.Expressible) :
    parseValue v.text = .ok v := by
  obtain ⟨tokens, hDenotes, hLexes⟩ := h.readsAs built [] Surface.isolated_nil
  obtain ⟨ls, hTokens, hLex⟩ := hLexes 0 [] (Surface.lexFrom_nil _)
  rw [List.append_nil, List.append_nil] at hLex
  have hLexemes : Surface.lexemes v.text = .ok ls := by
    rw [Surface.lexemes, Surface.lex, hLex]
  rw [parseValue, hLexemes]
  exact Surface.readValue_eq_ok_iff.2 (hTokens ▸ hDenotes)

/-- Maps and arrays as keys and as parts of each other, with the least integer, a negative zero, one
as a number of either kind, and a string that looks like notation. -/
def Value.innerSample : Dict := [(.nil, .boolean false), (.map [], .float (.ofRatio true 1 10))]

def Value.nestedSample : Dict :=
  [(.symbol "a_1", .array
      [.integer Int64.minValue, .float (.zero true), .float (.ofInt 1), .integer 1]),
    (.array [.string "'x' => [:y, 1.5], {}", .symbol "true"], .map innerSample)]

theorem Value.built_nestedSample : Built (.map nestedSample) := by
  have hInner : Built (.map (Dict.ofList innerSample)) :=
    .ofList (by simp [innerSample, Built.nil, Built.boolean, Built.float, Built.emptyMap])
  have hOuter : Built (.map (Dict.ofList nestedSample)) :=
    .ofList (by
      simp only [nestedSample, List.forall_mem_cons]
      exact ⟨⟨.symbol _, .array (by simp [Built.integer, Built.float])⟩,
        ⟨.array (by simp [Built.string, Built.symbol]), hInner⟩, nofun⟩)
  exact hOuter

theorem Value.expressible_nestedSample : Expressible (.map nestedSample) := by
  have hZero : Expressible (.float (.zero true)) := .float (.inl (by decide +kernel))
  have hOne : Expressible (.float (.ofInt 1)) := .float (.inr (by decide +kernel))
  have hTenth : Expressible (.float (.ofRatio true 1 10)) := .float (.inr (by decide +kernel))
  have hString : Expressible (.string "'x' => [:y, 1.5], {}") :=
    .string (by simp [escaped, isPrinted])
  have hSymbol : Expressible (.symbol "true") := .symbol (by decide +kernel)
  have hInner : Expressible (.map innerSample) :=
    .map (by simp [innerSample, Expressible.nil, Expressible.map])
      (by simp [innerSample, Expressible.boolean, hTenth])
  refine .map ?_ ?_ <;> simp only [nestedSample, List.forall_mem_cons]
  · exact ⟨.symbol (by decide +kernel), .array (by simp [hString, hSymbol]), nofun⟩
  · exact ⟨.array (by simp [Expressible.integer, hZero, hOne]), hInner, nofun⟩

theorem Value.parseValue_text_nested :
    Built (.map nestedSample) ∧ Expressible (.map nestedSample) ∧
      parseValue (text (.map nestedSample)) = .ok (.map nestedSample) :=
  ⟨built_nestedSample, expressible_nestedSample,
    parseValue_text built_nestedSample expressible_nestedSample⟩

end CaseMatch
