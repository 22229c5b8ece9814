import CaseMatch.Proofs.Surface.ValueReading

/-!
Reading patterns, one step at a time: what the reading of an item, of a key and of an entry comes
to, told by the readings of their parts.
-/

namespace CaseMatch.Surface

theorem located_eq_ok_iff {α : Type} {span : Span} {result : Except PatternError α} {a : α} :
    located span result = .ok a ↔ result = .ok a := by
  cases result <;> simp [located]

/-- Where nothing may be left, nothing is. -/
theorem finished_eq_ok_iff {ts : List Lexeme} {u : Unit} : finished ts = .ok u ↔ ts = [] := by
  cases ts <;> simp [finished]

/-! ### Patterns without brackets -/

/-- Lexemes that do not go on with what stands before them: no name is given, and no range begun. -/
def Stops (behind : List Lexeme) : Prop :=
  ∀ l ∈ behind.head?, l.token ≠ .atSign ∧ l.token ≠ .exclusiveRange ∧ l.token ≠ .inclusiveRange

/-- Lexemes that begin no range behind an integer. -/
def NoRange (behind : List Lexeme) : Prop :=
  ∀ l ∈ behind.head?, l.token ≠ .exclusiveRange ∧ l.token ≠ .inclusiveRange

theorem Stops.noRange {behind : List Lexeme} (h : Stops behind) : NoRange behind :=
  fun l hl => (h l hl).2

theorem stops_nil : Stops [] := nofun

theorem stops_cons {l : Lexeme} {rest : List Lexeme}
    (h : l.token = .comma ∨ l.token = .rightBracket ∨ l.token = .rightCurly) :
    Stops (l :: rest) := by
  rintro _ ⟨⟩
  rcases h with h | h | h <;> simp [h]

/-- No name is given where none begins. -/
theorem naming_of_stops {α : Type} {stop : Nat} {ts behind : List Lexeme}
    {named : String → Except PatternError α} {unnamed : α} {h : behind.length < ts.length}
    (hStops : Stops behind) :
    naming stop ts named unnamed behind h = .ok (unnamed, ⟨behind, h⟩) := by
  cases behind with
  | nil => rfl
  | cons l rest => rw [naming, if_neg (hStops l rfl).1]

/-- An identifier is read with its span, and is one lexeme. -/
theorem identifier_eq_ok_iff {stop : Nat} {ts : List Lexeme} {name : String} {span : Span}
    {left : Rest ts} :
    identifier stop ts = .ok ((name, span), left) ↔
      ∃ m, ts = m :: left.val ∧ m.token = .identifier name ∧ m.span = span := by
  obtain ⟨left, hLeft⟩ := left
  cases ts with
  | nil => simp [identifier, advance, bind, Except.bind]
  | cons m rest =>
      obtain ⟨t, span'⟩ := m
      cases t <;> simp [identifier, advance, bind, Except.bind, Rest.tail] ; tauto

/-- A name is given where an at sign and an identifier stand, and none where no at sign stands. -/
theorem naming_eq_ok_iff {α : Type} {stop : Nat} {ts behind : List Lexeme}
    {named : String → Except PatternError α} {unnamed a : α} {h : behind.length < ts.length}
    {left : Rest ts} :
    naming stop ts named unnamed behind h = .ok (a, left) ↔
      ((∀ l ∈ behind.head?, l.token ≠ .atSign) ∧ a = unnamed ∧ left.val = behind) ∨
        ∃ l m name rest, behind = l :: m :: rest ∧ l.token = .atSign ∧
          m.token = .identifier name ∧ named name = .ok a ∧ left.val = rest := by
  obtain ⟨left, hLeft⟩ := left
  cases behind with
  | nil => simp [naming, eq_comm]
  | cons l rest =>
      by_cases hAt : l.token = .atSign
      · simp only [naming, hAt, if_true, bind_eq_ok_iff, Prod.exists, located_eq_ok_iff,
          Except.ok.injEq, Prod.mk.injEq, identifier_eq_ok_iff]
        constructor
        · rintro ⟨name, span, after, ⟨m, hRest, hName, -⟩, a, hNamed, rfl, hLeft⟩
          exact .inr ⟨l, m, name, after.val, congrArg (l :: ·) hRest, hAt, hName, hNamed,
            (congrArg Subtype.val hLeft).symm⟩
        · rintro (⟨hNone, -⟩ | ⟨l', m, name, others, hRest, -, hName, hNamed, rfl⟩)
          · simp [hAt] at hNone
          · obtain ⟨rfl, rfl⟩ := List.cons.inj hRest
            exact ⟨name, m.span, ⟨left, by simp⟩, ⟨m, rfl, hName, rfl⟩, a, hNamed, rfl, rfl⟩
      · simp only [naming, if_neg hAt, Except.ok.injEq, Prod.mk.injEq, Subtype.mk.injEq]
        constructor
        · rintro ⟨rfl, rfl⟩
          exact .inl ⟨by simpa using hAt, rfl, rfl⟩
        · rintro (⟨-, rfl, rfl⟩ | ⟨l', m, name, others, hRest, hSign, -⟩)
          · exact ⟨rfl, rfl⟩
          · obtain ⟨rfl, -⟩ := List.cons.inj hRest
            exact absurd hSign hAt

/-- A scalar is read as itself. An integer is one only where no range begins. -/
theorem plain_of_scalar [RegexEngine] {stop : Nat} {l : Lexeme} {rest : List Lexeme} {v : Value}
    (h : l.token.scalar? = some v) (hBehind : ∀ n, l.token = .integer n → NoRange rest) :
    plain stop l rest = .ok (.literal v, .tail l rest) := by
  obtain ⟨t, span⟩ := l
  cases t with
  | integer n =>
      cases h
      cases rest with
      | nil => rfl
      | cons m others =>
          obtain ⟨hExclusive, hInclusive⟩ := hBehind n rfl m rfl
          obtain ⟨t, span'⟩ := m
          cases t <;> first | rfl | contradiction
  | nil | boolean | float | string | symbol =>
      cases h
      rfl
  | _ => cases h

/-! ### Items -/

/-- Reads a key of a map pattern with the item behind it. -/
def patternEntry [RegexEngine] (stop : Nat) (ts : List Lexeme) : Reading (MapKey × Template) ts :=
  mapKey stop ts >>= fun ofKey =>
    expect stop .fatArrow ofKey.2.val >>= fun behindArrow =>
      item stop behindArrow.val >>= fun ofItem =>
        .ok ((ofKey.1, ofItem.1), ofItem.2.weaken (by
          have := behindArrow.property; have := ofKey.2.property; omega))

section items

variable [RegexEngine] {stop : Nat} {l : Lexeme} {rest : List Lexeme} {t : Template}
  {left : Rest (l :: rest)}

/-- An item without a star is what stands before an at sign, and the name behind it, if any. -/
theorem item_eq_ok_iff (h : l.token ≠ .star) :
    item stop (l :: rest) = .ok (t, left) ↔ ∃ inner after,
      primary stop (l :: rest) = .ok (inner, after) ∧
        naming stop (l :: rest) (fun name => (inner.bind name).map .pattern) inner after.val
          after.property = .ok (t, left) := by
  rw [item.eq_def]
  dsimp only
  rw [if_neg h, bind_eq_ok_iff, Prod.exists]

/-- An item with a star is a tail of what stands behind the star, with the name behind it, if
any. -/
theorem item_eq_ok_iff_of_star (h : l.token = .star) :
    item stop (l :: rest) = .ok (t, left) ↔ ∃ inner after each tail behind,
      primary stop rest = .ok (inner, after) ∧ inner.toPattern = .ok each ∧
        naming stop rest (TailPattern.ofPattern each).named (.ofPattern each) after.val
          after.property = .ok (tail, behind) ∧ t = .tail tail ∧ left.val = behind.val := by
  obtain ⟨left, hLeft⟩ := left
  rw [item.eq_def]
  simp only [h, if_true, bind_eq_ok_iff, Prod.exists, located_eq_ok_iff, Except.ok.injEq,
    Prod.mk.injEq, Rest.weaken, Subtype.mk.injEq]
  constructor
  · rintro ⟨inner, after, hInner, each, hEach, tail, behind, hNaming, rfl, rfl⟩
    exact ⟨inner, after, each, tail, behind, hInner, hEach, hNaming, rfl, rfl⟩
  · rintro ⟨inner, after, each, tail, behind, hInner, hEach, hNaming, rfl, rfl⟩
    exact ⟨inner, after, hInner, each, hEach, tail, behind, hNaming, rfl, rfl⟩

/-- Behind an opening bracket items are read up to the closing one, and have to make an array
pattern. -/
theorem primary_eq_ok_iff_of_bracket (h : l.token = .leftBracket) :
    primary stop (l :: rest) = .ok (t, left) ↔ ∃ items after p,
      list stop .rightBracket rest.length (fun us _ => item stop us) rest (Nat.le_refl _) =
        .ok (items, after) ∧ (Template.array items).toPattern = .ok p ∧ t = .pattern p ∧
          left.val = after.val := by
  obtain ⟨left, hLeft⟩ := left
  rw [primary.eq_def]
  simp only [h, bind_eq_ok_iff, located_eq_ok_iff, Prod.exists, Except.ok.injEq, Prod.mk.injEq,
    Rest.weaken, Subtype.mk.injEq]
  constructor
  · rintro ⟨items, after, hList, p, hPattern, rfl, rfl⟩
    exact ⟨items, after, p, hList, hPattern, rfl, rfl⟩
  · rintro ⟨items, after, p, hList, hPattern, rfl, rfl⟩
    exact ⟨items, after, hList, p, hPattern, rfl, rfl⟩

/-- Behind an opening brace entries are read up to the closing one, and have to make a map
pattern. -/
theorem primary_eq_ok_iff_of_curly (h : l.token = .leftCurly) :
    primary stop (l :: rest) = .ok (t, left) ↔ ∃ entries after p,
      list stop .rightCurly rest.length (fun us _ => patternEntry stop us) rest (Nat.le_refl _) =
        .ok (entries, after) ∧ (Template.map entries).toPattern = .ok p ∧ t = .pattern p ∧
          left.val = after.val := by
  obtain ⟨left, hLeft⟩ := left
  rw [primary.eq_def]
  simp only [h]
  change (list stop .rightCurly rest.length (fun us _ => patternEntry stop us) rest
    (Nat.le_refl _) >>= _) = _ ↔ _
  simp only [bind_eq_ok_iff, located_eq_ok_iff, Prod.exists, Except.ok.injEq, Prod.mk.injEq,
    Rest.weaken, Subtype.mk.injEq]
  constructor
  · rintro ⟨entries, after, hList, p, hPattern, rfl, rfl⟩
    exact ⟨entries, after, p, hList, hPattern, rfl, rfl⟩
  · rintro ⟨entries, after, p, hList, hPattern, rfl, rfl⟩
    exact ⟨entries, after, hList, p, hPattern, rfl, rfl⟩

theorem primary_of_plain (hBracket : l.token ≠ .leftBracket) (hCurly : l.token ≠ .leftCurly) :
    primary stop (l :: rest) = plain stop l rest := by
  rw [primary.eq_def]
  dsimp only
  split
  · contradiction
  · contradiction
  · rfl

end items

/-! ### Keys -/

section keys

variable {stop : Nat} {l : Lexeme} {rest : List Lexeme} {left : Rest (l :: rest)}

/-- A key in brackets is an optional key, and has one value between them. -/
theorem mapKey_eq_ok_iff_of_bracket (h : l.token = .leftBracket) {key : MapKey} :
    mapKey stop (l :: rest) = .ok (key, left) ↔ ∃ v behind after,
      value stop rest = .ok (v, behind) ∧ expect stop .rightBracket behind.val = .ok after ∧
        key = .optional v ∧ left.val = after.val := by
  obtain ⟨left, hLeft⟩ := left
  rw [mapKey.eq_def]
  simp only [h, if_true, bind_eq_ok_iff, Prod.exists, Except.ok.injEq, Prod.mk.injEq, Rest.weaken,
    Subtype.mk.injEq]
  constructor
  · rintro ⟨v, behind, hValue, after, hExpect, rfl, rfl⟩
    exact ⟨v, behind, after, hValue, hExpect, rfl, rfl⟩
  · rintro ⟨v, behind, after, hValue, hExpect, rfl, rfl⟩
    exact ⟨v, behind, hValue, after, hExpect, rfl, rfl⟩

theorem mapKey_eq_ok_iff_of_value (h : l.token ≠ .leftBracket) {key : MapKey} :
    mapKey stop (l :: rest) = .ok (key, left) ↔ ∃ v,
      value stop (l :: rest) = .ok (v, left) ∧ key = .required v := by
  rw [mapKey.eq_def]
  simp only [h, if_false, bind_eq_ok_iff, Prod.exists, Except.ok.injEq, Prod.mk.injEq]
  constructor
  · rintro ⟨v, after, hValue, rfl, rfl⟩
    exact ⟨v, hValue, rfl⟩
  · rintro ⟨v, hValue, rfl⟩
    exact ⟨v, left, hValue, rfl, rfl⟩

end keys

/-- An entry is a key, an arrow and an item. -/
theorem patternEntry_eq_ok_iff [RegexEngine] {stop : Nat} {ts : List Lexeme} {key : MapKey}
    {t : Template} {rest : Rest ts} :
    patternEntry stop ts = .ok ((key, t), rest) ↔ ∃ behindKey behindArrow after,
      mapKey stop ts = .ok (key, behindKey) ∧
        expect stop .fatArrow behindKey.val = .ok behindArrow ∧
          item stop behindArrow.val = .ok (t, after) ∧ rest.val = after.val := by
  obtain ⟨rest, hRest⟩ := rest
  simp only [patternEntry, bind_eq_ok_iff, Prod.exists, Except.ok.injEq, Prod.mk.injEq,
    Rest.weaken, Subtype.mk.injEq]
  constructor
  · rintro ⟨_, behindKey, hKey, behindArrow, hArrow, _, after, hItem, ⟨rfl, rfl⟩, hRest⟩
    exact ⟨behindKey, behindArrow, after, hKey, hArrow, hItem, hRest.symm⟩
  · rintro ⟨behindKey, behindArrow, after, hKey, hArrow, hItem, hRest⟩
    exact ⟨key, behindKey, hKey, behindArrow, hArrow, t, after, hItem, ⟨rfl, rfl⟩, hRest.symm⟩

/-! ### Whole texts -/

theorem lexemes_eq_ok_iff {code : String} {ls : List Lexeme} :
    lexemes code = .ok ls ↔ lex code = .ok ls := by
  cases h : lex code <;> simp [lexemes, h]

/-- A value is read of all lexemes or not at all. -/
theorem readValue_eq_ok_iff_value {stop : Nat} {ts : List Lexeme} {v : Value} :
    readValue stop ts = .ok v ↔ ∃ shorter, value stop ts = .ok (v, ⟨[], shorter⟩) := by
  simp only [readValue, bind_eq_ok_iff, finished_eq_ok_iff, Prod.exists, Except.ok.injEq]
  constructor
  · rintro ⟨_, ⟨_, shorter⟩, hRead, _, rfl, rfl⟩
    exact ⟨shorter, hRead⟩
  · rintro ⟨shorter, hRead⟩
    exact ⟨v, ⟨[], shorter⟩, hRead, (), rfl, rfl⟩

/-- A pattern is read of all lexemes or not at all. -/
theorem readPattern_eq_ok_iff [RegexEngine] {stop : Nat} {ts : List Lexeme} {p : Pattern} :
    readPattern stop ts = .ok p ↔
      ∃ t shorter, item stop ts = .ok (t, ⟨[], shorter⟩) ∧ t.toPattern = .ok p := by
  simp only [readPattern, bind_eq_ok_iff, finished_eq_ok_iff, located_eq_ok_iff, Prod.exists]
  constructor
  · rintro ⟨t, ⟨_, shorter⟩, hRead, _, rfl, hPattern⟩
    exact ⟨t, shorter, hRead, hPattern⟩
  · rintro ⟨t, shorter, hRead, hPattern⟩
    exact ⟨t, ⟨[], shorter⟩, hRead, (), rfl, hPattern⟩

theorem parseValue_eq_ok_iff {code : String} {v : Value} :
    parseValue code = .ok v ↔
      ∃ ls, lex code = .ok ls ∧ readValue code.utf8ByteSize ls = .ok v := by
  simp only [parseValue, bind_eq_ok_iff, lexemes_eq_ok_iff]

theorem parsePattern_eq_ok_iff [RegexEngine] {code : String} {p : Pattern} :
    parsePattern code = .ok p ↔
      ∃ ls, lex code = .ok ls ∧ readPattern code.utf8ByteSize ls = .ok p := by
  simp only [parsePattern, bind_eq_ok_iff, lexemes_eq_ok_iff]

end CaseMatch.Surface
