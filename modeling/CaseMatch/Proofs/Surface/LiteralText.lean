import CaseMatch.Proofs.Surface.LiteralReading
import CaseMatch.Regex.Compile

/-!
Values as patterns. A text that is read as a value is read as a pattern exactly if it is a literal,
and the pattern is then the one that the value stands for, as long as no map in the text has a key
twice. A map that does is one with less entries as a value, but keeps all of them as a pattern.
-/

namespace CaseMatch

/-- What two patterns make of a subject: both match it and bind nothing, or both fail at the same
check and with the same trace. -/
def Pattern.SameOutcome (p q : Pattern) (subject : Value) : Prop :=
  (p.test subject = .ok .empty ∧ q.test subject = .ok .empty) ∨
    ∃ e, p.test subject = .error e ∧ q.test subject = .error e

/-- The pattern of a value binds nothing where it matches. -/
theorem Pattern.sameOutcome_ofValue (v subject : Value) :
    SameOutcome (ofValue v) (ofValue v) subject := by
  cases h : (ofValue v).test subject with
  | error e => exact .inr ⟨e, h, h⟩
  | ok b =>
      obtain ⟨-, rfl⟩ := (test_eq_ok_iff_fits (binds_ofValue v subject)).1 h
      exact .inl ⟨h, h⟩

namespace Surface

variable {code : String} {ls : List Lexeme} {v : Value} {p : Pattern}

/-- A text is both a value and a pattern exactly if its tokens are a literal of the two. -/
theorem parse_eq_ok_iff_literal [RegexEngine] (h : lex code = .ok ls) :
    parseValue code = .ok v ∧ parsePattern code = .ok p ↔ Literal (tokensOf ls) (v, p) := by
  have hLexemes : lexemes code = .ok ls := lexemes_eq_ok_iff.2 h
  rw [literal_iff_read, parseValue, parsePattern, hLexemes]
  exact Iff.rfl

/-! ### Which values are patterns -/

/-- A text that is read as a value is read as a pattern exactly if it is a literal: if each key of
its maps that begins with a bracket is an array of one item with no comma behind the item. Keys
inside of other keys do not count. -/
theorem parsePattern_iff_literal [RegexEngine] (h : parseValue code = .ok v) :
    (∀ p, parsePattern code = .ok p ↔
      ∃ ls, lex code = .ok ls ∧ Literal (tokensOf ls) (v, p)) ∧
    ((∀ ls, lex code = .ok ls → KeysFit (tokensOf ls)) → ∃ p, parsePattern code = .ok p) := by
  obtain ⟨ls, hLex, hRead⟩ := parseValue_eq_ok_iff.1 h
  constructor
  · intro p
    constructor
    · exact fun hPattern => ⟨ls, hLex, (parse_eq_ok_iff_literal hLex).1 ⟨h, hPattern⟩⟩
    · rintro ⟨ls', hLex', hLiteral⟩
      exact ((parse_eq_ok_iff_literal hLex').2 hLiteral).2
  · intro hKeys
    obtain ⟨p, hLiteral⟩ := (readValue_eq_ok_iff.1 hRead).exists_literal (hKeys ls hLex)
    exact ⟨p, ((parse_eq_ok_iff_literal hLex).2 hLiteral).2⟩

/-- A map with a key in brackets and one without. -/
def optionalKeyText : String := "\x7b[:b] => [1], :a => nil\x7d"

def optionalKeyLexemes : List Lexeme :=
  [⟨.leftCurly, 0, 1⟩, ⟨.leftBracket, 1, 2⟩, ⟨.symbol "b", 2, 4⟩, ⟨.rightBracket, 4, 5⟩,
    ⟨.fatArrow, 6, 8⟩, ⟨.leftBracket, 9, 10⟩, ⟨.integer 1, 10, 11⟩, ⟨.rightBracket, 11, 12⟩,
    ⟨.comma, 12, 13⟩, ⟨.symbol "a", 14, 16⟩, ⟨.fatArrow, 17, 19⟩, ⟨.nil, 20, 23⟩,
    ⟨.rightCurly, 23, 24⟩]

def optionalKeyPairs : List (Value × Value) :=
  [(.array [.symbol "b"], .array [.integer 1]), (.symbol "a", .nil)]

theorem lex_optionalKeyText : lex optionalKeyText = .ok optionalKeyLexemes := by decide +kernel

theorem literal_optionalKey :
    ∃ p, Literal (tokensOf optionalKeyLexemes) (.map optionalKeyPairs, p) := by
  have hFirst := LiteralEntry.intro (.optional (.symbol "b"))
    (.array (.one (.scalar (t := .integer 1) rfl)))
  have hSecond := LiteralEntry.intro (.required (.symbol "a") nofun) (.scalar (t := .nil) rfl)
  exact ⟨_, .map (.cons hFirst (.one hSecond))⟩

theorem parseValue_optionalKey : parseValue optionalKeyText = .ok (.map optionalKeyPairs) := by
  obtain ⟨p, hLiteral⟩ := literal_optionalKey
  exact parseValue_eq_ok_iff.2
    ⟨_, lex_optionalKeyText, readValue_eq_ok_iff.2 hLiteral.denotes⟩

theorem parsePattern_iff_literal_optionalKey :
    letI := Regex.standard
    parseValue optionalKeyText = .ok (.map optionalKeyPairs) ∧
      ∃ p, parsePattern optionalKeyText = .ok p := by
  let := Regex.standard
  obtain ⟨p, hLiteral⟩ := literal_optionalKey
  exact ⟨parseValue_optionalKey, p, ((parsePattern_iff_literal parseValue_optionalKey).1 p).2
    ⟨_, lex_optionalKeyText, hLiteral⟩⟩

/-- A map whose first key does not fit is not read as a pattern. -/
theorem readPattern_ne_ok_of_key [RegexEngine] {stop : Nat} {first : Lexeme}
    {ts behind : List Lexeme} (ofKey : List Lexeme) (hFirst : first.token = .leftCurly)
    (hts : ts = ofKey ++ behind) {key : Value} (hKey : Denotes (tokensOf ofKey) key)
    (hMisfit : ∀ k, ¬LiteralKey (tokensOf ofKey) (key, k)) :
    readPattern stop (first :: ts) ≠ .ok p := by
  intro hRead
  obtain ⟨t, shorter, hItem, -⟩ := readPattern_eq_ok_iff.1 hRead
  obtain ⟨inner, after, hInner, -⟩ := (item_eq_ok_iff (by simp [hFirst])).1 hItem
  obtain ⟨entries, left, -, hList, -⟩ := (primary_eq_ok_iff_of_curly hFirst).1 hInner
  obtain ⟨l, rest, rfl, hClose⟩ := exists_head (denotes_opens (.inr rfl)) hKey hts
  obtain ⟨⟨k, t'⟩, behindEntry, -, -, hEntry, -⟩ := (list_eq_ok_iff_of_item hClose).1 hList
  obtain ⟨behindKey, -, -, hMapKey, -⟩ := patternEntry_eq_ok_iff.1 hEntry
  exact hMisfit k (mapKey_sound hts hKey hMapKey).2

/-- An array of two items as a key. -/
def pairKeyText : String := "\x7b[1, 2] => 3\x7d"

def pairKeyLexemes : List Lexeme :=
  [⟨.leftCurly, 0, 1⟩, ⟨.leftBracket, 1, 2⟩, ⟨.integer 1, 2, 3⟩, ⟨.comma, 3, 4⟩, ⟨.integer 2, 5, 6⟩,
    ⟨.rightBracket, 6, 7⟩, ⟨.fatArrow, 8, 10⟩, ⟨.integer 3, 11, 12⟩, ⟨.rightCurly, 12, 13⟩]

theorem denotes_pairKey :
    Denotes [.leftBracket, .integer 1, .comma, .integer 2, .rightBracket]
      (.array [.integer 1, .integer 2]) :=
  .array (.cons (.integer 1) (.one (.integer 2)))

/-- A key that is an array of two items is read in a value, but not in a pattern. -/
theorem pairKeyText_no_pattern :
    letI := Regex.standard
    parseValue pairKeyText = .ok (.map [(.array [.integer 1, .integer 2], .integer 3)]) ∧
      ∀ p, parsePattern pairKeyText ≠ .ok p := by
  let := Regex.standard
  have hLex : lex pairKeyText = .ok pairKeyLexemes := by decide +kernel
  constructor
  · refine parseValue_eq_ok_iff.2 ⟨_, hLex, readValue_eq_ok_iff.2 ?_⟩
    have hPairs := Listed.one (DenotesPair.intro denotes_pairKey (.integer 3))
    exact .map hPairs (collects_iff.2 rfl)
  · intro p hPattern
    obtain ⟨ls, hLex', hRead⟩ := parsePattern_eq_ok_iff.1 hPattern
    obtain rfl : pairKeyLexemes = ls := Except.ok.inj (hLex.symm.trans hLex')
    refine readPattern_ne_ok_of_key ((pairKeyLexemes.drop 1).take 5) rfl rfl
      denotes_pairKey (fun k hKey => ?_) hRead
    obtain ⟨inner, hSingleton, -⟩ := hKey.exists_singleton rfl
    simp at hSingleton

/-! ### Which patterns values are -/

/-- A key in brackets is the optional key in a pattern that an array of this one item stands for. -/
theorem bracketed_key {stop : Nat} {ts used behind : List Lexeme} (hts : ts = used ++ behind)
    {inner : List Token} (hUsed : tokensOf used = .leftBracket :: (inner ++ [.rightBracket]))
    {k : Value} (h : Denotes inner k) :
    Denotes (tokensOf used) (.array [k]) ∧ Template.keyOfValue (.array [k]) = .optional k ∧
      ∃ left, mapKey stop ts = .ok (.optional k, left) ∧ left.val = behind := by
  have hKey : LiteralKey (tokensOf used) (.array [k], .optional k) := by
    rw [hUsed]
    exact .optional h
  exact ⟨hKey.denotes, rfl, mapKey_complete stop hts hKey⟩

/-- A text that is read as a value and as a pattern, and in which no map has a key twice, is read as
the pattern that the value stands for. Both are shown alike, and make the same of each subject. A
key in brackets means the same key in the pattern as it does in the value. -/
theorem parsePattern_eq_ofValue [RegexEngine] (hValue : parseValue code = .ok v)
    (hPattern : parsePattern code = .ok p)
    (hKeys : ∀ ls, lex code = .ok ls → DistinctKeys (tokensOf ls)) :
    (∃ q, (Template.ofValue v).toPattern = .ok q ∧ p = q ∧ p.text = q.text ∧
      ∀ subject, p.SameOutcome q subject) ∧
    ∀ stop used behind inner k, tokensOf used = .leftBracket :: (inner ++ [.rightBracket]) →
      Denotes inner k → Denotes (tokensOf used) (.array [k]) ∧
        Template.keyOfValue (.array [k]) = .optional k ∧
        ∃ left, mapKey stop (used ++ behind) = .ok (.optional k, left) ∧ left.val = behind := by
  obtain ⟨ls, hLex, -⟩ := parseValue_eq_ok_iff.1 hValue
  have hLiteral := (parse_eq_ok_iff_literal hLex).1 ⟨hValue, hPattern⟩
  obtain rfl := hLiteral.eq_ofValue (hKeys ls hLex)
  refine ⟨⟨_, Template.toPattern_ofValue v, rfl, rfl, Pattern.sameOutcome_ofValue v⟩, ?_⟩
  exact fun stop used behind inner k hUsed hInner => bracketed_key rfl hUsed hInner

/-- The items between two brackets are determined by their tokens. -/
theorem listedPairs_unique {inside : List Token} {pairs others : List (Value × Value)}
    (h : Listed DenotesPair inside pairs) (hOther : Listed DenotesPair inside others) :
    pairs = others := by
  let ts : List Lexeme := (inside ++ [Token.rightCurly]).map fun t => ⟨t, 0, 0⟩
  have hTokens : tokensOf ts = inside ++ [.rightCurly] := by simp [ts, Function.comp_def]
  have hSome : ([] : List Lexeme).length < ts.length := by simp [ts]
  have hReads : Reads (Closed .rightCurly DenotesPair)
      (list 0 .rightCurly ts.length (fun us _ => entry 0 us) ts (Nat.le_refl _)) :=
    list_reads (denotesPair_opens (.inr rfl)) nofun
      (fun us _ => entry_reads fun vs _ => value_reads 0 vs) _
  have hRead := (hReads pairs ⟨[], hSome⟩).2 ⟨ts, by simp, inside, hTokens, h⟩
  have hReadOther := (hReads others ⟨[], hSome⟩).2 ⟨ts, by simp, inside, hTokens, hOther⟩
  exact (Prod.mk.inj (Except.ok.inj (hRead.symm.trans hReadOther))).1

/-- Tokens of a single map have no repeated key if its pairs have none. -/
theorem distinctKeys_of_single {inside : List Token} {pairs : List (Value × Value)}
    (hLeft : .leftCurly ∉ inside) (hRight : .rightCurly ∉ inside)
    (h : Listed DenotesPair inside pairs) (hDistinct : Dict.Distinct pairs) :
    DistinctKeys (.leftCurly :: (inside ++ [.rightCurly])) := by
  rintro within others ⟨before, behind, hTokens⟩ hOthers
  cases before with
  | cons t before =>
      obtain ⟨-, hRest⟩ := List.cons.inj hTokens
      have hMem : Token.leftCurly ∈ inside ++ [.rightCurly] := by
        rw [← hRest]
        simp
      simp [hLeft] at hMem
  | nil =>
      obtain ⟨-, hRest⟩ := List.cons.inj hTokens
      rcases List.eq_nil_or_concat behind with rfl | ⟨front, t, rfl⟩
      · rw [List.append_eq, List.append_nil, List.append_cancel_right_eq] at hRest
        subst hRest
        rwa [listedPairs_unique hOthers h]
      · have hLast : within ++ [.rightCurly] ++ front ++ [t] = inside ++ [.rightCurly] := by
          simpa using hRest
        simp [← (List.append_inj' hLast rfl).1] at hRight

theorem distinctKeys_optionalKey : DistinctKeys (tokensOf optionalKeyLexemes) := by
  have hFirst := DenotesPair.intro (.array (.one (.symbol "b"))) (.array (.one (.integer 1)))
  have hListed := Listed.cons hFirst (.one (DenotesPair.intro (.symbol "a") .nil))
  have hDiffer : Dict.KeysDiffer (.array [.symbol "b"], .array [.integer 1])
      (.symbol "a", .nil) := fun hSame => absurd hSame.1 (by decide +kernel)
  exact distinctKeys_of_single (by decide) (by decide) hListed (List.pairwise_pair.2 hDiffer)

/-- The text has the pattern that its map stands for. The key in brackets is the optional one. -/
theorem parsePattern_eq_ofValue_optionalKey :
    letI := Regex.standard
    (∀ ls, lex optionalKeyText = .ok ls → DistinctKeys (tokensOf ls)) ∧
      parseValue optionalKeyText = .ok (.map optionalKeyPairs) ∧
      ∃ p, parsePattern optionalKeyText = .ok p ∧
        ∃ q, (Template.ofValue (.map optionalKeyPairs)).toPattern = .ok q ∧ p.text = q.text ∧
          ∀ subject, p.SameOutcome q subject := by
  let := Regex.standard
  obtain ⟨p, hLiteral⟩ := literal_optionalKey
  have hPattern : parsePattern optionalKeyText = .ok p :=
    ((parse_eq_ok_iff_literal lex_optionalKeyText).2 hLiteral).2
  have hKeys : ∀ ls, lex optionalKeyText = .ok ls → DistinctKeys (tokensOf ls) := by
    intro ls hLex
    obtain rfl := Except.ok.inj (lex_optionalKeyText.symm.trans hLex)
    exact distinctKeys_optionalKey
  obtain ⟨⟨q, hq, -, hText, hSame⟩, -⟩ :=
    parsePattern_eq_ofValue parseValue_optionalKey hPattern hKeys
  exact ⟨hKeys, parseValue_optionalKey, p, hPattern, q, hq, hText, hSame⟩

end Surface

end CaseMatch
