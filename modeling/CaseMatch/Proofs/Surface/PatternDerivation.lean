import CaseMatch.Proofs.Surface.LiteralReading
import CaseMatch.Proofs.Surface.PatternBuilding

/-!
Reading a pattern agrees with the grammar of patterns. What an item is read as is what the tree of
the lexemes taken makes, and whatever is derived is read, where no more of an item stands behind it.
-/

namespace CaseMatch.Surface

variable {stop : Nat} {ts used behind : List Lexeme}

/-! ### Names -/

/-- The names in lexemes are valid ones. -/
def Spelled (ts : List Lexeme) : Prop := ∀ l ∈ ts, l.token.IsSpelled

/-- In lexemes whose names are spelled as names are, so they are further on. -/
theorem Spelled.of_suffix {us : List Lexeme} (h : Spelled ts) (hus : us <:+ ts) : Spelled us :=
  fun l hl => h l (hus.subset hl)

theorem tokensOf_cons (l : Lexeme) (rest : List Lexeme) :
    tokensOf (l :: rest) = l.token :: tokensOf rest :=
  rfl

theorem Spelled.isVariableName (h : Spelled ts) {l : Lexeme} (hl : l ∈ ts) {name : String}
    (hToken : l.token = .identifier name) : isVariableName name = true := by
  have hName := h l hl
  rwa [hToken] at hName

theorem Spelled.isKindName (h : Spelled ts) {l : Lexeme} (hl : l ∈ ts) {name : String}
    (hToken : l.token = .typeName name) : IsKindName name := by
  have hName := h l hl
  rwa [hToken] at hName

/-- A pattern can be given any name that is spelled as one. -/
theorem named_of_isVariableName {name : String} (h : isVariableName name = true) (p : Pattern) :
    p.named name = .ok (p.withName name) := by
  rw [Pattern.named, variableName, if_pos h]
  rfl

theorem tailNamed_of_isVariableName {name : String} (h : isVariableName name = true)
    (each : Pattern) :
    (TailPattern.ofPattern each).named name = .ok (.ofRest each (some name)) := by
  rw [TailPattern.named, variableName, if_pos h]
  rfl

/-- A valid name is given to any pattern. -/
theorem bind_of_gives {t : Template} {f : PatternTree} {name : String} (h : t.Gives f.pattern)
    (hName : isVariableName name = true) :
    (t.bind name).map Template.pattern = .ok (.pattern (PatternTree.named f name).pattern) := by
  have hPattern : t.toPattern = .ok f.pattern := h
  rw [Template.bind, hPattern, PatternTree.pattern]
  show (f.pattern.nested.named name).map Template.pattern = _
  rw [named_of_isVariableName hName]
  rfl

/-- A template gives the pattern of a tree. -/
abbrev Makes (t : Template) (f : PatternTree) : Prop := t.Gives f.pattern

/-- A name behind an at sign is two lexemes. -/
theorem exists_named {tokens : List Token} {name : String}
    (h : tokensOf used = tokens ++ [.atSign, .identifier name]) :
    ∃ part sign m, used = part ++ [sign, m] ∧ tokensOf part = tokens ∧ sign.token = .atSign ∧
      m.token = .identifier name := by
  obtain ⟨part, last, rfl, hPart, hLast⟩ := List.map_eq_append_iff.1 h
  obtain ⟨sign, more, rfl, hSign, hMore⟩ := List.map_eq_cons_iff.1 hLast
  obtain ⟨m, rfl, hm⟩ := List.map_eq_singleton_iff.1 hMore
  exact ⟨part, sign, m, rfl, hPart, hSign, hm⟩

/-! ### Ranges -/

/-- Behind the sign of a range an integer is read as its second bound. -/
theorem rangeFrom_eq_ok_iff {t : Template} {start : Int64} {inclusive : Bool} {left : Rest ts} :
    rangeFrom stop start inclusive ts = .ok (t, left) ↔
      ∃ n last, ts = n :: left.val ∧ n.token = .integer last ∧
        t = .range ⟨start, last, inclusive⟩ := by
  obtain ⟨left, hLeft⟩ := left
  cases ts with
  | nil => simp [rangeFrom, advance, bind, Except.bind]
  | cons n others =>
      obtain ⟨token, span⟩ := n
      cases token <;> simp [rangeFrom, advance, bind, Except.bind, Rest.tail, eq_comm, and_comm]

/-- Behind a lexeme stands the sign of a range, or none. -/
theorem noRange_or (behind : List Lexeme) : NoRange behind ∨
    ∃ m others inclusive, behind = m :: others ∧ m.token = rangeSign inclusive := by
  cases behind with
  | nil => exact .inl nofun
  | cons m others =>
      by_cases hExclusive : m.token = .exclusiveRange
      · exact .inr ⟨m, others, false, rfl, hExclusive⟩
      · by_cases hInclusive : m.token = .inclusiveRange
        · exact .inr ⟨m, others, true, rfl, hInclusive⟩
        · refine .inl ?_
          rintro _ ⟨⟩
          exact ⟨hExclusive, hInclusive⟩

theorem noRange_of_atSign {l : Lexeme} {rest : List Lexeme} (h : l.token = .atSign) :
    NoRange (l :: rest) := by
  rintro _ ⟨⟩
  simp [h]

/-! ### Patterns without brackets -/

section plain

variable [RegexEngine] {l : Lexeme} {rest : List Lexeme} {name source : String} {t : Template}
  {left : Rest (l :: rest)}

theorem plain_of_wildcard (h : l.token = .wildcard) :
    plain stop l rest = .ok (.pattern .wildcard, .tail l rest) := by
  obtain ⟨_, span⟩ := l
  cases h
  rfl

theorem plain_of_identifier (h : l.token = .identifier name) (hName : isVariableName name = true) :
    plain stop l rest = .ok (.pattern (Pattern.wildcard.withName name), .tail l rest) := by
  obtain ⟨_, span⟩ := l
  cases h
  simp only [plain, Pattern.var, named_of_isVariableName hName]
  rfl

theorem plain_of_typeName (h : l.token = .typeName name) (hName : IsKindName name) :
    plain stop l rest = .ok (.kind (kindNamed name), .tail l rest) := by
  obtain ⟨_, span⟩ := l
  cases h
  simp only [plain, Kind.ofName_of_isKindName hName]

/-- A regular expression is read as a pattern of strings if the engine takes it. -/
theorem plain_eq_ok_iff_of_regex (h : l.token = .regex source) :
    plain stop l rest = .ok (t, left) ↔
      ∃ r, Regex.compile? source = some r ∧ t = .pattern (.ofRegex r) ∧ left = .tail l rest := by
  obtain ⟨_, span⟩ := l
  cases h
  cases hCompile : Regex.compile? source <;>
    simp [plain, Pattern.stringMatching, Pattern.regex, hCompile, Except.map, located, bind,
      Except.bind, eq_comm]

/-- A regular expression behind a colon is read as a pattern of symbols if the engine takes it. -/
theorem plain_eq_ok_iff_of_symbolRegex (h : l.token = .symbolRegex source) :
    plain stop l rest = .ok (t, left) ↔
      ∃ r, Regex.compile? source = some r ∧ t = .pattern (.ofSymbolRegex r) ∧
        left = .tail l rest := by
  obtain ⟨_, span⟩ := l
  cases h
  cases hCompile : Regex.compile? source <;>
    simp [plain, Pattern.symbolMatching, Pattern.regex, hCompile, Except.map, located, bind,
      Except.bind, eq_comm]

section range

variable {m : Lexeme} {others : List Lexeme} {start : Int64} {inclusive : Bool}

theorem plain_of_range (h : l.token = .integer start) (hSign : m.token = rangeSign inclusive) :
    plain stop l (m :: others) = (rangeFrom stop start inclusive others >>= fun read =>
      (.ok (read.1, read.2.weaken (Nat.le_add_right others.length 2)) :
        Reading Template (l :: m :: others))) := by
  obtain ⟨_, span⟩ := l
  obtain ⟨sign, span'⟩ := m
  cases h
  obtain rfl : sign = rangeSign inclusive := hSign
  cases inclusive <;> rfl

/-- Behind an integer and the sign of a range stands its other bound. -/
theorem plain_eq_ok_iff_of_range {left : Rest (l :: m :: others)} (h : l.token = .integer start)
    (hSign : m.token = rangeSign inclusive) :
    plain stop l (m :: others) = .ok (t, left) ↔
      ∃ n last, others = n :: left.val ∧ n.token = .integer last ∧
        t = .range ⟨start, last, inclusive⟩ := by
  obtain ⟨left, hLeft⟩ := left
  rw [plain_of_range h hSign]
  simp only [bind_eq_ok_iff, Prod.exists, Except.ok.injEq, Prod.mk.injEq, Rest.weaken,
    Subtype.mk.injEq, rangeFrom_eq_ok_iff]
  constructor
  · rintro ⟨_, after, ⟨n, last, hOthers, hLast, rfl⟩, rfl, rfl⟩
    exact ⟨n, last, hOthers, hLast, rfl⟩
  · rintro ⟨n, last, rfl, hLast, rfl⟩
    exact ⟨_, ⟨left, by simp⟩, ⟨n, last, rfl, hLast, rfl⟩, rfl, rfl⟩

end range

/-- What is read of one lexeme, or of the three of a range, is what they are derived as. -/
theorem plain_readsOnly (hSpelled : Spelled (l :: rest)) :
    ReadsOnly DerivesPrimary Makes (plain stop l rest) := by
  intro t left hRead
  have here {token : Token} (f : PatternTree) {u : Template} (hToken : l.token = token)
      (hPlain : plain stop l rest = .ok (u, .tail l rest)) (hDerives : DerivesPrimary [token] f)
      (hMakes : Makes u f) : ∃ used f, l :: rest = used ++ left.val ∧
        DerivesPrimary (tokensOf used) f ∧ Makes t f := by
    obtain ⟨rfl, rfl⟩ := Prod.mk.inj (Except.ok.inj (hRead.symm.trans hPlain))
    refine ⟨[l], f, rfl, ?_, hMakes⟩
    rwa [tokensOf, List.map_singleton, hToken]
  have scalar {v : Value} (hScalar : l.token.scalar? = some v)
      (hBehind : ∀ n, l.token = .integer n → NoRange rest) :
      ∃ used f, l :: rest = used ++ left.val ∧ DerivesPrimary (tokensOf used) f ∧ Makes t f :=
    here (.scalar v) rfl (plain_of_scalar hScalar hBehind) (.scalar hScalar) rfl
  cases hToken : l.token with
  | wildcard => exact here .wildcard hToken (plain_of_wildcard hToken) .wildcard rfl
  | identifier name =>
      have hName := hSpelled.isVariableName List.mem_cons_self hToken
      exact here (.name name) hToken (plain_of_identifier hToken hName) (.name name) rfl
  | typeName name =>
      have hName := hSpelled.isKindName List.mem_cons_self hToken
      exact here (.kind _) hToken (plain_of_typeName hToken hName) (.kind name) rfl
  | regex source =>
      obtain ⟨r, hCompile, rfl, rfl⟩ := (plain_eq_ok_iff_of_regex hToken).1 hRead
      exact here (.regex r) hToken hRead (.regex hCompile) rfl
  | symbolRegex source =>
      obtain ⟨r, hCompile, rfl, rfl⟩ := (plain_eq_ok_iff_of_symbolRegex hToken).1 hRead
      exact here (.symbolRegex r) hToken hRead (.symbolRegex hCompile) rfl
  | integer start =>
      rcases noRange_or rest with hNone | ⟨m, others, inclusive, rfl, hSign⟩
      · exact scalar (by rw [hToken]; rfl) fun _ _ => hNone
      · obtain ⟨n, last, hOthers, hLast, rfl⟩ := (plain_eq_ok_iff_of_range hToken hSign).1 hRead
        refine ⟨[l, m, n], .range ⟨start, last, inclusive⟩, congrArg (l :: m :: ·) hOthers, ?_, rfl⟩
        simp only [tokensOf, List.map_cons, List.map_nil, hToken, hSign, hLast]
        exact .range ⟨start, last, inclusive⟩
  | nil | boolean | float | string | symbol =>
      exact scalar (by rw [hToken]; rfl) (by simp [hToken])
  | _ =>
      obtain ⟨_, span⟩ := l
      cases hToken
      cases hRead

/-- What is derived of one lexeme, or of the three of a range, is read. -/
theorem plain_readsAll (hSpelled : Spelled (l :: rest)) (hBracket : l.token ≠ .leftBracket)
    (hCurly : l.token ≠ .leftCurly) :
    ReadsAll NoRange DerivesPrimary Makes (plain stop l rest) := by
  intro used behind f hts hNoRange hPrimary
  generalize hTokens : tokensOf used = tokens at hPrimary
  have here {token : Token} {u : Template} (hToken : tokensOf used = [token])
      (hPlain : l.token = token → rest = behind → plain stop l rest = .ok (u, .tail l rest))
      (hMakes : Makes u f) :
      ∃ t left, plain stop l rest = .ok (t, left) ∧ left.val = behind ∧ Makes t f := by
    obtain ⟨_, rfl, hThis⟩ := List.map_eq_singleton_iff.1 hToken
    obtain ⟨rfl, hRest⟩ := List.cons.inj hts
    exact ⟨u, _, hPlain hThis hRest, hRest, hMakes⟩
  cases hPrimary with
  | wildcard => exact here hTokens (fun h _ => plain_of_wildcard h) rfl
  | name n =>
      exact here hTokens (fun h _ => plain_of_identifier h
        (hSpelled.isVariableName List.mem_cons_self h)) rfl
  | kind n =>
      exact here hTokens (fun h _ => plain_of_typeName h
        (hSpelled.isKindName List.mem_cons_self h)) rfl
  | regex valid =>
      exact here hTokens (fun h _ => (plain_eq_ok_iff_of_regex h).2 ⟨_, valid, rfl, rfl⟩) rfl
  | symbolRegex valid =>
      exact here hTokens (fun h _ => (plain_eq_ok_iff_of_symbolRegex h).2 ⟨_, valid, rfl, rfl⟩) rfl
  | scalar denotes =>
      exact here hTokens
        (fun h hRest => plain_of_scalar (by rwa [h]) fun _ _ => hRest ▸ hNoRange) rfl
  | range r =>
      obtain ⟨_, more, rfl, hStart, hMore⟩ := List.map_eq_cons_iff.1 hTokens
      obtain ⟨m, last, rfl, hSign, hLast⟩ := List.map_eq_cons_iff.1 hMore
      obtain ⟨n, rfl, hStop⟩ := List.map_eq_singleton_iff.1 hLast
      obtain ⟨rfl, rfl⟩ := List.cons.inj hts
      refine ⟨.range r, ⟨behind, ?_⟩, (plain_eq_ok_iff_of_range hStart hSign).2
        ⟨n, r.stop, rfl, hStop, rfl⟩, rfl, rfl⟩
      show behind.length < behind.length + 3
      omega
  | array | openArray =>
      obtain ⟨_, inside, rfl, hToken, -⟩ := List.map_eq_cons_iff.1 hTokens
      obtain ⟨rfl, -⟩ := List.cons.inj hts
      exact absurd hToken hBracket
  | map =>
      obtain ⟨_, inside, rfl, hToken, -⟩ := List.map_eq_cons_iff.1 hTokens
      obtain ⟨rfl, -⟩ := List.cons.inj hts
      exact absurd hToken hCurly

end plain

/-! ### Keys and entries -/

/-- Whatever is a key of a pattern is read as a value where a key of a value is. -/
theorem DerivesKey.exists_literal {tokens : List Token} {key : MapKey}
    (h : DerivesKey tokens key) : ∃ v, LiteralKey tokens (v, key) := by
  cases h with
  | optional denotes => exact ⟨_, .optional denotes⟩
  | required denotes unbracketed => exact ⟨_, .required denotes unbracketed⟩

/-- What is read as a key is derived as this key. -/
theorem mapKey_readsOnly : ReadsOnly DerivesKey Eq (mapKey stop ts) := by
  intro key left hRead
  cases ts with
  | nil => exact absurd left.property (Nat.not_lt_zero _)
  | cons l rest =>
      by_cases hBracket : l.token = .leftBracket
      · obtain ⟨v, behindKey, after, hValue, hExpect, rfl, hLeft⟩ :=
          (mapKey_eq_ok_iff_of_bracket hBracket).1 hRead
        obtain ⟨inner, hInner, hDenotes⟩ := (value_reads stop rest v behindKey).1 hValue
        obtain ⟨m, hm, hClose⟩ := expect_eq_ok_iff.1 hExpect
        refine ⟨l :: (inner ++ [m]), .optional v, ?_, ?_, rfl⟩
        · rw [hLeft, List.cons_append, List.append_assoc, List.singleton_append, ← hm, ← hInner]
        · rw [tokensOf, List.map_cons, List.map_append, List.map_singleton, hBracket, hClose]
          exact .optional hDenotes
      · obtain ⟨v, hValue, rfl⟩ := (mapKey_eq_ok_iff_of_value hBracket).1 hRead
        obtain ⟨used, hUsed, hDenotes⟩ := (value_reads stop _ v left).1 hValue
        refine ⟨used, .required v, hUsed, .required hDenotes ?_, rfl⟩
        obtain ⟨others, rfl, -⟩ := exists_of_denotes_append hUsed hDenotes
        simpa using hBracket

/-- What is derived as a key is read as it, whatever stands behind. -/
theorem mapKey_readsAll : ReadsAll (fun _ => True) DerivesKey Eq (mapKey stop ts) := by
  intro used behind key hts _ hKey
  obtain ⟨v, hLiteral⟩ := hKey.exists_literal
  obtain ⟨left, hRead, hLeft⟩ := mapKey_complete stop hts hLiteral
  exact ⟨key, left, hRead, hLeft, rfl⟩

variable [RegexEngine]

/-- Entries, if the like is known of the items further on. -/
theorem patternEntry_readsOnly
    (hItem : ∀ us, us <:+ ts → ReadsOnly DerivesItem Builds (item stop us)) :
    ReadsOnly DerivesKeyed BuildsEntry (patternEntry stop ts) := by
  rintro ⟨key, t⟩ left hRead
  obtain ⟨behindKey, behindArrow, after, hKey, hArrow, hValue, hLeft⟩ :=
    patternEntry_eq_ok_iff.1 hRead
  obtain ⟨ofKey, _, hOfKey, hDerivesKey, rfl⟩ := mapKey_readsOnly _ _ hKey
  obtain ⟨arrow, hBehindKey, hToken⟩ := expect_eq_ok_iff.1 hArrow
  have hSuffix : behindArrow.val <:+ ts := ⟨ofKey ++ [arrow], by
    rw [List.append_assoc, List.singleton_append, ← hBehindKey, ← hOfKey]⟩
  obtain ⟨ofItem, x, hOfItem, hDerives, hBuilds⟩ := hItem _ hSuffix _ _ hValue
  refine ⟨ofKey ++ arrow :: ofItem, (key, x), ?_, ?_, rfl, hBuilds⟩
  · rw [hLeft, List.append_assoc, List.cons_append, ← hOfItem, ← hBehindKey, ← hOfKey]
  · rw [tokensOf, List.map_append, List.map_cons, hToken]
    exact .intro hDerivesKey hDerives

/-- What is derived as an entry is read as one, if the like is known of the items further on. -/
theorem patternEntry_readsAll
    (hItem : ∀ us, us <:+ ts → ReadsAll Stops DerivesItem Builds (item stop us)) :
    ReadsAll Stops DerivesKeyed BuildsEntry (patternEntry stop ts) := by
  intro used behind e hts hStops hEntry
  generalize hTokens : tokensOf used = tokens at hEntry
  obtain ⟨left, right⟩ := hEntry
  obtain ⟨ofKey, others, rfl, rfl, hOthers⟩ := List.map_eq_append_iff.1 hTokens
  obtain ⟨arrow, ofItem, rfl, hToken, rfl⟩ := List.map_eq_cons_iff.1 hOthers
  rw [List.append_assoc] at hts
  obtain ⟨_, behindKey, hKey, hBehindKey, rfl⟩ := mapKey_readsAll ofKey _ _ hts trivial left
  obtain ⟨behindArrow, hArrow, hBehindArrow⟩ := exists_expect_cons stop hBehindKey
  rw [hToken] at hArrow
  have hSuffix : behindArrow.val <:+ ts := ⟨ofKey ++ [arrow], by
    rw [hBehindArrow, hts]
    simp⟩
  obtain ⟨t, after, hValue, hAfter, hBuilds⟩ := hItem _ hSuffix _ _ _ hBehindArrow hStops right
  have hLength : behind.length < ts.length := by
    rw [hts]
    simp only [List.length_append, List.length_cons]
    omega
  exact ⟨(_, t), ⟨behind, hLength⟩, patternEntry_eq_ok_iff.2
    ⟨behindKey, behindArrow, after, hKey, hArrow, hValue, hAfter.symm⟩, rfl, rfl, hBuilds⟩

/-! ### Items of an array, entries of a map -/

section lists

variable {within : List Lexeme}

/-- What is read as the items of an array is derived as them, if the like is known of each. -/
theorem items_readsOnly
    (hItem : ∀ us, us <:+ within → ReadsOnly DerivesItem Builds (item stop us)) :
    ReadsOnly (Closed .rightBracket DerivesItem) (List.Forall₂ Builds)
      (list stop .rightBracket within.length (fun us _ => item stop us) within (Nat.le_refl _)) :=
  list_readsOnly (Nat.le_refl _) fun us _ => hItem us

theorem entries_readsOnly
    (hItem : ∀ us, us <:+ within → ReadsOnly DerivesItem Builds (item stop us)) :
    ReadsOnly (Closed .rightCurly DerivesKeyed) (List.Forall₂ BuildsEntry)
      (list stop .rightCurly within.length (fun us _ => patternEntry stop us) within
        (Nat.le_refl _)) :=
  list_readsOnly (Nat.le_refl _) fun _ _ hus =>
    patternEntry_readsOnly fun vs hvs => hItem vs (hvs.trans hus)

/-- What is derived as the items of an array is read up to the bracket, if the like is known of
each. -/
theorem items_readsAll
    (hItem : ∀ us, us <:+ within → ReadsAll Stops DerivesItem Builds (item stop us)) :
    ReadsAll (fun _ => True) (Closed .rightBracket DerivesItem) (List.Forall₂ Builds)
      (list stop .rightBracket within.length (fun us _ => item stop us) within (Nat.le_refl _)) :=
  list_readsAll (Nat.le_refl _) derivesItem_opens nofun
    (fun _ _ hEnd => stops_cons (hEnd.imp_right .inl)) fun us _ => hItem us

theorem entries_readsAll
    (hItem : ∀ us, us <:+ within → ReadsAll Stops DerivesItem Builds (item stop us)) :
    ReadsAll (fun _ => True) (Closed .rightCurly DerivesKeyed) (List.Forall₂ BuildsEntry)
      (list stop .rightCurly within.length (fun us _ => patternEntry stop us) within
        (Nat.le_refl _)) :=
  list_readsAll (Nat.le_refl _) derivesKeyed_opens nofun
    (fun _ _ hEnd => stops_cons (hEnd.imp_right .inr)) fun _ _ hus =>
      patternEntry_readsAll fun vs hvs => hItem vs (hvs.trans hus)

end lists

/-! ### What stands before an at sign -/

section primary

variable {l : Lexeme} {rest : List Lexeme}

/-- What is read behind an opening bracket is derived as an array, if the like is known of its
items. -/
theorem primary_readsOnly_of_bracket (hBracket : l.token = .leftBracket)
    (hItem : ∀ us, us <:+ rest → ReadsOnly DerivesItem Builds (item stop us)) :
    ReadsOnly DerivesPrimary Makes (primary stop (l :: rest)) := by
  intro t left hRead
  obtain ⟨items, after, p, hList, hGives, rfl, hLeft⟩ :=
    (primary_eq_ok_iff_of_bracket hBracket).1 hRead
  obtain ⟨used, xs, hUsed, ⟨inside, hInside, hListed⟩, hBuilds⟩ :=
    items_readsOnly hItem items after hList
  have hTokens : tokensOf (l :: used) = .leftBracket :: (inside ++ [.rightBracket]) := by
    rw [tokensOf_cons, hBracket, hInside]
  refine ⟨l :: used, ?_⟩
  rw [hTokens, hLeft, List.cons_append, ← hUsed]
  rcases exists_array_of_gives hBuilds hGives with ⟨fs, rfl, rfl⟩ | ⟨fs, each, name, rfl, rfl⟩
  · exact ⟨.array fs, rfl, .array hListed, rfl⟩
  · exact ⟨.openArray fs each name, rfl, .openArray hListed, rfl⟩

/-- What is read behind an opening brace is derived as a map, if the like is known of the items in
it. -/
theorem primary_readsOnly_of_curly (hCurly : l.token = .leftCurly)
    (hItem : ∀ us, us <:+ rest → ReadsOnly DerivesItem Builds (item stop us)) :
    ReadsOnly DerivesPrimary Makes (primary stop (l :: rest)) := by
  intro t left hRead
  obtain ⟨entries, after, p, hList, hGives, rfl, hLeft⟩ :=
    (primary_eq_ok_iff_of_curly hCurly).1 hRead
  obtain ⟨used, xs, hUsed, ⟨inside, hInside, hListed⟩, hBuilds⟩ :=
    entries_readsOnly hItem entries after hList
  obtain ⟨fs, rfl, rfl⟩ := exists_map_of_gives hBuilds hGives
  refine ⟨l :: used, .map fs, ?_, ?_, rfl⟩
  · rw [hLeft, List.cons_append, ← hUsed]
  · rw [tokensOf_cons, hCurly, hInside]
    exact .map (listed_keyed_iff.1 hListed)

/-- What stands before an at sign, if the like is known of the items between its brackets. -/
theorem primary_readsOnly (hSpelled : Spelled ts)
    (hItem : ∀ us, us <:+ ts → us.length < ts.length →
      ReadsOnly DerivesItem Builds (item stop us)) :
    ReadsOnly DerivesPrimary Makes (primary stop ts) := by
  cases ts with
  | nil => exact fun t left _ => absurd left.property (Nat.not_lt_zero _)
  | cons l rest =>
      have hRest (us : List Lexeme) (hus : us <:+ rest) :
          ReadsOnly DerivesItem Builds (item stop us) :=
        hItem us (hus.trans (List.suffix_cons l rest)) (Nat.lt_succ_of_le hus.length_le)
      by_cases hBracket : l.token = .leftBracket
      · exact primary_readsOnly_of_bracket hBracket hRest
      · by_cases hCurly : l.token = .leftCurly
        · exact primary_readsOnly_of_curly hCurly hRest
        · rw [primary_of_plain hBracket hCurly]
          exact plain_readsOnly hSpelled

/-- Behind an opening bracket stand the items of an array, up to the closing one. -/
theorem DerivesPrimary.exists_items {tokens : List Token} {f : PatternTree}
    (h : DerivesPrimary (.leftBracket :: tokens) f) :
    ∃ xs, Closed .rightBracket DerivesItem tokens xs ∧
      ∀ ts, List.Forall₂ Builds ts xs → (Template.array ts).Gives f.pattern := by
  cases h with
  | scalar denotes => cases denotes
  | array listed => exact ⟨_, ⟨_, rfl, listed⟩, fun _ => gives_of_plain⟩
  | openArray listed => exact ⟨_, ⟨_, rfl, listed⟩, fun _ => gives_of_open⟩

/-- Behind an opening brace stand the entries of a map, up to the closing one. -/
theorem DerivesPrimary.exists_entries {tokens : List Token} {f : PatternTree}
    (h : DerivesPrimary (.leftCurly :: tokens) f) :
    ∃ entries, f = .map entries ∧ Closed .rightCurly DerivesEntry tokens entries := by
  cases h with
  | scalar denotes => cases denotes
  | map listed => exact ⟨_, rfl, _, rfl, listed⟩

/-- The items of an array and a closing bracket are read behind the opening one. -/
theorem primary_readsAll_of_bracket {f : PatternTree} (hBracket : l.token = .leftBracket)
    (hItem : ∀ us, us <:+ rest → ReadsAll Stops DerivesItem Builds (item stop us))
    (hRest : rest = used ++ behind) (h : DerivesPrimary (.leftBracket :: tokensOf used) f) :
    ∃ t left, primary stop (l :: rest) = .ok (t, left) ∧ left.val = behind ∧ Makes t f := by
  obtain ⟨xs, hClosed, hGives⟩ := h.exists_items
  obtain ⟨items, after, hList, hAfter, hBuilds⟩ :=
    items_readsAll hItem used behind xs hRest trivial hClosed
  exact ⟨_, ⟨behind, hAfter ▸ Nat.lt_succ_of_lt after.property⟩,
    (primary_eq_ok_iff_of_bracket hBracket).2
      ⟨items, after, _, hList, hGives items hBuilds, rfl, hAfter.symm⟩, rfl, rfl⟩

/-- The entries of a map and a closing bracket are read behind the opening one. -/
theorem primary_readsAll_of_curly {f : PatternTree} (hCurly : l.token = .leftCurly)
    (hItem : ∀ us, us <:+ rest → ReadsAll Stops DerivesItem Builds (item stop us))
    (hRest : rest = used ++ behind) (h : DerivesPrimary (.leftCurly :: tokensOf used) f) :
    ∃ t left, primary stop (l :: rest) = .ok (t, left) ∧ left.val = behind ∧ Makes t f := by
  obtain ⟨entries, rfl, inside, hInside, hListed⟩ := h.exists_entries
  obtain ⟨es, after, hList, hAfter, hBuilds⟩ := entries_readsAll hItem used behind _ hRest trivial
    ⟨inside, hInside, listed_keyed_iff.2 hListed⟩
  exact ⟨_, ⟨behind, hAfter ▸ Nat.lt_succ_of_lt after.property⟩,
    (primary_eq_ok_iff_of_curly hCurly).2
      ⟨es, after, _, hList, gives_of_entries hBuilds, rfl, hAfter.symm⟩, rfl, rfl⟩

/-- Whatever stands for a pattern before an at sign is read, if the like is known of the items
between its brackets. -/
theorem primary_readsAll (hSpelled : Spelled ts)
    (hItem : ∀ us, us <:+ ts → us.length < ts.length →
      ReadsAll Stops DerivesItem Builds (item stop us)) :
    ReadsAll NoRange DerivesPrimary Makes (primary stop ts) := by
  intro used behind f hts hNoRange hPrimary
  obtain ⟨first, tokens, hTokens, -⟩ := hPrimary.exists_head
  obtain ⟨l, others, rfl, hFirst, rfl⟩ := List.map_eq_cons_iff.1 hTokens
  subst hts
  have hRest (us : List Lexeme) (hus : us <:+ others ++ behind) :
      ReadsAll Stops DerivesItem Builds (item stop us) :=
    hItem us (hus.trans (List.suffix_cons l _)) (Nat.lt_succ_of_le hus.length_le)
  by_cases hBracket : l.token = .leftBracket
  · rw [tokensOf_cons, hBracket] at hPrimary
    exact primary_readsAll_of_bracket hBracket hRest rfl hPrimary
  · by_cases hCurly : l.token = .leftCurly
    · rw [tokensOf_cons, hCurly] at hPrimary
      exact primary_readsAll_of_curly hCurly hRest rfl hPrimary
    · rw [List.cons_append, primary_of_plain hBracket hCurly]
      exact plain_readsAll hSpelled hBracket hCurly _ _ _ rfl hNoRange hPrimary

end primary

/-! ### Items -/

section items

variable {l : Lexeme} {rest : List Lexeme}

/-- An item without a star is a pattern, if what stands before the at sign is. -/
theorem item_readsOnly_of_plain (hStar : l.token ≠ .star) (hSpelled : Spelled (l :: rest))
    (hPrimary : ReadsOnly DerivesPrimary Makes (primary stop (l :: rest))) :
    ReadsOnly DerivesItem Builds (item stop (l :: rest)) := by
  intro t left hRead
  obtain ⟨inner, after, hInner, hNaming⟩ := (item_eq_ok_iff hStar).1 hRead
  obtain ⟨used, f, hUsed, hDerives, hMakes⟩ := hPrimary inner after hInner
  rcases naming_eq_ok_iff.1 hNaming with
    ⟨-, rfl, hLeft⟩ | ⟨sign, m, name, others, hAfter, hSign, hToken, hBind, hLeft⟩
  · exact ⟨used, .plain f, by rw [hLeft, ← hUsed], .plain (.plain hDerives), hMakes⟩
  · have hWhole : l :: rest = used ++ [sign, m] ++ left.val := by
      rw [hLeft, List.append_assoc]
      exact hUsed.trans (congrArg (used ++ ·) hAfter)
    have hMember : m ∈ l :: rest := by rw [hWhole]; simp
    have hName := hSpelled.isVariableName hMember hToken
    obtain rfl := Except.ok.inj (hBind.symm.trans (bind_of_gives hMakes hName))
    refine ⟨used ++ [sign, m], .plain (.named f name), hWhole, .plain ?_, rfl⟩
    rw [tokensOf, List.map_append, List.map_cons, List.map_singleton, hSign, hToken]
    exact .named hDerives name

/-- An item with a star is a tail, if what stands between the star and the at sign is a pattern. -/
theorem item_readsOnly_of_star (hStar : l.token = .star) (hSpelled : Spelled (l :: rest))
    (hPrimary : ReadsOnly DerivesPrimary Makes (primary stop rest)) :
    ReadsOnly DerivesItem Builds (item stop (l :: rest)) := by
  intro t left hRead
  obtain ⟨inner, after, each, tail, behind, hInner, hEach, hNaming, rfl, hBehind⟩ :=
    (item_eq_ok_iff_of_star hStar).1 hRead
  obtain ⟨used, f, hUsed, hDerives, hMakes⟩ := hPrimary inner after hInner
  obtain rfl : each = f.pattern := Except.ok.inj (hEach.symm.trans hMakes)
  rcases naming_eq_ok_iff.1 hNaming with
    ⟨-, rfl, hLeft⟩ | ⟨sign, m, name, others, hAfter, hSign, hToken, hNamed, hLeft⟩
  · refine ⟨l :: used, .starred f none, ?_, ?_, rfl⟩
    · rw [hBehind, hLeft, List.cons_append, ← hUsed]
    · rw [tokensOf_cons, hStar]
      exact .starred hDerives
  · have hWhole : l :: rest = l :: (used ++ [sign, m]) ++ left.val := by
      rw [hBehind, hLeft, List.cons_append, List.append_assoc]
      exact congrArg (l :: ·) (hUsed.trans (congrArg (used ++ ·) hAfter))
    have hMember : m ∈ l :: rest := by rw [hWhole]; simp
    have hName := hSpelled.isVariableName hMember hToken
    obtain rfl := Except.ok.inj (hNamed.symm.trans (tailNamed_of_isVariableName hName _))
    refine ⟨l :: (used ++ [sign, m]), .starred f (some name), hWhole, ?_, rfl⟩
    rw [tokensOf_cons, tokensOf, List.map_append, List.map_cons, List.map_singleton, hStar, hSign,
      hToken]
    exact .starredNamed hDerives name

/-- A pattern is read as an item, if what stands before the at sign is. -/
theorem item_readsAll_of_plain (hSpelled : Spelled ts)
    (hPrimary : ReadsAll NoRange DerivesPrimary Makes (primary stop ts))
    (hts : ts = used ++ behind) (hStops : Stops behind) {f : PatternTree}
    (h : Derives (tokensOf used) f) :
    ∃ t left, item stop ts = .ok (t, left) ∧ left.val = behind ∧ Makes t f := by
  obtain ⟨first, others, hTokens, -, hFirst⟩ := h.exists_head
  obtain ⟨l, rest, rfl, hToken, -⟩ := List.map_eq_cons_iff.1 hTokens
  have hStar : l.token ≠ .star := hToken ▸ hFirst
  subst hts
  generalize hWhole : tokensOf (l :: rest) = tokens at h
  cases h with
  | plain primary =>
      subst hWhole
      obtain ⟨t, left, hRead, hLeft, hMakes⟩ := hPrimary _ _ _ rfl hStops.noRange primary
      have hUnnamed : Stops left.val := by rwa [hLeft]
      exact ⟨t, left, (item_eq_ok_iff hStar).2 ⟨t, left, hRead, naming_of_stops hUnnamed⟩, hLeft,
        hMakes⟩
  | named primary name =>
      obtain ⟨part, sign, m, hParts, rfl, hSign, hm⟩ := exists_named hWhole
      have hName := hSpelled.isVariableName (by rw [hParts]; simp) hm
      obtain ⟨t, left, hRead, hLeft, hMakes⟩ := hPrimary part (sign :: m :: behind) _
        (by rw [hParts]; simp) (noRange_of_atSign hSign) primary
      have hShorter : behind.length < (l :: rest ++ behind).length := by
        rw [List.length_append, List.length_cons]
        omega
      exact ⟨_, ⟨behind, hShorter⟩, (item_eq_ok_iff hStar).2 ⟨t, left, hRead, naming_eq_ok_iff.2
        (.inr ⟨sign, m, name, behind, hLeft, hSign, hm, bind_of_gives hMakes hName, rfl⟩)⟩,
        rfl, rfl⟩

/-- A star and a pattern are read as a tail, if what stands before the at sign is read. -/
theorem item_readsAll_of_star (hSpelled : Spelled (l :: rest)) (hStar : l.token = .star)
    (hPrimary : ReadsAll NoRange DerivesPrimary Makes (primary stop rest))
    (hRest : rest = used ++ behind) (hStops : Stops behind) {each : PatternTree}
    {name : Option String} (h : DerivesItem (.star :: tokensOf used) (.starred each name)) :
    ∃ left, item stop (l :: rest) = .ok (.tail (.ofRest each.pattern name), left) ∧
      left.val = behind := by
  have hShorter : behind.length < (l :: rest).length := by
    rw [hRest, List.length_cons, List.length_append]
    omega
  generalize hWhole : tokensOf used = tokens at h
  cases h with
  | starred primary =>
      subst hWhole
      obtain ⟨t, left, hRead, hLeft, hMakes⟩ := hPrimary _ _ _ hRest hStops.noRange primary
      have hUnnamed : Stops left.val := by rwa [hLeft]
      exact ⟨⟨behind, hShorter⟩, (item_eq_ok_iff_of_star hStar).2
        ⟨t, left, _, _, left, hRead, hMakes, naming_of_stops hUnnamed, rfl, hLeft.symm⟩, rfl⟩
  | starredNamed primary n =>
      obtain ⟨part, sign, m, rfl, rfl, hSign, hm⟩ := exists_named hWhole
      have hName := hSpelled.isVariableName (by rw [hRest]; simp) hm
      obtain ⟨t, left, hRead, hLeft, hMakes⟩ := hPrimary part (sign :: m :: behind) _
        (by rw [hRest]; simp) (noRange_of_atSign hSign) primary
      have hBehind : behind.length < rest.length := by
        rw [hRest]
        simp only [List.length_append, List.length_cons]
        omega
      exact ⟨⟨behind, hShorter⟩, (item_eq_ok_iff_of_star hStar).2
        ⟨t, left, _, _, ⟨behind, hBehind⟩, hRead, hMakes, naming_eq_ok_iff.2
          (.inr ⟨sign, m, n, behind, hLeft, hSign, hm, tailNamed_of_isVariableName hName _, rfl⟩),
          rfl, rfl⟩, rfl⟩

end items

/-- What an item is read as is what the tree of the lexemes taken makes. -/
theorem item_readsOnly (hSpelled : Spelled ts) :
    ReadsOnly DerivesItem Builds (item stop ts) := by
  induction h : ts.length using Nat.strongRecOn generalizing ts with
  | ind n ih =>
      subst h
      have hPrimary {us : List Lexeme} (hus : us <:+ ts) :
          ReadsOnly DerivesPrimary Makes (primary stop us) :=
        primary_readsOnly (hSpelled.of_suffix hus) fun vs hvs hShorter =>
          ih _ (Nat.lt_of_lt_of_le hShorter hus.length_le) (hSpelled.of_suffix (hvs.trans hus)) rfl
      cases ts with
      | nil => exact fun t left _ => absurd left.property (Nat.not_lt_zero _)
      | cons l rest =>
          by_cases hStar : l.token = .star
          · exact item_readsOnly_of_star hStar hSpelled (hPrimary (List.suffix_cons l rest))
          · exact item_readsOnly_of_plain hStar hSpelled (hPrimary (List.suffix_refl _))

/-- Whatever is derived is read as an item, where no more of one stands behind it. -/
theorem item_readsAll (hSpelled : Spelled ts) :
    ReadsAll Stops DerivesItem Builds (item stop ts) := by
  induction h : ts.length using Nat.strongRecOn generalizing ts with
  | ind n ih =>
      subst h
      have hPrimary {us : List Lexeme} (hus : us <:+ ts) :
          ReadsAll NoRange DerivesPrimary Makes (primary stop us) :=
        primary_readsAll (hSpelled.of_suffix hus) fun vs hvs hShorter =>
          ih _ (Nat.lt_of_lt_of_le hShorter hus.length_le) (hSpelled.of_suffix (hvs.trans hus)) rfl
      intro used behind x hts hStops hItem
      cases x with
      | plain f =>
          exact item_readsAll_of_plain hSpelled (hPrimary (List.suffix_refl _)) hts hStops
            (derivesItem_plain_iff.1 hItem)
      | starred each name =>
          obtain ⟨tokens, hTokens⟩ := hItem.exists_star
          obtain ⟨l, others, rfl, hStar, rfl⟩ := List.map_eq_cons_iff.1 hTokens
          rw [hTokens] at hItem
          subst hts
          obtain ⟨left, hRead, hLeft⟩ := item_readsAll_of_star hSpelled hStar
            (hPrimary (List.suffix_cons l _)) rfl hStops hItem
          exact ⟨_, left, hRead, hLeft, rfl⟩

end CaseMatch.Surface
