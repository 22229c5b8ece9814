import CaseMatch.Proofs.Surface.PatternDerivation

/-!
Why lexemes that fit the notation denote no pattern: a star stands where it may not, or a regular
expression is none. No reading fails at the name of a variable or of a kind, as far as the names in
the lexemes are valid.
-/

namespace CaseMatch.Surface

/-- Why lexemes denote no pattern, and the place that is told: a star before an item of an array
that is not the last, at the opening bracket; a star before a value of a map, at the opening brace;
or a regular expression that is none. -/
inductive Refused [RegexEngine] (ts : List Lexeme) : Invalidity → Span → Prop where
  | tailNotLast (before : List Lexeme) {used behind : List Lexeme} {l : Lexeme}
      {fs : List PatternTree} {each : PatternTree} {rest : Option String} {x : ItemTree}
      {more : List ItemTree}
      (place : ts = before ++ l :: (used ++ behind)) (opening : l.token = .leftBracket)
      (items : Closed .rightBracket DerivesItem (tokensOf used)
        (fs.map .plain ++ .starred each rest :: x :: more)) :
      Refused ts (.pattern (.tailNotLast (.ofRest each.pattern rest) fs.length
        (fs.length + (more.length + 2)))) l.span
  | tailOutsideArray (before : List Lexeme) {used behind : List Lexeme} {l : Lexeme}
      {fs : List (MapKey × PatternTree)} {key : MapKey} {each : PatternTree}
      {rest : Option String} {more : List (MapKey × ItemTree)}
      (place : ts = before ++ l :: (used ++ behind)) (opening : l.token = .leftCurly)
      (entries : Closed .rightCurly DerivesKeyed (tokensOf used)
        ((fs.map fun e => (e.1, .plain e.2)) ++ (key, .starred each rest) :: more)) :
      Refused ts (.pattern (.tailOutsideArray (.ofRest each.pattern rest))) l.span
  | regularExpression {l : Lexeme} {source : String} (member : l ∈ ts)
      (token : l.token = .regex source ∨ l.token = .symbolRegex source)
      (invalid : Regex.compile? source = none) :
      Refused ts (.pattern (.regularExpression source)) l.span

/-- What is refused further on is refused among all the lexemes. -/
theorem Refused.of_suffix [RegexEngine] {us ts : List Lexeme} {reason : Invalidity} {span : Span}
    (h : Refused us reason span) (hus : us <:+ ts) : Refused ts reason span := by
  obtain ⟨front, rfl⟩ := hus
  cases h with
  | tailNotLast before place opening items =>
      exact .tailNotLast (front ++ before) (by rw [place, List.append_assoc]) opening items
  | tailOutsideArray before place opening entries =>
      exact .tailOutsideArray (front ++ before) (by rw [place, List.append_assoc]) opening entries
  | regularExpression member token invalid =>
      exact .regularExpression (List.mem_append_right front member) token invalid

/-- Why all lexemes together denote no pattern: something in them denotes none, or they are a single
item with a star. -/
inductive RefusedWhole [RegexEngine] : List Lexeme → Invalidity → Span → Prop where
  | inside {ts : List Lexeme} {reason : Invalidity} {span : Span}
      (refused : Refused ts reason span) : RefusedWhole ts reason span
  | starred {l : Lexeme} {others : List Lexeme} {each : PatternTree} {rest : Option String}
      (item : DerivesItem (tokensOf (l :: others)) (.starred each rest)) :
      RefusedWhole (l :: others) (.pattern (.tailOutsideArray (.ofRest each.pattern rest))) l.span

/-! ### Readings that fail -/

/-- Where a result is that the notation denotes nothing, this is why. -/
def InvalidOnly (P : Invalidity → Span → Prop) {α : Type} (result : Except ReadError α) : Prop :=
  ∀ reason span, result = .error (.invalid reason span) → P reason span

namespace InvalidOnly

variable {P Q : Invalidity → Span → Prop} {α β : Type}

theorem ok (a : α) : InvalidOnly P (.ok a) := nofun

theorem unexpectedToken {expected : Expected} {l : Lexeme} :
    InvalidOnly P (.error (.unexpectedToken expected l) : Except ReadError α) :=
  nofun

theorem unexpectedEnd {expected : Expected} {position : Nat} :
    InvalidOnly P (.error (.unexpectedEnd expected position) : Except ReadError α) :=
  nofun

/-- What is read in two steps is invalid only for the reasons that each of them is. -/
theorem bind {x : Except ReadError α} {f : α → Except ReadError β} (h : InvalidOnly P x)
    (hOn : ∀ a, x = .ok a → InvalidOnly P (f a)) : InvalidOnly P (x >>= f) := by
  cases x with
  | ok a => exact hOn a rfl
  | error e =>
      intro reason span hError
      refine h reason span ?_
      cases hError
      rfl

theorem mono {x : Except ReadError α} (h : InvalidOnly P x)
    (hPQ : ∀ reason span, P reason span → Q reason span) : InvalidOnly Q x :=
  fun reason span hError => hPQ reason span (h reason span hError)

theorem of_gives {t : Template} {p : Pattern} (h : t.Gives p) (span : Span) :
    InvalidOnly P (located span t.toPattern) := by
  have hPattern : t.toPattern = .ok p := h
  rw [hPattern]
  exact .ok p

end InvalidOnly

section steps

variable {P : Invalidity → Span → Prop} {stop : Nat} {ts : List Lexeme}

theorem advance_invalidOnly {expected : Expected} : InvalidOnly P (advance stop expected ts) := by
  cases ts with
  | nil => exact .unexpectedEnd
  | cons l rest => exact .ok _

theorem expect_invalidOnly {t : Token} : InvalidOnly P (expect stop t ts) := by
  refine advance_invalidOnly.bind ?_
  rintro ⟨l, rest⟩ -
  dsimp only
  split
  · exact .ok _
  · exact .unexpectedToken

theorem identifier_invalidOnly : InvalidOnly P (identifier stop ts) := by
  refine advance_invalidOnly.bind ?_
  rintro ⟨l, rest⟩ -
  dsimp only
  split
  · exact .ok _
  · exact .unexpectedToken

theorem rangeFrom_invalidOnly {start : Int64} {inclusive : Bool} :
    InvalidOnly P (rangeFrom stop start inclusive ts) := by
  refine advance_invalidOnly.bind ?_
  rintro ⟨l, rest⟩ -
  dsimp only
  split
  · exact .ok _
  · exact .unexpectedToken

/-- A list fails where one of its items does. -/
theorem list_invalidOnly {α : Type} {close : Token} {bound : Nat}
    {item : (us : List Lexeme) → us.length ≤ bound → Reading α us} (within : ts.length ≤ bound)
    (hLeft : ∀ us within a left, us <:+ ts → item us within = .ok (a, left) → left.val <:+ us)
    (hItem : ∀ us within, us <:+ ts → InvalidOnly P (item us within)) :
    InvalidOnly P (list stop close bound item ts within) := by
  induction h : ts.length using Nat.strongRecOn generalizing ts with
  | ind n ih =>
      subst h
      rw [list.eq_def]
      cases ts with
      | nil =>
          have hFirst := hItem [] within (List.suffix_refl _)
          dsimp only
          split
          · rename_i e hError
            rintro _ _ ⟨⟩
            exact hFirst _ _ hError
          · rename_i rest _
            exact absurd rest.property (Nat.not_lt_zero _)
      | cons l rest =>
          dsimp only
          split
          · exact .ok _
          · refine (hItem _ _ (List.suffix_refl _)).bind ?_
            rintro ⟨a, after, hShorter⟩ hFirst
            have hAfter : after <:+ l :: rest := hLeft _ _ _ _ (List.suffix_refl _) hFirst
            cases after with
            | nil => exact .unexpectedEnd
            | cons m others =>
                dsimp only
                have hOthers : others <:+ l :: rest := (List.suffix_cons m others).trans hAfter
                split
                · refine (ih _ (Nat.lt_of_succ_lt hShorter) _
                    (fun us within a left hus => hLeft us within a left (hus.trans hOthers))
                    (fun us within hus => hItem us within (hus.trans hOthers)) rfl).bind ?_
                  exact fun read _ => .ok _
                · split
                  · exact .ok _
                  · exact .unexpectedToken

theorem Reads.suffix {α : Type} {Item : List Token → α → Prop} {reading : Reading α ts}
    (h : Reads Item reading) {a : α} {left : Rest ts} (hRead : reading = .ok (a, left)) :
    left.val <:+ ts := by
  obtain ⟨used, hUsed, -⟩ := (h a left).1 hRead
  exact ⟨used, hUsed.symm⟩

/-- What is left after a reading stands at the end of the lexemes. -/
theorem ReadsOnly.suffix {β γ : Type} {Item : List Token → γ → Prop} {Gives : β → γ → Prop}
    {reading : Reading β ts} (h : ReadsOnly Item Gives reading) {b : β} {left : Rest ts}
    (hRead : reading = .ok (b, left)) : left.val <:+ ts := by
  obtain ⟨used, _, hUsed, -⟩ := h b left hRead
  exact ⟨used, hUsed.symm⟩

/-- A pair is invalid only for the reasons that its key or its value is. -/
theorem entry_invalidOnly
    (hValue : ∀ us : List Lexeme, us.length ≤ ts.length → InvalidOnly P (value stop us)) :
    InvalidOnly P (entry stop ts) := by
  refine (hValue ts (Nat.le_refl _)).bind fun ofKey _ => expect_invalidOnly.bind fun arrow _ => ?_
  refine (hValue _ ?_).bind fun read _ => .ok _
  have := arrow.property
  have := ofKey.2.property
  omega

/-- Lexemes that fit the notation of values denote one. -/
theorem value_invalidOnly : InvalidOnly P (value stop ts) := by
  induction h : ts.length using Nat.strongRecOn generalizing ts with
  | ind n ih =>
      subst h
      rw [value.eq_def]
      cases ts with
      | nil => exact .unexpectedEnd
      | cons l rest =>
          have hValue (us : List Lexeme) (h : us.length ≤ rest.length) :
              InvalidOnly P (value stop us) := ih _ (Nat.lt_succ_of_le h) rfl
          have hEntry (us : List Lexeme) (h : us.length ≤ rest.length) :
              InvalidOnly P (entry stop us) :=
            entry_invalidOnly fun vs hShorter => hValue vs (Nat.le_trans hShorter h)
          have hSuffix (us : List Lexeme) (pair : Value × Value) (left : Rest us)
              (hRead : entry stop us = .ok (pair, left)) : left.val <:+ us :=
            (entry_reads fun vs _ => value_reads stop vs).suffix hRead
          dsimp only
          split
          · refine (list_invalidOnly (Nat.le_refl _) (fun us _ _ _ _ => (value_reads stop us).suffix)
              fun us within _ => hValue us within).bind ?_
            exact fun read _ => .ok _
          · change InvalidOnly P (list stop .rightCurly rest.length (fun us _ => entry stop us) rest
              (Nat.le_refl _) >>= _)
            refine (list_invalidOnly (Nat.le_refl _) (fun us _ pair left _ => hSuffix us pair left)
              fun us within _ => hEntry us within).bind ?_
            exact fun read _ => .ok _
          · split
            · exact .ok _
            · exact .unexpectedToken

/-- A key is never invalid: it is read or does not fit the notation. -/
theorem mapKey_invalidOnly : InvalidOnly P (mapKey stop ts) := by
  cases ts with
  | nil => exact .unexpectedEnd
  | cons l rest =>
      rw [mapKey.eq_def]
      dsimp only
      split
      · exact value_invalidOnly.bind fun ofKey _ => expect_invalidOnly.bind fun after _ => .ok _
      · exact value_invalidOnly.bind fun ofKey _ => .ok _

/-- An entry fails where the item behind its arrow does. -/
theorem patternEntry_invalidOnly [RegexEngine]
    (hItem : ∀ us, us <:+ ts → InvalidOnly P (item stop us)) :
    InvalidOnly P (patternEntry stop ts) := by
  refine mapKey_invalidOnly.bind ?_
  rintro ⟨key, behindKey⟩ hKey
  refine expect_invalidOnly.bind fun behindArrow hArrow => ?_
  obtain ⟨arrow, hBehindKey, -⟩ := expect_eq_ok_iff.1 hArrow
  have hSuffix : behindArrow.val <:+ ts := by
    have hArrowSuffix : behindArrow.val <:+ behindKey.val := ⟨[arrow], hBehindKey.symm⟩
    exact hArrowSuffix.trans (mapKey_readsOnly.suffix hKey)
  exact (hItem _ hSuffix).bind fun read _ => .ok _

/-- A name is given without a failure, where giving a valid name is. -/
theorem naming_invalidOnly {α : Type} {named : String → Except PatternError α} {unnamed : α}
    {behind : List Lexeme} {h : behind.length < ts.length} (hSpelled : Spelled behind)
    (hNamed : ∀ name, isVariableName name = true → ∃ a, named name = .ok a) :
    InvalidOnly P (naming stop ts named unnamed behind h) := by
  cases behind with
  | nil => exact .ok _
  | cons l rest =>
      rw [naming]
      split
      · refine identifier_invalidOnly.bind ?_
        rintro ⟨⟨name, span⟩, after⟩ hRead
        obtain ⟨m, hRest, hToken, -⟩ := identifier_eq_ok_iff.1 hRead
        have hName := hSpelled.isVariableName (by rw [hRest]; simp) hToken
        obtain ⟨a, ha⟩ := hNamed name hName
        dsimp only
        rw [ha]
        exact .ok _
      · exact .ok _

/-! ### Patterns -/

variable [RegexEngine] {l : Lexeme} {rest : List Lexeme}

/-- A lexeme that stands for itself denotes a pattern, unless it is a regular expression that is
none. -/
theorem plain_invalidOnly (hSpelled : Spelled (l :: rest)) :
    InvalidOnly (Refused (l :: rest)) (plain stop l rest) := by
  have regex {source : String}
      (hToken : l.token = .regex source ∨ l.token = .symbolRegex source) {make : Regex → Pattern} :
      InvalidOnly (Refused (l :: rest))
        (located l.span ((Pattern.regex source).map make) >>= fun p =>
          (.ok (Template.pattern p, .tail l rest) : Reading Template (l :: rest))) := by
    rw [Pattern.regex]
    split
    · exact .ok _
    · rename_i hInvalid
      rintro _ _ ⟨⟩
      exact .regularExpression List.mem_cons_self hToken hInvalid
  cases hToken : l.token with
  | identifier name =>
      rw [plain_of_identifier hToken (hSpelled.isVariableName List.mem_cons_self hToken)]
      exact .ok _
  | typeName name =>
      rw [plain_of_typeName hToken (hSpelled.isKindName List.mem_cons_self hToken)]
      exact .ok _
  | regex source =>
      rw [plain, hToken]
      exact regex (.inl hToken)
  | symbolRegex source =>
      rw [plain, hToken]
      exact regex (.inr hToken)
  | integer start =>
      rcases noRange_or rest with hNone | ⟨m, others, inclusive, rfl, hSign⟩
      · rw [plain_of_scalar (v := .integer start) (by rw [hToken]; rfl) fun _ _ => hNone]
        exact .ok _
      · rw [plain_of_range hToken hSign]
        exact rangeFrom_invalidOnly.bind fun read _ => .ok _
  | nil | boolean | float | string | symbol | wildcard =>
      rw [plain, hToken]
      exact .ok _
  | _ =>
      rw [plain, hToken]
      exact .unexpectedToken

/-- Items that are read make a pattern, or a star stands before one that is not the last. -/
theorem array_invalidOnly {items : List Template} {after : Rest rest}
    (hBracket : l.token = .leftBracket) (hSpelled : Spelled rest)
    (hList : list stop .rightBracket rest.length (fun us _ => item stop us) rest (Nat.le_refl _) =
      .ok (items, after)) :
    InvalidOnly (Refused (l :: rest)) (located l.span (Template.array items).toPattern) := by
  obtain ⟨used, xs, hUsed, hClosed, hBuilds⟩ :=
    items_readsOnly (fun _ hus => item_readsOnly (hSpelled.of_suffix hus)) items after hList
  rcases items_cases xs with ⟨fs, rfl⟩ | ⟨fs, each, name, _ | ⟨x, more⟩, rfl⟩
  · exact .of_gives (gives_of_plain hBuilds) l.span
  · exact .of_gives (gives_of_open hBuilds) l.span
  · rw [refuses_misplaced hBuilds]
    rintro _ _ ⟨⟩
    exact .tailNotLast [] (congrArg (l :: ·) hUsed) hBracket hClosed

/-- Entries that are read make a pattern, or a star stands before a value. -/
theorem map_invalidOnly {entries : List (MapKey × Template)} {after : Rest rest}
    (hCurly : l.token = .leftCurly) (hSpelled : Spelled rest)
    (hList : list stop .rightCurly rest.length (fun us _ => patternEntry stop us) rest
      (Nat.le_refl _) = .ok (entries, after)) :
    InvalidOnly (Refused (l :: rest)) (located l.span (Template.map entries).toPattern) := by
  obtain ⟨used, xs, hUsed, hClosed, hBuilds⟩ :=
    entries_readsOnly (fun _ hus => item_readsOnly (hSpelled.of_suffix hus)) entries after hList
  rcases entries_cases xs with ⟨fs, rfl⟩ | ⟨fs, key, each, name, more, rfl⟩
  · exact .of_gives (gives_of_entries hBuilds) l.span
  · rw [refuses_entries hBuilds]
    rintro _ _ ⟨⟩
    exact .tailOutsideArray [] (congrArg (l :: ·) hUsed) hCurly hClosed

/-- An array fails for one of these reasons, if its items do. -/
theorem primary_invalidOnly_of_bracket (hBracket : l.token = .leftBracket)
    (hSpelled : Spelled rest)
    (hItem : ∀ us, us <:+ rest → InvalidOnly (Refused (l :: rest)) (item stop us)) :
    InvalidOnly (Refused (l :: rest)) (primary stop (l :: rest)) := by
  rw [primary.eq_def]
  simp only [hBracket]
  refine (list_invalidOnly (Nat.le_refl _) (fun us _ _ _ hus =>
    (item_readsOnly (hSpelled.of_suffix hus)).suffix) fun us _ => hItem us).bind ?_
  rintro ⟨items, after⟩ hList
  exact (array_invalidOnly hBracket hSpelled hList).bind fun p _ => .ok _

/-- A map fails for one of these reasons, if the items in it do. -/
theorem primary_invalidOnly_of_curly (hCurly : l.token = .leftCurly) (hSpelled : Spelled rest)
    (hItem : ∀ us, us <:+ rest → InvalidOnly (Refused (l :: rest)) (item stop us)) :
    InvalidOnly (Refused (l :: rest)) (primary stop (l :: rest)) := by
  have hReads (us : List Lexeme) (hus : us <:+ rest) :
      ReadsOnly DerivesKeyed BuildsEntry (patternEntry stop us) :=
    patternEntry_readsOnly fun vs hvs => item_readsOnly (hSpelled.of_suffix (hvs.trans hus))
  rw [primary.eq_def]
  simp only [hCurly]
  change InvalidOnly _ (list stop .rightCurly rest.length (fun us _ => patternEntry stop us)
    rest (Nat.le_refl _) >>= _)
  refine (list_invalidOnly (Nat.le_refl _) (fun us _ _ _ hus => (hReads us hus).suffix)
    fun us _ hus => patternEntry_invalidOnly fun vs hvs => hItem vs (hvs.trans hus)).bind ?_
  rintro ⟨entries, after⟩ hList
  exact (map_invalidOnly hCurly hSpelled hList).bind fun p _ => .ok _

/-- What stands before an at sign fails for one of these reasons, if the items between its brackets
do. -/
theorem primary_invalidOnly (hSpelled : Spelled ts)
    (hItem : ∀ us, us <:+ ts → us.length < ts.length →
      InvalidOnly (Refused us) (item stop us)) :
    InvalidOnly (Refused ts) (primary stop ts) := by
  cases ts with
  | nil =>
      rw [primary.eq_def]
      exact .unexpectedEnd
  | cons l rest =>
      have hRest (us : List Lexeme) (hus : us <:+ rest) :
          InvalidOnly (Refused (l :: rest)) (item stop us) := by
        have hSuffix := hus.trans (List.suffix_cons l rest)
        exact (hItem us hSuffix (Nat.lt_succ_of_le hus.length_le)).mono fun _ _ h =>
          h.of_suffix hSuffix
      have hSpelledRest : Spelled rest := hSpelled.of_suffix (List.suffix_cons l rest)
      by_cases hBracket : l.token = .leftBracket
      · exact primary_invalidOnly_of_bracket hBracket hSpelledRest hRest
      · by_cases hCurly : l.token = .leftCurly
        · exact primary_invalidOnly_of_curly hCurly hSpelledRest hRest
        · rw [primary_of_plain hBracket hCurly]
          exact plain_invalidOnly hSpelled

/-- Behind a star stands what makes a pattern, so that only its own reading can fail. -/
theorem item_invalidOnly_of_star (hStar : l.token = .star) (hSpelled : Spelled rest)
    (hReads : ReadsOnly DerivesPrimary Makes (primary stop rest))
    (hPrimary : InvalidOnly P (primary stop rest)) : InvalidOnly P (item stop (l :: rest)) := by
  rw [item.eq_def]
  dsimp only
  rw [if_pos hStar]
  refine hPrimary.bind ?_
  rintro ⟨inner, after⟩ hInner
  obtain ⟨used, f, -, -, hMakes⟩ := hReads inner after hInner
  have hEach : inner.toPattern = .ok f.pattern := hMakes
  have hBehind : Spelled after.val := hSpelled.of_suffix (hReads.suffix hInner)
  dsimp only
  rw [hEach]
  refine (naming_invalidOnly hBehind fun name hName => ?_).bind fun read _ => .ok _
  exact ⟨_, tailNamed_of_isVariableName hName _⟩

/-- An item without a star fails where what stands before its name does, as a name that is read is a
valid one. -/
theorem item_invalidOnly_of_plain (hStar : l.token ≠ .star) (hSpelled : Spelled (l :: rest))
    (hReads : ReadsOnly DerivesPrimary Makes (primary stop (l :: rest)))
    (hPrimary : InvalidOnly P (primary stop (l :: rest))) :
    InvalidOnly P (item stop (l :: rest)) := by
  rw [item.eq_def]
  dsimp only
  rw [if_neg hStar]
  refine hPrimary.bind ?_
  rintro ⟨inner, after⟩ hInner
  obtain ⟨used, f, -, -, hMakes⟩ := hReads inner after hInner
  have hBehind : Spelled after.val := hSpelled.of_suffix (hReads.suffix hInner)
  exact naming_invalidOnly hBehind fun name hName => ⟨_, bind_of_gives hMakes hName⟩

/-- An item fails for one of these reasons. -/
theorem item_invalidOnly (hSpelled : Spelled ts) : InvalidOnly (Refused ts) (item stop ts) := by
  induction h : ts.length using Nat.strongRecOn generalizing ts with
  | ind n ih =>
      subst h
      have hPrimary {us : List Lexeme} (hus : us <:+ ts) :
          InvalidOnly (Refused ts) (primary stop us) := by
        have hSpelledPart : Spelled us := hSpelled.of_suffix hus
        refine (primary_invalidOnly hSpelledPart fun vs hvs hShorter => ?_).mono fun _ _ h =>
          h.of_suffix hus
        exact ih _ (Nat.lt_of_lt_of_le hShorter hus.length_le) (hSpelledPart.of_suffix hvs) rfl
      have hReads {us : List Lexeme} (hus : us <:+ ts) :
          ReadsOnly DerivesPrimary Makes (primary stop us) :=
        primary_readsOnly (hSpelled.of_suffix hus) fun vs hvs _ =>
          item_readsOnly (hSpelled.of_suffix (hvs.trans hus))
      cases ts with
      | nil =>
          rw [item.eq_def]
          exact hPrimary (List.suffix_refl _)
      | cons l rest =>
          have hSuffix := List.suffix_cons l rest
          by_cases hStar : l.token = .star
          · exact item_invalidOnly_of_star hStar (hSpelled.of_suffix hSuffix) (hReads hSuffix)
              (hPrimary hSuffix)
          · exact item_invalidOnly_of_plain hStar hSpelled (hReads (List.suffix_refl _))
              (hPrimary (List.suffix_refl _))

/-! ### Whole texts -/

/-- Lexemes are refused for one of these reasons, unless they do not fit the notation. -/
theorem readPattern_invalidOnly (hSpelled : Spelled ts) :
    InvalidOnly (RefusedWhole ts) (readPattern stop ts) := by
  refine ((item_invalidOnly hSpelled).mono fun _ _ => .inside).bind ?_
  rintro ⟨t, left, hShorter⟩ hRead
  cases left with
  | cons m others => exact .unexpectedToken
  | nil =>
      obtain ⟨used, x, hUsed, hItem, hBuilds⟩ := item_readsOnly hSpelled t _ hRead
      obtain rfl : ts = used := by simpa using hUsed
      cases x with
      | plain f => exact .of_gives hBuilds _
      | starred each name =>
          obtain rfl : t = .tail (.ofRest each.pattern name) := hBuilds
          obtain ⟨l, others, rfl⟩ := List.exists_cons_of_length_pos hShorter
          rintro _ _ ⟨⟩
          exact .starred hItem

/-- An array with a star before an item that is not the last is refused at its opening bracket. -/
theorem readPattern_of_tailNotLast {used : List Lexeme} {fs : List PatternTree}
    {each : PatternTree} {name : Option String} {x : ItemTree} {more : List ItemTree}
    (hSpelled : Spelled (l :: used)) (hBracket : l.token = .leftBracket)
    (hClosed : Closed .rightBracket DerivesItem (tokensOf used)
      (fs.map .plain ++ .starred each name :: x :: more)) :
    readPattern stop (l :: used) = .error (.invalid (.pattern (.tailNotLast
      (.ofRest each.pattern name) fs.length (fs.length + (more.length + 2)))) l.span) := by
  have hItem (us : List Lexeme) (hus : us <:+ used) :
      ReadsAll Stops DerivesItem Builds (item stop us) :=
    item_readsAll (hSpelled.of_suffix (hus.trans (List.suffix_cons l used)))
  obtain ⟨items, after, hList, -, hBuilds⟩ :=
    items_readsAll hItem used [] _ (by simp) trivial hClosed
  have hStar : l.token ≠ .star := by rw [hBracket]; exact nofun
  rw [readPattern, item.eq_def]
  dsimp only
  rw [if_neg hStar, primary.eq_def]
  simp only [hBracket, hList, refuses_misplaced hBuilds, bind, Except.bind, located]

/-- A regular expression that is none is refused at its own place. -/
theorem readPattern_of_regularExpression {source : String} (hToken : l.token = .regex source)
    (hInvalid : Regex.compile? source = none) :
    readPattern stop [l] =
      .error (.invalid (.pattern (.regularExpression source)) l.span) := by
  have hStar : l.token ≠ .star := by rw [hToken]; exact nofun
  have hBracket : l.token ≠ .leftBracket := by rw [hToken]; exact nofun
  have hCurly : l.token ≠ .leftCurly := by rw [hToken]; exact nofun
  rw [readPattern, item.eq_def]
  dsimp only
  rw [if_neg hStar, primary_of_plain hBracket hCurly, plain, hToken]
  simp only [Pattern.stringMatching, Pattern.regex, hInvalid, Except.map, located, bind,
    Except.bind]

end steps

end CaseMatch.Surface
