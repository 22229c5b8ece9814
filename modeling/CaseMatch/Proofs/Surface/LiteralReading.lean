import CaseMatch.Proofs.Surface.ListReading
import CaseMatch.Proofs.Surface.Literal

/-!
Texts that are values and patterns. Of the lexemes of a value the reading of a pattern takes those
that are a literal, and all of them; it fails at any others. So a text that is read as a value is
read as a pattern exactly if it is a literal.
-/

namespace CaseMatch.Surface

/-! ### Keys -/

variable {stop : Nat} {ts used behind : List Lexeme}

/-- A value is read off the front of any lexemes. -/
theorem exists_value_append (stop : Nat) (hts : ts = used ++ behind) {v : Value}
    (h : Denotes (tokensOf used) v) :
    ∃ left, value stop ts = .ok (v, left) ∧ left.val = behind := by
  have hSome := (denotes_opens (.inl rfl)).length_pos h
  have hShorter : behind.length < ts.length := by
    rw [hts, List.length_append]
    omega
  exact ⟨⟨behind, hShorter⟩, (value_reads stop ts v _).2 ⟨used, hts, h⟩, rfl⟩

/-- Nothing else is read off lexemes that begin with those of a value. -/
theorem eq_of_value_append (hts : ts = used ++ behind) {v w : Value} {left : Rest ts}
    (h : Denotes (tokensOf used) v) (hRead : value stop ts = .ok (w, left)) :
    w = v ∧ left.val = behind := by
  obtain ⟨rest, hValue, hRest⟩ := exists_value_append stop hts h
  obtain ⟨rfl, rfl⟩ := Prod.mk.inj (Except.ok.inj (hRead.symm.trans hValue))
  exact ⟨rfl, hRest⟩

/-- A token that has no choice is read where it stands. -/
theorem exists_expect_cons (stop : Nat) {l : Lexeme} (hts : ts = l :: behind) :
    ∃ left, expect stop l.token ts = .ok left ∧ left.val = behind := by
  have hShorter : behind.length < ts.length := by simp [hts]
  exact ⟨⟨behind, hShorter⟩, expect_eq_ok_iff.2 ⟨l, hts, rfl⟩, rfl⟩

/-- What is read behind an opening bracket, as a value and a closing bracket, is the one item of an
array, if the lexemes are those of an array. -/
theorem closed_of_value_expect {items : List Value} {v : Value} {behindKey : Rest (used ++ behind)}
    {after : Rest behindKey.val}
    (h : Closed .rightBracket Denotes (tokensOf used) items)
    (hValue : value stop (used ++ behind) = .ok (v, behindKey))
    (hExpect : expect stop .rightBracket behindKey.val = .ok after) :
    items = [v] ∧ after.val = behind ∧
      ∃ inner, tokensOf used = inner ++ [.rightBracket] ∧ Denotes inner v := by
  obtain ⟨m, hBehindKey, hm⟩ := expect_eq_ok_iff.1 hExpect
  rcases closed_iff.1 h with ⟨hTokens, -⟩ | ⟨part, a, hTokens, rfl, hPart⟩ |
    ⟨us, vs, a, rest, hTokens, -, hPart, -⟩
  · -- an empty array has no value behind its bracket
    obtain ⟨close, rfl, hClose⟩ := List.map_eq_singleton_iff.1 hTokens
    obtain ⟨taken, hTaken, hDenotes⟩ := (value_reads stop _ v behindKey).1 hValue
    obtain ⟨first, others, hFirst, hOpens⟩ := denotes_opens (.inl rfl) _ _ hDenotes
    obtain ⟨first', others', rfl, rfl, -⟩ := List.map_eq_cons_iff.1 hFirst
    obtain ⟨rfl, -⟩ := List.cons.inj hTaken
    exact absurd hClose hOpens
  · obtain ⟨partLexemes, last, rfl, rfl, hLast⟩ := List.map_eq_append_iff.1 hTokens
    obtain ⟨close, rfl, hClose⟩ := List.map_eq_singleton_iff.1 hLast
    obtain ⟨rfl, hLeft⟩ := eq_of_value_append (List.append_assoc _ _ _) hPart hValue
    obtain ⟨rfl, hAfter⟩ := List.cons.inj (hBehindKey.symm.trans hLeft)
    exact ⟨rfl, hAfter, _, hTokens, hPart⟩
  · -- behind the first of several items stands a comma
    obtain ⟨partLexemes, last, rfl, rfl, hLast⟩ := List.map_eq_append_iff.1 hTokens
    obtain ⟨comma, others, rfl, hComma, -⟩ := List.map_eq_cons_iff.1 hLast
    obtain ⟨-, hLeft⟩ := eq_of_value_append (List.append_assoc _ _ _) hPart hValue
    obtain ⟨rfl, -⟩ := List.cons.inj (hBehindKey.symm.trans hLeft)
    cases hm.symm.trans hComma

/-- Of the lexemes of a value, those are read as a key of a pattern that are a literal key. -/
theorem mapKey_sound (hts : ts = used ++ behind) {key : Value} {k : MapKey} {left : Rest ts}
    (h : Denotes (tokensOf used) key) (hRead : mapKey stop ts = .ok (k, left)) :
    left.val = behind ∧ LiteralKey (tokensOf used) (key, k) := by
  subst hts
  cases used with
  | nil => cases h
  | cons l used =>
      by_cases hBracket : l.token = .leftBracket
      · obtain ⟨v, behindKey, after, hValue, hExpect, rfl, hLeft⟩ :=
          (mapKey_eq_ok_iff_of_bracket hBracket).1 hRead
        rw [tokensOf, List.map_cons, hBracket] at h ⊢
        obtain ⟨items, rfl, hClosed⟩ := denotes_bracket_iff.1 h
        obtain ⟨rfl, hAfter, inner, hInner, hDenotes⟩ :=
          closed_of_value_expect hClosed hValue hExpect
        refine ⟨hLeft.trans hAfter, ?_⟩
        show LiteralKey (.leftBracket :: tokensOf used) _
        rw [hInner]
        exact .optional hDenotes
      · obtain ⟨v, hValue, rfl⟩ := (mapKey_eq_ok_iff_of_value hBracket).1 hRead
        obtain ⟨rfl, hLeft⟩ := eq_of_value_append rfl h hValue
        exact ⟨hLeft, .required h (by simpa using hBracket)⟩

/-- A literal key is read as a key of a pattern. -/
theorem mapKey_complete (stop : Nat) (hts : ts = used ++ behind) {key : Value} {k : MapKey}
    (h : LiteralKey (tokensOf used) (key, k)) :
    ∃ left, mapKey stop ts = .ok (k, left) ∧ left.val = behind := by
  subst hts
  generalize hTokens : tokensOf used = tokens at h
  cases h with
  | required denotes unbracketed =>
      subst hTokens
      cases used with
      | nil => cases denotes
      | cons l used =>
          have hBracket : l.token ≠ .leftBracket := by simpa using unbracketed
          obtain ⟨left, hValue, hLeft⟩ := exists_value_append stop rfl denotes
          exact ⟨left, (mapKey_eq_ok_iff_of_value hBracket).2 ⟨key, hValue, rfl⟩, hLeft⟩
  | optional denotes =>
      obtain ⟨l, inside, rfl, hBracket, hInside⟩ := List.map_eq_cons_iff.1 hTokens
      obtain ⟨inner, last, rfl, rfl, hLast⟩ := List.map_eq_append_iff.1 hInside
      obtain ⟨close, rfl, hClose⟩ := List.map_eq_singleton_iff.1 hLast
      obtain ⟨behindKey, hValue, hBehindKey⟩ :=
        exists_value_append stop (List.append_assoc inner [close] behind) denotes
      obtain ⟨after, hExpect, hAfter⟩ := exists_expect_cons stop hBehindKey
      rw [hClose] at hExpect
      have hShorter : behind.length < (l :: (inner ++ [close] ++ behind)).length := by
        simp only [List.length_cons, List.length_append]
        omega
      exact ⟨⟨behind, hShorter⟩, (mapKey_eq_ok_iff_of_bracket hBracket).2
        ⟨_, behindKey, after, hValue, hExpect, rfl, hAfter.symm⟩, rfl⟩

/-! ### Lists -/

section list

variable {α β γ : Type} {Item : List Token → α → Prop} {Both : List Token → α × γ → Prop}
  {Gives : β → γ → Prop} {close : Token} {bound : Nat}
  {item : (us : List Lexeme) → us.length ≤ bound → Reading β us}

/-- Of lexemes that begin with those of an item a reading takes these alone, and only where they
stand for something else as well, which its result makes. -/
def Sound (Item : List Token → α → Prop) (Both : List Token → α × γ → Prop) (Gives : β → γ → Prop)
    {ts : List Lexeme} (reading : Reading β ts) : Prop :=
  ∀ used behind a b left, ts = used ++ behind → Stops behind → Item (tokensOf used) a →
    reading = .ok (b, left) → left.val = behind ∧ ∃ c, Gives b c ∧ Both (tokensOf used) (a, c)

/-- A reading takes whatever stands for an item and for something else as well. -/
def Complete (Both : List Token → α × γ → Prop) (Gives : β → γ → Prop) {ts : List Lexeme}
    (reading : Reading β ts) : Prop :=
  ∀ used behind a c, ts = used ++ behind → Stops behind → Both (tokensOf used) (a, c) →
    ∃ b left, reading = .ok (b, left) ∧ left.val = behind ∧ Gives b c

/-- Lexemes of a list up to its closing bracket, and the one of that bracket. -/
theorem exists_closing {inside : List Token} (h : tokensOf used = inside ++ [close]) :
    ∃ inner m, used = inner ++ [m] ∧ inside = tokensOf inner ∧ m.token = close := by
  obtain ⟨inner, last, rfl, rfl, hLast⟩ := List.map_eq_append_iff.1 h
  obtain ⟨m, rfl, hm⟩ := List.map_eq_singleton_iff.1 hLast
  exact ⟨inner, m, rfl, rfl, hm⟩

/-- A list with an item in it does not begin with its closing bracket. -/
theorem exists_head (hOpens : Opens close Item) {a : α} (h : Item (tokensOf used) a)
    (hts : ts = used ++ behind) : ∃ l rest, ts = l :: rest ∧ l.token ≠ close := by
  obtain ⟨first, others, hTokens, hFirst⟩ := hOpens _ a h
  obtain ⟨l, rest, rfl, rfl, -⟩ := List.map_eq_cons_iff.1 hTokens
  exact ⟨l, rest ++ behind, hts, hFirst⟩

theorem ne_comma_of_closes (hClose : close = .rightBracket ∨ close = .rightCurly) :
    close ≠ .comma := by
  rintro rfl
  simp at hClose

/-- The first item of a list is read where it ends at a comma or a bracket, and the list goes on
behind a comma. -/
theorem first_sound (hOpens : Opens close Item)
    (hItem : ∀ us within, Sound Item Both Gives (item us within)) {m : Lexeme}
    (hStops : Stops (m :: behind)) {part : List Lexeme} (hts : ts = part ++ m :: behind)
    {within : ts.length ≤ bound} {a : α} (hPart : Item (tokensOf part) a) {bs : List β}
    {left : Rest ts} (hRead : list stop close bound item ts within = .ok (bs, left)) :
    ∃ b c, Gives b c ∧ Both (tokensOf part) (a, c) ∧
      ((m.token = .comma ∧ ∃ (h : behind.length ≤ bound) (xs : List β) (inner : Rest behind),
          list stop close bound item behind h = .ok (xs, inner) ∧ bs = b :: xs ∧
            left.val = inner.val) ∨
        (m.token ≠ .comma ∧ m.token = close ∧ bs = [b] ∧ left.val = behind)) := by
  obtain ⟨l, rest, rfl, hFirst⟩ := exists_head hOpens hPart hts
  obtain ⟨b, after, m', others, hOne, hAfter, hCase⟩ := (list_eq_ok_iff_of_item hFirst).1 hRead
  obtain ⟨hBehind, c, hGives, hBoth⟩ := hItem _ _ _ _ _ _ _ hts hStops hPart hOne
  obtain ⟨rfl, rfl⟩ := List.cons.inj (hAfter.symm.trans hBehind)
  exact ⟨b, c, hGives, hBoth, hCase⟩

/-- Of the lexemes of a list up to its closing bracket, those are read as a list whose items are
read. -/
theorem list_sound (hOpens : Opens close Item)
    (hClose : close = .rightBracket ∨ close = .rightCurly)
    (hItem : ∀ us within, Sound Item Both Gives (item us within)) {m : Lexeme}
    (hm : m.token = close) {inside : List Lexeme} (hts : ts = inside ++ m :: behind)
    {within : ts.length ≤ bound} {items : List α} (h : Listed Item (tokensOf inside) items)
    {bs : List β} {left : Rest ts} (hRead : list stop close bound item ts within = .ok (bs, left)) :
    left.val = behind ∧ ∃ parts, parts.map Prod.fst = items ∧
      List.Forall₂ Gives bs (parts.map Prod.snd) ∧ Listed Both (tokensOf inside) parts := by
  induction items generalizing ts inside bs with
  | nil =>
      obtain rfl : inside = [] := List.map_eq_nil_iff.1 (Listed.nil_iff.1 h)
      subst hts
      obtain ⟨rfl, hLeft⟩ := (list_eq_ok_iff_of_close hm).1 hRead
      exact ⟨hLeft, [], rfl, .nil, .empty⟩
  | cons a items ih =>
      rcases Listed.cons_iff.1 h with ⟨rfl, hPart⟩ | ⟨us, vs, hTokens, hPart, hRest⟩
      · have hStops : Stops (m :: behind) := stops_cons (.inr (by rwa [hm]))
        obtain ⟨b, c, hGives, hBoth, hCase⟩ := first_sound hOpens hItem hStops hts hPart hRead
        rcases hCase with ⟨hComma, -⟩ | ⟨-, -, rfl, hLeft⟩
        · exact absurd (hm.symm.trans hComma) (ne_comma_of_closes hClose)
        · exact ⟨hLeft, [(a, c)], rfl, .cons hGives .nil, .one hBoth⟩
      · obtain ⟨part, others, rfl, rfl, hOthers⟩ := List.map_eq_append_iff.1 hTokens
        obtain ⟨comma, more, rfl, hComma, rfl⟩ := List.map_eq_cons_iff.1 hOthers
        rw [List.append_assoc] at hts
        have hStops : Stops (comma :: (more ++ m :: behind)) := stops_cons (.inl hComma)
        obtain ⟨b, c, hGives, hBoth, hCase⟩ := first_sound hOpens hItem hStops hts hPart hRead
        rcases hCase with ⟨-, hShorter, xs, inner, hInner, rfl, hLeft⟩ | ⟨hNot, -⟩
        · obtain ⟨hRestLeft, parts, rfl, hAll, hListed⟩ := ih rfl hRest hInner
          refine ⟨hLeft.trans hRestLeft, (a, c) :: parts, rfl, .cons hGives hAll, ?_⟩
          simpa [hComma] using Listed.cons hBoth hListed
        · exact absurd hComma hNot

/-- Whatever is a list of items that are read is read as a list up to its closing bracket. -/
theorem list_complete (stop : Nat) (hOpens : Opens close Item)
    (hClose : close = .rightBracket ∨ close = .rightCurly)
    (hBoth : ∀ us a c, Both us (a, c) → Item us a)
    (hItem : ∀ us within, Complete Both Gives (item us within)) {m : Lexeme}
    (hm : m.token = close) {inside : List Lexeme} (hts : ts = inside ++ m :: behind)
    (within : ts.length ≤ bound) {parts : List (α × γ)}
    (h : Listed Both (tokensOf inside) parts) :
    ∃ bs left, list stop close bound item ts within = .ok (bs, left) ∧ left.val = behind ∧
      List.Forall₂ Gives bs (parts.map Prod.snd) := by
  have hReads : ReadsAll (fun _ => True) (Closed close Both)
      (List.Forall₂ fun b part => Gives b part.2) (list stop close bound item ts within) := by
    refine list_readsAll within (fun us part h => hOpens us part.1 (hBoth us part.1 part.2 h))
      (ne_comma_of_closes hClose) (fun m others hEnd => stops_cons (hEnd.imp_right ?_))
      fun us within _ used behind part => hItem us within used behind part.1 part.2
    exact fun hEnd => hClose.imp hEnd.trans hEnd.trans
  have hClosed : Closed close Both (tokensOf (inside ++ [m])) parts :=
    ⟨tokensOf inside, by rw [tokensOf, List.map_append, List.map_singleton, hm], h⟩
  obtain ⟨bs, left, hRead, hLeft, hAll⟩ :=
    hReads (inside ++ [m]) behind parts (by simpa using hts) trivial hClosed
  exact ⟨bs, left, hRead, hLeft, List.forall₂_map_right_iff.2 hAll⟩

end list

/-! ### Entries -/

open Template (Gives GivesEntry)

/-- Of the lexemes of a key and its value, those are read as an entry of a pattern that are a
literal entry, if the like is known of the items behind the arrow. -/
theorem patternEntry_sound [RegexEngine]
    (hItem : ∀ us : List Lexeme, us.length ≤ ts.length →
      Sound Denotes Literal Gives (item stop us)) :
    Sound DenotesPair LiteralEntry GivesEntry (patternEntry stop ts) := by
  rintro used behind pair ⟨k, t⟩ left hts hStops hPair hRead
  obtain ⟨behindKey, behindArrow, after, hKey, hArrow, hValue, hLeft⟩ :=
    patternEntry_eq_ok_iff.1 hRead
  generalize hTokens : tokensOf used = tokens at hPair
  obtain ⟨left, right⟩ := hPair
  obtain ⟨ofKey, others, rfl, rfl, hOthers⟩ := List.map_eq_append_iff.1 hTokens
  obtain ⟨arrow, ofValue, rfl, hToken, rfl⟩ := List.map_eq_cons_iff.1 hOthers
  rw [List.append_assoc] at hts
  obtain ⟨hBehindKey, hLiteralKey⟩ := mapKey_sound hts left hKey
  obtain ⟨arrow', hBehindArrow, -⟩ := expect_eq_ok_iff.1 hArrow
  obtain ⟨rfl, hArrowLeft⟩ := List.cons.inj (hBehindArrow.symm.trans hBehindKey)
  have hShorter : behindArrow.val.length ≤ ts.length := by
    have := behindArrow.property
    have := behindKey.property
    omega
  obtain ⟨hAfter, p, hGives, hLiteral⟩ :=
    hItem _ hShorter _ _ _ _ _ hArrowLeft hStops right hValue
  exact ⟨hLeft.trans hAfter, (k, p), ⟨rfl, hGives⟩, .intro hLiteralKey hLiteral⟩

/-- A literal entry is read as an entry, if literals are read as items further on. -/
theorem patternEntry_complete [RegexEngine]
    (hItem : ∀ us : List Lexeme, us.length ≤ ts.length →
      Complete Literal Gives (item stop us)) :
    Complete LiteralEntry GivesEntry (patternEntry stop ts) := by
  intro used behind pair e hts hStops hEntry
  generalize hTokens : tokensOf used = tokens at hEntry
  obtain ⟨left, right⟩ := hEntry
  obtain ⟨ofKey, others, rfl, rfl, hOthers⟩ := List.map_eq_append_iff.1 hTokens
  obtain ⟨arrow, ofValue, rfl, hToken, rfl⟩ := List.map_eq_cons_iff.1 hOthers
  rw [List.append_assoc] at hts
  obtain ⟨behindKey, hKey, hBehindKey⟩ := mapKey_complete stop hts left
  obtain ⟨behindArrow, hArrow, hBehindArrow⟩ := exists_expect_cons stop hBehindKey
  rw [hToken] at hArrow
  have hShorter : behindArrow.val.length ≤ ts.length := by
    have := behindArrow.property
    have := behindKey.property
    omega
  obtain ⟨t, after, hValue, hAfter, hGives⟩ :=
    hItem _ hShorter _ _ _ _ hBehindArrow hStops right
  have hLength : behind.length < ts.length := by
    rw [hts]
    simp only [List.length_append, List.length_cons]
    omega
  exact ⟨(_, t), ⟨behind, hLength⟩, patternEntry_eq_ok_iff.2
    ⟨behindKey, behindArrow, after, hKey, hArrow, hValue, hAfter.symm⟩, rfl, rfl, hGives⟩

/-! ### Items -/

section items

variable {l : Lexeme} {rest : List Lexeme}

/-- A value begins with a lexeme. -/
theorem exists_of_denotes_append (hts : l :: rest = used ++ behind) {v : Value}
    (h : Denotes (tokensOf used) v) : ∃ others, used = l :: others ∧ rest = others ++ behind := by
  cases used with
  | nil => cases h
  | cons first others =>
      obtain ⟨rfl, hRest⟩ := List.cons.inj hts
      exact ⟨others, rfl, hRest⟩

/-- No value begins with a star. -/
theorem ne_star_of_denotes_append (hts : l :: rest = used ++ behind) {v : Value}
    (h : Denotes (tokensOf used) v) : l.token ≠ .star := by
  obtain ⟨others, rfl, -⟩ := exists_of_denotes_append hts h
  rw [tokensOf, List.map_cons] at h
  intro hStar
  rw [hStar] at h
  cases h

variable [RegexEngine]

/-- Of the lexemes of an array, those are read that are a literal array, if the like is known of its
items. -/
theorem primary_sound_of_bracket (hBracket : l.token = .leftBracket)
    (hItem : ∀ us : List Lexeme, us.length ≤ rest.length →
      Sound Denotes Literal Gives (item stop us)) :
    Sound Denotes Literal Gives (primary stop (l :: rest)) := by
  intro used behind v t left hts hStops hDenotes hRead
  obtain ⟨used, rfl, hRest⟩ := exists_of_denotes_append hts hDenotes
  rw [tokensOf, List.map_cons, hBracket] at hDenotes ⊢
  obtain ⟨items, after, p, hList, hGives, rfl, hLeft⟩ :=
    (primary_eq_ok_iff_of_bracket hBracket).1 hRead
  obtain ⟨vs, rfl, inside, hInside, hListed⟩ := denotes_bracket_iff.1 hDenotes
  obtain ⟨inner, m, rfl, rfl, hm⟩ := exists_closing hInside
  rw [List.append_assoc, List.singleton_append] at hRest
  obtain ⟨hAfter, parts, rfl, hAll, hBoth⟩ :=
    list_sound (denotes_opens (.inl rfl)) (.inl rfl) hItem hm hRest hListed hList
  obtain rfl := Except.ok.inj (hGives.symm.trans (Template.gives_array hAll))
  refine ⟨hLeft.trans hAfter, _, rfl, ?_⟩
  rw [hInside]
  exact .array hBoth

/-- Of the lexemes of a map, those are read that are a literal map, if the like is known of its
values. -/
theorem primary_sound_of_curly (hCurly : l.token = .leftCurly)
    (hItem : ∀ us : List Lexeme, us.length ≤ rest.length →
      Sound Denotes Literal Gives (item stop us)) :
    Sound Denotes Literal Gives (primary stop (l :: rest)) := by
  intro used behind v t left hts hStops hDenotes hRead
  obtain ⟨used, rfl, hRest⟩ := exists_of_denotes_append hts hDenotes
  rw [tokensOf, List.map_cons, hCurly] at hDenotes ⊢
  obtain ⟨entries, after, p, hList, hGives, rfl, hLeft⟩ :=
    (primary_eq_ok_iff_of_curly hCurly).1 hRead
  obtain ⟨pairs, rfl, inside, hInside, hListed⟩ := denotes_curly_iff.1 hDenotes
  obtain ⟨inner, m, rfl, rfl, hm⟩ := exists_closing hInside
  rw [List.append_assoc, List.singleton_append] at hRest
  have hEntry (us : List Lexeme) (h : us.length ≤ rest.length) :
      Sound DenotesPair LiteralEntry GivesEntry (patternEntry stop us) :=
    patternEntry_sound fun vs hShorter => hItem vs (Nat.le_trans hShorter h)
  obtain ⟨hAfter, parts, rfl, hAll, hBoth⟩ :=
    list_sound (denotesPair_opens (.inr rfl)) (.inr rfl) hEntry hm hRest hListed hList
  obtain rfl := Except.ok.inj (hGives.symm.trans (Template.gives_map hAll))
  refine ⟨hLeft.trans hAfter, _, rfl, ?_⟩
  rw [hInside]
  exact .map hBoth

/-- Of the lexemes of a value that does not begin with a bracket, there is just one, and it is read
as a literal. -/
theorem primary_sound_of_plain (hBracket : l.token ≠ .leftBracket)
    (hCurly : l.token ≠ .leftCurly) :
    Sound Denotes Literal Gives (primary stop (l :: rest)) := by
  intro used behind v t left hts hStops hDenotes hRead
  obtain ⟨used, rfl, hRest⟩ := exists_of_denotes_append hts hDenotes
  rw [tokensOf, List.map_cons] at hDenotes ⊢
  obtain ⟨hNone, hScalar⟩ := (denotes_scalar_iff hBracket hCurly).1 hDenotes
  obtain rfl := List.map_eq_nil_iff.1 hNone
  obtain rfl : rest = behind := hRest
  rw [primary_of_plain hBracket hCurly, plain_of_scalar hScalar fun _ _ => hStops.noRange] at hRead
  cases hRead
  exact ⟨rfl, _, rfl, .scalar hScalar⟩

/-- What stands before an at sign, if the like is known of the items between its brackets. -/
theorem primary_sound
    (hItem : ∀ us : List Lexeme, us.length ≤ rest.length →
      Sound Denotes Literal Gives (item stop us)) :
    Sound Denotes Literal Gives (primary stop (l :: rest)) := by
  by_cases hBracket : l.token = .leftBracket
  · exact primary_sound_of_bracket hBracket hItem
  · by_cases hCurly : l.token = .leftCurly
    · exact primary_sound_of_curly hCurly hItem
    · exact primary_sound_of_plain hBracket hCurly

end items

variable [RegexEngine]

/-- Of the lexemes of a value, those are read as an item that are a literal. -/
theorem item_sound (stop : Nat) (ts : List Lexeme) :
    Sound Denotes Literal Gives (item stop ts) := by
  induction h : ts.length using Nat.strongRecOn generalizing ts with
  | ind n ih =>
      subst h
      intro used behind v t left hts hStops hDenotes hRead
      cases ts with
      | nil => exact absurd left.property (Nat.not_lt_zero _)
      | cons l rest =>
          have hPrimary : Sound Denotes Literal Gives (primary stop (l :: rest)) :=
            primary_sound fun us hShorter =>
              ih _ (Nat.lt_of_le_of_lt hShorter (by simp)) us rfl
          have hStar : l.token ≠ .star := ne_star_of_denotes_append hts hDenotes
          obtain ⟨inner, after, hInner, hNaming⟩ := (item_eq_ok_iff hStar).1 hRead
          obtain ⟨hAfter, p, hGives, hLiteral⟩ :=
            hPrimary _ _ _ _ _ hts hStops hDenotes hInner
          rw [naming_of_stops (hAfter ▸ hStops)] at hNaming
          cases hNaming
          exact ⟨hAfter, p, hGives, hLiteral⟩

/-- The items of a literal and a closing bracket are read as an array behind the opening one. -/
theorem exists_primary_array {l m : Lexeme} {rest inner : List Lexeme}
    {parts : List (Value × Pattern)} (hBracket : l.token = .leftBracket)
    (hm : m.token = .rightBracket) (hRest : rest = inner ++ m :: behind)
    (hItem : ∀ us : List Lexeme, us.length ≤ rest.length →
      Complete Literal Gives (item stop us))
    (h : Listed Literal (tokensOf inner) parts) :
    ∃ t left, primary stop (l :: rest) = .ok (t, left) ∧ left.val = behind ∧
      Gives t (.ofFixed (parts.map Prod.snd)) := by
  obtain ⟨items, after, hList, hAfter, hAll⟩ := list_complete stop (denotes_opens (.inl rfl))
    (.inl rfl) (fun us v p => Literal.denotes) hItem hm hRest (Nat.le_refl _) h
  have hShorter : behind.length < (l :: rest).length := by
    rw [hRest]
    simp only [List.length_cons, List.length_append]
    omega
  exact ⟨_, ⟨behind, hShorter⟩, (primary_eq_ok_iff_of_bracket hBracket).2
    ⟨items, after, _, hList, Template.gives_array hAll, rfl, hAfter.symm⟩, rfl, rfl⟩

/-- The entries of a literal and a closing bracket are read as a map behind the opening one. -/
theorem exists_primary_map {l m : Lexeme} {rest inner : List Lexeme}
    {parts : List ((Value × Value) × (MapKey × Pattern))} (hCurly : l.token = .leftCurly)
    (hm : m.token = .rightCurly) (hRest : rest = inner ++ m :: behind)
    (hItem : ∀ us : List Lexeme, us.length ≤ rest.length →
      Complete Literal Gives (item stop us))
    (h : Listed LiteralEntry (tokensOf inner) parts) :
    ∃ t left, primary stop (l :: rest) = .ok (t, left) ∧ left.val = behind ∧
      Gives t (.ofEntries (parts.map Prod.snd)) := by
  have hEntry (us : List Lexeme) (h : us.length ≤ rest.length) :
      Complete LiteralEntry GivesEntry (patternEntry stop us) :=
    patternEntry_complete fun vs hShorter => hItem vs (Nat.le_trans hShorter h)
  obtain ⟨entries, after, hList, hAfter, hAll⟩ := list_complete stop (denotesPair_opens (.inr rfl))
    (.inr rfl) (fun us e f => LiteralEntry.denotes) hEntry hm hRest (Nat.le_refl _) h
  have hShorter : behind.length < (l :: rest).length := by
    rw [hRest]
    simp only [List.length_cons, List.length_append]
    omega
  exact ⟨_, ⟨behind, hShorter⟩, (primary_eq_ok_iff_of_curly hCurly).2
    ⟨entries, after, _, hList, Template.gives_map hAll, rfl, hAfter.symm⟩, rfl, rfl⟩

/-- Whatever is a literal is read as an item. -/
theorem primary_complete {l : Lexeme} {rest : List Lexeme}
    (hItem : ∀ us : List Lexeme, us.length ≤ rest.length →
      Complete Literal Gives (item stop us)) :
    Complete Literal Gives (primary stop (l :: rest)) := by
  intro used behind v p hts hStops hLiteral
  obtain ⟨used, rfl, hRest⟩ := exists_of_denotes_append hts hLiteral.denotes
  generalize hTokens : tokensOf (l :: used) = tokens at hLiteral
  rw [tokensOf, List.map_cons] at hTokens
  cases hLiteral with
  | scalar denotes =>
      obtain ⟨rfl, hNone⟩ := List.cons.inj hTokens
      obtain rfl := List.map_eq_nil_iff.1 hNone
      obtain rfl : rest = behind := hRest
      have hBracket : l.token ≠ .leftBracket := fun h => by simp [h, Token.scalar?] at denotes
      have hCurly : l.token ≠ .leftCurly := fun h => by simp [h, Token.scalar?] at denotes
      rw [primary_of_plain hBracket hCurly, plain_of_scalar denotes fun _ _ => hStops.noRange]
      exact ⟨_, _, rfl, rfl, rfl⟩
  | array listed =>
      obtain ⟨hBracket, hInside⟩ := List.cons.inj hTokens
      obtain ⟨inner, m, rfl, rfl, hm⟩ := exists_closing hInside
      rw [List.append_assoc, List.singleton_append] at hRest
      exact exists_primary_array hBracket hm hRest hItem listed
  | map listed =>
      obtain ⟨hCurly, hInside⟩ := List.cons.inj hTokens
      obtain ⟨inner, m, rfl, rfl, hm⟩ := exists_closing hInside
      rw [List.append_assoc, List.singleton_append] at hRest
      exact exists_primary_map hCurly hm hRest hItem listed

/-- Whatever is a literal is read as an item wherever it stands, by induction on how many lexemes
there are. -/
theorem item_complete (stop : Nat) (ts : List Lexeme) :
    Complete Literal Gives (item stop ts) := by
  induction h : ts.length using Nat.strongRecOn generalizing ts with
  | ind n ih =>
      subst h
      intro used behind v p hts hStops hLiteral
      obtain ⟨l, rest, rfl, -⟩ := exists_head (denotes_opens (.inl rfl)) hLiteral.denotes hts
      have hPrimary : Complete Literal Gives (primary stop (l :: rest)) :=
        primary_complete fun us hShorter =>
          ih _ (Nat.lt_of_le_of_lt hShorter (by simp)) us rfl
      have hStar : l.token ≠ .star := ne_star_of_denotes_append hts hLiteral.denotes
      obtain ⟨t, left, hRead, hLeft, hGives⟩ := hPrimary _ _ _ _ hts hStops hLiteral
      refine ⟨t, left, (item_eq_ok_iff hStar).2 ⟨t, left, hRead, ?_⟩, hLeft, hGives⟩
      exact naming_of_stops (hLeft ▸ hStops)

/-! ### Whole texts -/

/-- Lexemes are read as a value and as a pattern exactly if they are a literal of both. -/
theorem literal_iff_read {stop : Nat} {ls : List Lexeme} {v : Value} {p : Pattern} :
    Literal (tokensOf ls) (v, p) ↔ readValue stop ls = .ok v ∧ readPattern stop ls = .ok p := by
  rw [readValue_eq_ok_iff, readPattern_eq_ok_iff]
  constructor
  · intro hLiteral
    obtain ⟨t, ⟨left, shorter⟩, hRead, rfl, hGives⟩ :=
      item_complete stop ls ls [] v p (by simp) stops_nil hLiteral
    exact ⟨hLiteral.denotes, t, shorter, hRead, hGives⟩
  · rintro ⟨hDenotes, t, shorter, hRead, hPattern⟩
    obtain ⟨-, q, hGives, hLiteral⟩ :=
      item_sound stop ls ls [] v t _ (by simp) stops_nil hDenotes hRead
    obtain rfl := Except.ok.inj (hPattern.symm.trans hGives)
    exact hLiteral

end CaseMatch.Surface
