import CaseMatch.Proofs.Surface.Grammar

/-!
Reading a value agrees with the grammar. What is read from the front of some lexemes is what the
lexemes up to those that are left denote, and whatever the lexemes at the front denote is read.
-/

namespace CaseMatch.Surface

variable {α : Type}

/-- The tokens of lexemes. -/
abbrev tokensOf (ts : List Lexeme) : List Token := ts.map (·.token)

/-- A reading takes lexemes from the front exactly if their tokens stand for what it gives. -/
def Reads (Item : List Token → α → Prop) {ts : List Lexeme} (reading : Reading α ts) : Prop :=
  ∀ a (rest : Rest ts), reading = .ok (a, rest) ↔
    ∃ used, ts = used ++ rest.val ∧ Item (tokensOf used) a

/-- Tokens of a list with the bracket that closes it. -/
def Closed (close : Token) (Item : List Token → α → Prop) (tokens : List Token)
    (items : List α) : Prop :=
  ∃ inside, tokens = inside ++ [close] ∧ Listed Item inside items

/-- Items are not empty and do not begin with the bracket that closes their list. -/
def Opens (close : Token) (Item : List Token → α → Prop) : Prop :=
  ∀ tokens a, Item tokens a → ∃ first rest, tokens = first :: rest ∧ first ≠ close

theorem bind_eq_ok_iff {ε β : Type} {x : Except ε α} {f : α → Except ε β} {b : β} :
    x >>= f = .ok b ↔ ∃ a, x = .ok a ∧ f a = .ok b := by
  cases x <;> simp [bind, Except.bind]

theorem bind_eq_error_iff {ε β : Type} {x : Except ε α} {f : α → Except ε β} {e : ε} :
    x >>= f = .error e ↔ x = .error e ∨ ∃ a, x = .ok a ∧ f a = .error e := by
  cases x <;> simp [bind, Except.bind]

section list

variable {Item : List Token → α → Prop} {close : Token}

/-- What is left of a list begins with its closing bracket, or with an item and the closing bracket,
or with an item and a comma. -/
theorem closed_iff {tokens : List Token} {items : List α} :
    Closed close Item tokens items ↔ (tokens = [close] ∧ items = []) ∨
      (∃ part a, tokens = part ++ [close] ∧ items = [a] ∧ Item part a) ∨
      ∃ us vs a rest, tokens = us ++ .comma :: vs ∧ items = a :: rest ∧ Item us a ∧
        Closed close Item vs rest := by
  constructor
  · rintro ⟨inside, rfl, hListed⟩
    rcases Listed.iff_cons.1 hListed with
      ⟨rfl, rfl⟩ | ⟨a, rfl, h⟩ | ⟨us, vs, a, rest, rfl, rfl, h, hRest⟩
    · exact .inl ⟨rfl, rfl⟩
    · exact .inr (.inl ⟨inside, a, rfl, rfl, h⟩)
    · exact .inr (.inr ⟨us, vs ++ [close], a, rest, by simp, rfl, h, vs, rfl, hRest⟩)
  · rintro (⟨rfl, rfl⟩ | ⟨part, a, rfl, rfl, h⟩ |
      ⟨us, vs, a, rest, rfl, rfl, h, inside, rfl, hRest⟩)
    · exact ⟨[], rfl, .empty⟩
    · exact ⟨part, rfl, .one h⟩
    · exact ⟨us ++ .comma :: inside, by simp, .cons h hRest⟩

/-- A list that begins with its closing bracket is empty. -/
theorem closed_close_iff (hOpens : Opens close Item) {tokens : List Token} {items : List α} :
    Closed close Item (close :: tokens) items ↔ tokens = [] ∧ items = [] := by
  have hItem {part behind : List Token} {a : α} (h : Item part a)
      (hTokens : close :: tokens = part ++ behind) : False := by
    obtain ⟨first, rest, rfl, hFirst⟩ := hOpens part a h
    exact hFirst (List.cons.inj hTokens).1.symm
  rw [closed_iff]
  constructor
  · rintro (⟨hTokens, rfl⟩ | ⟨part, a, hTokens, -, h⟩ | ⟨us, vs, a, rest, hTokens, -, h, -⟩)
    · exact ⟨(List.cons.inj hTokens).2, rfl⟩
    · exact (hItem h hTokens).elim
    · exact (hItem h hTokens).elim
  · rintro ⟨rfl, rfl⟩
    exact .inl ⟨rfl, rfl⟩

theorem not_closed_nil {items : List α} : ¬Closed close Item [] items := by
  rintro ⟨inside, hNil, -⟩
  simp at hNil

theorem Closed.length_pos {used : List Lexeme} {items : List α}
    (h : Closed close Item (tokensOf used) items) : 0 < used.length := by
  rw [List.length_pos_iff]
  rintro rfl
  exact not_closed_nil h

theorem Opens.length_pos (hOpens : Opens close Item) {part : List Lexeme} {a : α}
    (h : Item (tokensOf part) a) : 0 < part.length := by
  rw [List.length_pos_iff]
  rintro rfl
  obtain ⟨first, rest, hNil, -⟩ := hOpens _ a h
  cases hNil

/-- Lexemes that begin with the closing bracket of a list. -/
theorem exists_closed_iff_of_close (hOpens : Opens close Item) {l : Lexeme}
    {rest left : List Lexeme} (hClose : l.token = close) {items : List α} :
    (∃ used, l :: rest = used ++ left ∧ Closed close Item (tokensOf used) items) ↔
      items = [] ∧ left = rest := by
  constructor
  · rintro ⟨used, hUsed, hClosed⟩
    cases used with
    | nil => exact (not_closed_nil hClosed).elim
    | cons l' used =>
        obtain ⟨rfl, hRest⟩ := List.cons.inj hUsed
        rw [tokensOf, List.map_cons, hClose, closed_close_iff hOpens,
          List.map_eq_nil_iff] at hClosed
        obtain ⟨rfl, hItems⟩ := hClosed
        exact ⟨hItems, hRest.symm⟩
  · rintro ⟨rfl, rfl⟩
    refine ⟨[l], rfl, ?_⟩
    rw [tokensOf, List.map_cons, hClose]
    exact (closed_close_iff hOpens).2 ⟨rfl, rfl⟩

/-- Lexemes of a list that does not end at once: those of an item, and behind them a comma and more
of the list, or the closing bracket. -/
theorem exists_closed_iff_of_item {l : Lexeme} {rest left : List Lexeme}
    (hClose : l.token ≠ close) {items : List α} :
    (∃ used, l :: rest = used ++ left ∧ Closed close Item (tokensOf used) items) ↔
      ∃ part a m others, l :: rest = part ++ m :: others ∧ Item (tokensOf part) a ∧
        ((m.token = .comma ∧ ∃ xs, items = a :: xs ∧
            ∃ used, others = used ++ left ∧ Closed close Item (tokensOf used) xs) ∨
          (m.token = close ∧ items = [a] ∧ left = others)) := by
  constructor
  · rintro ⟨used, hUsed, hClosed⟩
    rcases closed_iff.1 hClosed with ⟨hTokens, -⟩ | ⟨part, a, hTokens, rfl, hItem⟩ |
      ⟨us, vs, a, xs, hTokens, rfl, hItem, hRest⟩
    · obtain ⟨l', rfl, hToken⟩ := List.map_eq_singleton_iff.1 hTokens
      obtain ⟨rfl, -⟩ := List.cons.inj hUsed
      exact absurd hToken hClose
    · obtain ⟨part, last, rfl, rfl, hLast⟩ := List.map_eq_append_iff.1 hTokens
      obtain ⟨m, rfl, hm⟩ := List.map_eq_singleton_iff.1 hLast
      exact ⟨part, a, m, left, by rw [hUsed]; simp, hItem, .inr ⟨hm, rfl, rfl⟩⟩
    · obtain ⟨us, behind, rfl, rfl, hBehind⟩ := List.map_eq_append_iff.1 hTokens
      obtain ⟨m, vs, rfl, hm, rfl⟩ := List.map_eq_cons_iff.1 hBehind
      exact ⟨us, a, m, vs ++ left, by rw [hUsed]; simp, hItem,
        .inl ⟨hm, xs, rfl, vs, rfl, hRest⟩⟩
  · rintro ⟨part, a, m, others, hParts, hItem, ⟨hm, xs, rfl, used, rfl, hClosed⟩ | ⟨hm, rfl, rfl⟩⟩
    · exact ⟨part ++ m :: used, by rw [hParts]; simp, closed_iff.2 (.inr (.inr
        ⟨tokensOf part, tokensOf used, a, xs, by simp [hm], rfl, hItem, hClosed⟩))⟩
    · exact ⟨part ++ [m], by rw [hParts]; simp,
        closed_iff.2 (.inr (.inl ⟨tokensOf part, a, by simp [hm], rfl, hItem⟩))⟩

variable {stop bound : Nat} {item : (us : List Lexeme) → us.length ≤ bound → Reading α us}

/-- A list that begins with its closing bracket is read as an empty one. -/
theorem list_eq_ok_iff_of_close {l : Lexeme} {rest : List Lexeme}
    {within : (l :: rest).length ≤ bound} (hClose : l.token = close) {items : List α}
    {left : Rest (l :: rest)} :
    list stop close bound item (l :: rest) within = .ok (items, left) ↔
      items = [] ∧ left.val = rest := by
  obtain ⟨left, hLeft⟩ := left
  rw [list.eq_def]
  simp [hClose, Rest.tail, eq_comm]

theorem exists_read_iff {ts : List Lexeme} {a : α} {m : Lexeme} {others : List Lexeme}
    {shorter : (m :: others).length < ts.length} {P : α → Lexeme → List Lexeme → Prop} :
    (∃ a' after m' others', (.ok (a, ⟨m :: others, shorter⟩) : Reading α ts) = .ok (a', after) ∧
      after.val = m' :: others' ∧ P a' m' others') ↔ P a m others := by
  constructor
  · rintro ⟨a', after, m', others', hSame, hAfter, h⟩
    obtain ⟨rfl, rfl⟩ := Prod.mk.inj (Except.ok.inj hSame)
    obtain ⟨rfl, rfl⟩ := List.cons.inj hAfter
    exact h
  · exact fun h => ⟨a, _, m, others, rfl, rfl, h⟩

/-- A list that does not end at once begins with an item. Behind the item stands a comma, and the
list goes on, or the closing bracket. -/
theorem list_eq_ok_iff_of_item {l : Lexeme} {rest : List Lexeme}
    {within : (l :: rest).length ≤ bound} (hClose : l.token ≠ close) {items : List α}
    {left : Rest (l :: rest)} :
    list stop close bound item (l :: rest) within = .ok (items, left) ↔
      ∃ a after m others, item (l :: rest) within = .ok (a, after) ∧ after.val = m :: others ∧
        ((m.token = .comma ∧ ∃ (h : others.length ≤ bound) (xs : List α) (inner : Rest others),
            list stop close bound item others h = .ok (xs, inner) ∧ items = a :: xs ∧
              left.val = inner.val) ∨
          (m.token ≠ .comma ∧ m.token = close ∧ items = [a] ∧ left.val = others)) := by
  obtain ⟨left, hLeft⟩ := left
  rw [list.eq_def]
  dsimp only
  rw [if_neg hClose]
  cases hFirst : item (l :: rest) within with
  | error e => simp [bind, Except.bind]
  | ok read =>
      obtain ⟨a, after, shorter⟩ := read
      cases after with
      | nil => simp [bind, Except.bind]
      | cons m others =>
          have hOthers : others.length ≤ bound := by
            simp only [List.length_cons] at shorter within
            omega
          rw [exists_read_iff]
          by_cases hComma : m.token = .comma
          · cases hRest : list stop close bound item others hOthers with
            | error e => simp [bind, Except.bind, hComma, hRest]
            | ok read =>
                obtain ⟨xs, inner, hInner⟩ := read
                simp [bind, Except.bind, hComma, hRest, hOthers, hInner, Rest.weaken, eq_comm]
          · by_cases hEnd : m.token = close
            · subst hEnd
              simp [bind, Except.bind, hComma, eq_comm]
            · simp [bind, Except.bind, hComma, hEnd]

/-- One item of a list and what stands behind it: reading agrees with the grammar here if it does
for the item and for the list that goes on behind a comma. -/
theorem list_reads_of_item (hOpens : Opens close Item) (hComma : close ≠ .comma)
    (hItem : ∀ us within, Reads Item (item us within)) {l : Lexeme} {rest : List Lexeme}
    (within : (l :: rest).length ≤ bound) (hClose : l.token ≠ close)
    (hOn : ∀ others h, others.length < (l :: rest).length →
      Reads (Closed close Item) (list stop close bound item others h)) :
    Reads (Closed close Item) (list stop close bound item (l :: rest) within) := by
  intro items left
  rw [list_eq_ok_iff_of_item hClose, exists_closed_iff_of_item hClose]
  constructor
  · rintro ⟨a, after, m, others, hRead, hAfter, hCase⟩
    obtain ⟨part, hPart, hDenotes⟩ := (hItem _ _ a after).1 hRead
    rw [hAfter] at hPart
    refine ⟨part, a, m, others, hPart, hDenotes, ?_⟩
    rcases hCase with ⟨hm, hOthers, xs, inner, hInner, rfl, hLeft⟩ | ⟨-, hm, rfl, hLeft⟩
    · have hShorter : others.length < (l :: rest).length := by
        rw [hPart, List.length_append, List.length_cons]
        omega
      rw [hLeft]
      exact .inl ⟨hm, xs, rfl, (hOn others hOthers hShorter xs inner).1 hInner⟩
    · exact .inr ⟨hm, rfl, hLeft⟩
  · rintro ⟨part, a, m, others, hParts, hDenotes, hCase⟩
    have hLength : (l :: rest).length = part.length + (others.length + 1) := by
      rw [hParts, List.length_append, List.length_cons]
    have hSome := hOpens.length_pos hDenotes
    refine ⟨a, ⟨m :: others, by rw [List.length_cons, hLength]; omega⟩, m, others,
      (hItem _ _ _ _).2 ⟨part, hParts, hDenotes⟩, rfl, ?_⟩
    rcases hCase with ⟨hm, xs, rfl, used, hUsed, hClosed⟩ | ⟨hm, rfl, hLeft⟩
    · have hInner : left.val.length < others.length := by
        have hUsedSome := hClosed.length_pos
        rw [hUsed, List.length_append]
        omega
      exact .inl ⟨hm, by omega, xs, ⟨left.val, hInner⟩,
        (hOn others _ (by omega) xs _).2 ⟨used, hUsed, hClosed⟩, rfl, rfl⟩
    · exact .inr ⟨hm ▸ hComma, hm, rfl, hLeft⟩

/-- Reading a list agrees with the grammar of lists if reading an item agrees with that of items. -/
theorem list_reads (hOpens : Opens close Item) (hComma : close ≠ .comma)
    (hItem : ∀ us within, Reads Item (item us within)) {ts : List Lexeme}
    (within : ts.length ≤ bound) :
    Reads (Closed close Item) (list stop close bound item ts within) := by
  induction h : ts.length using Nat.strongRecOn generalizing ts with
  | ind n ih =>
      subst h
      cases ts with
      | nil => exact fun _ left => absurd left.property (Nat.not_lt_zero _)
      | cons l rest =>
          by_cases hClose : l.token = close
          · intro items left
            rw [list_eq_ok_iff_of_close hClose, exists_closed_iff_of_close hOpens hClose]
          · exact list_reads_of_item hOpens hComma hItem within hClose
              fun others hOthers hShorter => ih _ hShorter hOthers rfl

end list

/-! ### What tokens at the front tell of a value -/

/-- An opening bracket begins the items of an array. -/
theorem denotes_bracket_iff {tokens : List Token} {v : Value} :
    Denotes (.leftBracket :: tokens) v ↔
      ∃ items, v = .array items ∧ Closed .rightBracket Denotes tokens items := by
  constructor
  · intro h
    cases h with
    | @array inside items listed => exact ⟨items, rfl, inside, rfl, listed⟩
  · rintro ⟨items, rfl, inside, rfl, listed⟩
    exact .array listed

/-- An opening brace begins the pairs of a map, which are inserted one after another. -/
theorem denotes_curly_iff {tokens : List Token} {v : Value} :
    Denotes (.leftCurly :: tokens) v ↔
      ∃ pairs, v = .map (Dict.ofList pairs) ∧ Closed .rightCurly DenotesPair tokens pairs := by
  constructor
  · intro h
    cases h with
    | @map inside pairs entries listed collected =>
        exact ⟨pairs, by rw [collects_iff.1 collected], inside, rfl, listed⟩
  · rintro ⟨pairs, rfl, inside, rfl, listed⟩
    exact .map listed (collects_iff.2 rfl)

/-- Any other token is a value by itself or none. -/
theorem denotes_scalar_iff {t : Token} (hBracket : t ≠ .leftBracket) (hCurly : t ≠ .leftCurly)
    {tokens : List Token} {v : Value} :
    Denotes (t :: tokens) v ↔ tokens = [] ∧ t.scalar? = some v := by
  constructor
  · intro h
    cases h with
    | array => exact absurd rfl hBracket
    | map => exact absurd rfl hCurly
    | _ => exact ⟨rfl, rfl⟩
  · rintro ⟨rfl, h⟩
    cases t <;> simp only [Token.scalar?, Option.some.injEq, reduceCtorEq] at h <;> subst h <;>
      constructor

theorem denotes_opens {close : Token} (hClose : close = .rightBracket ∨ close = .rightCurly) :
    Opens close Denotes := by
  intro tokens v h
  cases h <;> exact ⟨_, _, rfl, by rcases hClose with rfl | rfl <;> exact nofun⟩

theorem denotesPair_opens {close : Token} (hClose : close = .rightBracket ∨ close = .rightCurly) :
    Opens close DenotesPair := by
  rintro _ _ ⟨left, -⟩
  obtain ⟨first, rest, rfl, hFirst⟩ := denotes_opens hClose _ _ left
  exact ⟨first, _, rfl, hFirst⟩

/-! ### Reading a value -/

/-- A token that is expected is read exactly if it stands at the front. -/
theorem expect_eq_ok_iff {stop : Nat} {t : Token} {ts : List Lexeme} {rest : Rest ts} :
    expect stop t ts = .ok rest ↔ ∃ l, ts = l :: rest.val ∧ l.token = t := by
  obtain ⟨rest, hRest⟩ := rest
  cases ts with
  | nil => simp [expect, advance, bind, Except.bind]
  | cons l others =>
      by_cases hToken : l.token = t
      · simp [expect, advance, bind, Except.bind, hToken, Rest.tail]
      · simp [expect, advance, bind, Except.bind, hToken]

/-- Reads a key with its value. -/
def entry (stop : Nat) (ts : List Lexeme) : Reading (Value × Value) ts :=
  value stop ts >>= fun ofKey =>
    expect stop .fatArrow ofKey.2.val >>= fun behindArrow =>
      value stop behindArrow.val >>= fun ofValue =>
        .ok ((ofKey.1, ofValue.1), ofValue.2.weaken (by
          have := behindArrow.property; have := ofKey.2.property; omega))

section steps

variable {stop : Nat} {l : Lexeme} {rest : List Lexeme} {v : Value} {left : Rest (l :: rest)}

/-- Behind an opening bracket a list of values is read. -/
theorem value_eq_ok_iff_of_bracket (h : l.token = .leftBracket) :
    value stop (l :: rest) = .ok (v, left) ↔ ∃ items after,
      list stop .rightBracket rest.length (fun us _ => value stop us) rest (Nat.le_refl _) =
        .ok (items, after) ∧ v = .array items ∧ left.val = after.val := by
  obtain ⟨left, hLeft⟩ := left
  rw [value.eq_def]
  simp only [h]
  cases hList : list stop .rightBracket rest.length (fun us _ => value stop us) rest
      (Nat.le_refl _) with
  | error e => simp [bind, Except.bind]
  | ok read =>
      obtain ⟨items, after, hAfter⟩ := read
      simp [bind, Except.bind, Rest.weaken, eq_comm, and_comm]

theorem value_eq_ok_iff_of_curly (h : l.token = .leftCurly) :
    value stop (l :: rest) = .ok (v, left) ↔ ∃ pairs after,
      list stop .rightCurly rest.length (fun us _ => entry stop us) rest (Nat.le_refl _) =
        .ok (pairs, after) ∧ v = .map (Dict.ofList pairs) ∧ left.val = after.val := by
  obtain ⟨left, hLeft⟩ := left
  rw [value.eq_def]
  simp only [h]
  change (list stop .rightCurly rest.length (fun us _ => entry stop us) rest (Nat.le_refl _) >>= _)
    = _ ↔ _
  cases hList : list stop .rightCurly rest.length (fun us _ => entry stop us) rest
      (Nat.le_refl _) with
  | error e => simp [bind, Except.bind]
  | ok read =>
      obtain ⟨pairs, after, hAfter⟩ := read
      simp [bind, Except.bind, Rest.weaken, eq_comm, and_comm]

/-- Any other token is read as the scalar that it is. -/
theorem value_eq_ok_iff_of_scalar (hBracket : l.token ≠ .leftBracket)
    (hCurly : l.token ≠ .leftCurly) :
    value stop (l :: rest) = .ok (v, left) ↔ l.token.scalar? = some v ∧ left.val = rest := by
  obtain ⟨left, hLeft⟩ := left
  rw [value.eq_def]
  dsimp only
  split
  · contradiction
  · contradiction
  · split
    · simp [*, Rest.tail, eq_comm]
    · simp [*]

end steps

theorem entry_eq_ok_iff {stop : Nat} {ts : List Lexeme} {key v : Value} {rest : Rest ts} :
    entry stop ts = .ok ((key, v), rest) ↔ ∃ behindKey behindArrow after,
      value stop ts = .ok (key, behindKey) ∧
        expect stop .fatArrow behindKey.val = .ok behindArrow ∧
          value stop behindArrow.val = .ok (v, after) ∧ rest.val = after.val := by
  obtain ⟨rest, hRest⟩ := rest
  simp only [entry, bind_eq_ok_iff, Prod.exists, Except.ok.injEq, Prod.mk.injEq, Rest.weaken,
    Subtype.mk.injEq]
  constructor
  · rintro ⟨_, behindKey, hKey, behindArrow, hArrow, _, after, hValue, ⟨rfl, rfl⟩, hRest⟩
    exact ⟨behindKey, behindArrow, after, hKey, hArrow, hValue, hRest.symm⟩
  · rintro ⟨behindKey, behindArrow, after, hKey, hArrow, hValue, hRest⟩
    exact ⟨key, behindKey, hKey, behindArrow, hArrow, v, after, hValue, ⟨rfl, rfl⟩, hRest.symm⟩

/-- Reading a key with its value agrees with the grammar if reading values does. -/
theorem entry_reads {stop : Nat} {ts : List Lexeme}
    (hValue : ∀ us : List Lexeme, us.length ≤ ts.length → Reads Denotes (value stop us)) :
    Reads DenotesPair (entry stop ts) := by
  rintro ⟨key, v⟩ rest
  rw [entry_eq_ok_iff]
  constructor
  · rintro ⟨behindKey, behindArrow, after, hKey, hArrow, hRead, hRest⟩
    obtain ⟨usedKey, hUsedKey, hDenotesKey⟩ := (hValue ts (Nat.le_refl _) key behindKey).1 hKey
    obtain ⟨arrow, hBehind, hToken⟩ := expect_eq_ok_iff.1 hArrow
    have hShorter : behindArrow.val.length ≤ ts.length := by
      have := behindArrow.property
      have := behindKey.property
      omega
    obtain ⟨used, hUsed, hDenotes⟩ := (hValue _ hShorter v after).1 hRead
    refine ⟨usedKey ++ arrow :: used, by simp [hRest, hUsedKey, hBehind, ← hUsed], ?_⟩
    rw [tokensOf, List.map_append, List.map_cons, hToken]
    exact .intro hDenotesKey hDenotes
  · rintro ⟨used, hUsed, hDenotes⟩
    generalize hTokens : tokensOf used = tokens at hDenotes
    obtain ⟨left, right⟩ := hDenotes
    obtain ⟨usedKey, behind, rfl, rfl, hBehind⟩ := List.map_eq_append_iff.1 hTokens
    obtain ⟨arrow, usedValue, rfl, hArrow, rfl⟩ := List.map_eq_cons_iff.1 hBehind
    have hts : ts = usedKey ++ arrow :: (usedValue ++ rest.val) := by simpa using hUsed
    have hSomeKey := (denotes_opens (.inl rfl)).length_pos left
    have hSomeValue := (denotes_opens (.inl rfl)).length_pos right
    have hLength := congrArg List.length hts
    rw [List.length_append, List.length_cons, List.length_append] at hLength
    have hArrowShorter : (usedValue ++ rest.val).length <
        (arrow :: (usedValue ++ rest.val)).length := by simp
    refine ⟨⟨arrow :: (usedValue ++ rest.val), ?_⟩, ⟨_, hArrowShorter⟩, ⟨rest.val, ?_⟩,
      (hValue _ (Nat.le_refl _) _ _).2 ⟨usedKey, hts, left⟩,
      expect_eq_ok_iff.2 ⟨arrow, rfl, hArrow⟩, (hValue _ ?_ _ _).2 ⟨usedValue, rfl, right⟩, rfl⟩
    all_goals simp only [List.length_cons, List.length_append]; omega

/-- Lexemes that denote a value are more than none. -/
theorem exists_used_iff {l : Lexeme} {rest left : List Lexeme} {v : Value} :
    (∃ used, l :: rest = used ++ left ∧ Denotes (tokensOf used) v) ↔
      ∃ used, rest = used ++ left ∧ Denotes (l.token :: tokensOf used) v := by
  constructor
  · rintro ⟨used, hUsed, h⟩
    cases used with
    | nil => cases h
    | cons l' used =>
        obtain ⟨rfl, hRest⟩ := List.cons.inj hUsed
        exact ⟨used, hRest, h⟩
  · rintro ⟨used, rfl, h⟩
    exact ⟨l :: used, rfl, h⟩

/-- A collection is read where its list is. -/
theorem collection_iff {close : Token} {Item : List Token → α → Prop} {ts left : List Lexeme}
    {reading : Reading (List α) ts} {v : Value} (make : List α → Value)
    (h : Reads (Closed close Item) reading) :
    (∃ items after, reading = .ok (items, after) ∧ v = make items ∧ left = after.val) ↔
      ∃ used, ts = used ++ left ∧ ∃ items, v = make items ∧
        Closed close Item (tokensOf used) items := by
  constructor
  · rintro ⟨items, after, hRead, rfl, rfl⟩
    obtain ⟨used, hUsed, hClosed⟩ := (h items after).1 hRead
    exact ⟨used, hUsed, items, rfl, hClosed⟩
  · rintro ⟨used, rfl, items, rfl, hClosed⟩
    have hSome := hClosed.length_pos
    exact ⟨items, ⟨left, by rw [List.length_append]; omega⟩,
      (h items _).2 ⟨used, rfl, hClosed⟩, rfl, rfl⟩

/-- Reading a value agrees with the grammar of values. -/
theorem value_reads (stop : Nat) (ts : List Lexeme) : Reads Denotes (value stop ts) := by
  induction h : ts.length using Nat.strongRecOn generalizing ts with
  | ind n ih =>
      subst h
      intro v left
      cases ts with
      | nil => exact absurd left.property (Nat.not_lt_zero _)
      | cons l rest =>
          have hValue (us : List Lexeme) (h : us.length ≤ rest.length) :
              Reads Denotes (value stop us) :=
            ih _ (Nat.lt_of_le_of_lt h (by simp)) us rfl
          rw [exists_used_iff]
          by_cases hBracket : l.token = .leftBracket
          · rw [value_eq_ok_iff_of_bracket hBracket, hBracket]
            simp only [denotes_bracket_iff]
            exact collection_iff .array
              (list_reads (denotes_opens (.inl rfl)) nofun hValue (Nat.le_refl _))
          · by_cases hCurly : l.token = .leftCurly
            · rw [value_eq_ok_iff_of_curly hCurly, hCurly]
              simp only [denotes_curly_iff]
              have hEntry (us : List Lexeme) (h : us.length ≤ rest.length) :
                  Reads DenotesPair (entry stop us) :=
                entry_reads fun vs hShorter => hValue vs (Nat.le_trans hShorter h)
              exact collection_iff (fun pairs => .map (Dict.ofList pairs))
                (list_reads (denotesPair_opens (.inr rfl)) nofun hEntry (Nat.le_refl _))
            · rw [value_eq_ok_iff_of_scalar hBracket hCurly]
              simp only [denotes_scalar_iff hBracket hCurly, tokensOf, List.map_eq_nil_iff]
              constructor
              · rintro ⟨hScalar, hLeft⟩
                exact ⟨[], hLeft.symm, rfl, hScalar⟩
              · rintro ⟨_, hLeft, rfl, hScalar⟩
                exact ⟨hScalar, hLeft.symm⟩

/-! ### Reading all lexemes -/

/-- Lexemes are read as the value that their tokens denote. -/
theorem readValue_eq_ok_iff {stop : Nat} {ts : List Lexeme} {v : Value} :
    readValue stop ts = .ok v ↔ Denotes (tokensOf ts) v := by
  simp only [readValue, bind_eq_ok_iff, Prod.exists, Except.ok.injEq]
  constructor
  · rintro ⟨_, rest, hRead, _, hFinished, rfl⟩
    obtain ⟨used, hUsed, hDenotes⟩ := (value_reads stop ts _ rest).1 hRead
    have hNone : rest.val = [] := by
      cases hRest : rest.val with
      | nil => rfl
      | cons l others => simp [hRest, finished] at hFinished
    rw [hNone, List.append_nil] at hUsed
    rwa [hUsed]
  · intro hDenotes
    have hSome := (denotes_opens (.inl rfl)).length_pos hDenotes
    exact ⟨v, ⟨[], hSome⟩, (value_reads stop ts v _).2 ⟨ts, by simp, hDenotes⟩, (), rfl, rfl⟩

/-- Tokens denote one value at most. -/
theorem Denotes.unique {tokens : List Token} {v w : Value} (hv : Denotes tokens v)
    (hw : Denotes tokens w) : v = w := by
  let lexemes : List Lexeme := tokens.map fun t => ⟨t, 0, 0⟩
  have hTokens : tokensOf lexemes = tokens := by simp [lexemes, tokensOf, Function.comp_def]
  rw [← hTokens] at hv hw
  have hReadV : readValue 0 lexemes = .ok v := readValue_eq_ok_iff.2 hv
  have hReadW : readValue 0 lexemes = .ok w := readValue_eq_ok_iff.2 hw
  exact Except.ok.inj (hReadV.symm.trans hReadW)

/-- Reading a value from lexemes gives what their tokens denote by the grammar. Where they denote
nothing it fails, and they never denote two values. -/
theorem readValue_ok_iff_denotes (stop : Nat) (ts : List Lexeme) :
    (∀ v, readValue stop ts = .ok v ↔ Denotes (ts.map (·.token)) v) ∧
      ∀ v w, Denotes (ts.map (·.token)) v → Denotes (ts.map (·.token)) w → v = w :=
  ⟨fun _ => readValue_eq_ok_iff, fun _ _ => Denotes.unique⟩

/-- A map with a key that stands twice, a list inside, and a comma behind the last item of each. -/
def repeatedKey : List Token :=
  [.leftCurly, .symbol "a", .fatArrow, .integer 1, .comma, .symbol "b", .fatArrow, .leftBracket,
    .integer 1, .comma, .nil, .comma, .rightBracket, .comma, .symbol "a", .fatArrow, .integer 2,
    .comma, .rightCurly]

theorem denotes_repeatedKey : Denotes repeatedKey
    (.map [(.symbol "a", .integer 2), (.symbol "b", .array [.integer 1, .nil])]) := by
  have hItems := Listed.cons (Denotes.integer 1) (Listed.cons Denotes.nil .empty)
  have hPairs := Listed.cons (DenotesPair.intro (.symbol "a") (.integer 1)) (Listed.cons
    (DenotesPair.intro (.symbol "b") (.array hItems)) (Listed.cons
      (DenotesPair.intro (.symbol "a") (.integer 2)) .empty))
  exact .map hPairs (collects_iff.2 rfl)

theorem readValue_ok_iff_denotes_repeatedKey :
    Denotes repeatedKey
        (.map [(.symbol "a", .integer 2), (.symbol "b", .array [.integer 1, .nil])]) ∧
      readValue 0 (repeatedKey.map fun t => ⟨t, 0, 0⟩) =
        .ok (.map [(.symbol "a", .integer 2), (.symbol "b", .array [.integer 1, .nil])]) := by
  have hTokens : (repeatedKey.map fun t => (⟨t, 0, 0⟩ : Lexeme)).map (·.token) = repeatedKey := by
    simp [Function.comp_def]
  refine ⟨denotes_repeatedKey, ((readValue_ok_iff_denotes 0 _).1 _).2 ?_⟩
  rw [hTokens]
  exact denotes_repeatedKey

end CaseMatch.Surface
