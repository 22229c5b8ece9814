import CaseMatch.Proofs.Surface.ParserRules
import CaseMatch.Regex.Compile

/-!
Reading makes progress and ends. From whatever place of whatever lexemes a routine begins, its
steps come to an end, and to what the reading of the lexemes from that place on comes to. On the way
the cursor is never before that place nor behind the last lexeme, and where something was read it
stands further on.
-/

namespace CaseMatch.Surface

variable {stop floor i j : ℕ} {ts us vs rest : List Lexeme} {l : Lexeme} {α β : Type}

section routines

variable [RegexEngine]

/-! ### Values -/

/-- A value is read where the routines do as they should further on. -/
theorem answers_value (hFurther : AnswersFurther stop ts i) :
    Answers stop ts .value i := by
  show ComesTo stop ts i (Steps.value stop) i (left (value stop (ts.drop i)))
  rw [value.eq_def, Steps.value]
  generalize hDrop : ts.drop i = us
  cases us with
  | nil => exact .advance_end _ hDrop
  | cons l rest =>
      have hBehind := drop_succ_of_drop hDrop
      have hLength := succ_le_of_drop hDrop
      refine .advance _ hDrop (Nat.le_refl i) ?_
      obtain ⟨t, span⟩ := l
      cases t with
      | leftBracket =>
          refine .call_further hFurther hBehind.symm (by omega) hLength ?_
          intro items after j hAfter _ _
          exact .done hAfter
      | leftCurly =>
          refine .call_further hFurther hBehind.symm (by omega) hLength ?_
          intro pairs after j hAfter _ _
          exact .done hAfter
      | nil | boolean | integer | float | string | symbol => exact .done hBehind.symm
      | _ => exact .refuse _

/-- An entry of a map value is its key, the arrow and a value further on. -/
theorem answers_pair (hi : i ≤ ts.length) (hValue : Answers stop ts .value i)
    (hFurther : AnswersFurther stop ts i) : Answers stop ts .pair i := by
  show ComesTo stop ts i (Steps.pair stop) i (left (entry stop (ts.drop i)))
  refine .call hValue rfl (Nat.le_refl i) hi ?_
  intro key behindKey j hKey hij hj
  refine .expect hKey (by omega) ?_
  intro behindArrow hArrow hLength
  refine .call_further hFurther hArrow (by omega) hLength ?_
  intro v after k hAfter _ _
  exact .done hAfter

/-! ### Ranges -/

/-- The second bound of a range is the lexeme at the cursor, or that is refused. -/
theorem comesTo_bound (hDrop : ts.drop i = us) (hFloor : floor ≤ i) (start : Int64)
    (inclusive : Bool) {vs : List Lexeme} (hFewer : us.length ≤ vs.length) :
    ComesTo stop ts floor (do
      let l ← Steps.advance stop .integer
      match l.token with
      | .integer last => pure (.range ⟨start, last, inclusive⟩)
      | _ => .refuse (.unexpectedToken .integer l)) i
      (left (rangeFrom stop start inclusive us >>= fun read =>
        (.ok (read.1, read.2.weaken hFewer) : Reading Template vs))) := by
  cases us with
  | nil => exact .advance_end _ hDrop
  | cons l rest =>
      refine .advance _ hDrop hFloor ?_
      obtain ⟨t, span⟩ := l
      cases t with
      | integer last => exact .done (drop_succ_of_drop hDrop).symm
      | _ => exact .refuse _

/-- The rest of a range is its sign and its second bound. -/
theorem answers_range (start : Int64) : Answers stop ts (.range start) i := by
  show ComesTo stop ts i (Steps.range stop start) i (left (rangeReading stop start (ts.drop i)))
  rw [Steps.range]
  generalize hDrop : ts.drop i = us
  cases us with
  | nil =>
      refine .eat_other hDrop nofun ?_
      rw [if_neg Bool.false_ne_true, Steps.expect, bind_assoc]
      exact .advance_end _ hDrop
  | cons m rest =>
      have hBehind := drop_succ_of_drop hDrop
      rw [rangeReading]
      by_cases hInclusive : m.token = .inclusiveRange
      · rw [if_pos hInclusive]
        exact .eat hDrop hInclusive (Nat.le_refl i) (comesTo_bound hBehind (by omega) start true _)
      · refine .eat_other hDrop (by simpa using hInclusive) ?_
        rw [if_neg hInclusive, if_neg Bool.false_ne_true, Steps.expect, bind_assoc]
        refine .advance _ hDrop (Nat.le_refl i) ?_
        by_cases hExclusive : m.token = .exclusiveRange
        · rw [if_pos hExclusive, if_pos hExclusive]
          exact comesTo_bound hBehind (by omega) start false _
        · rw [if_neg hExclusive, if_neg hExclusive]
          exact .refuse _

/-! ### Patterns -/

/-- An identifier is passed where there is one, and anything else is refused. -/
theorem ComesTo.identifier {f : String × Span → Steps β}
    {g : (String × Span) × Rest us → Reading β vs} (hus : us = ts.drop i) (hFloor : floor ≤ i)
    (h : ∀ read (after : Rest us), after.val = ts.drop (i + 1) →
      ComesTo stop ts floor (f read) (i + 1) (left (g (read, after)))) :
    ComesTo stop ts floor (Steps.identifier stop >>= f) i
      (left (identifier stop us >>= g)) := by
  rw [Steps.identifier, bind_assoc]
  cases us with
  | nil => exact .advance_end _ hus.symm
  | cons l rest =>
      refine .advance _ hus.symm hFloor ?_
      obtain ⟨t, span⟩ := l
      cases t with
      | identifier name => exact h (name, span) _ (drop_succ_of_drop hus.symm).symm
      | _ => exact .refuse _

/-- A name behind an item is two lexemes, or none if no at sign stands there. -/
theorem ComesTo.naming {named : String → Except PatternError α} {unnamed : α} {f : α → Steps β}
    {g : α × Rest vs → Reading β rest} (hus : us = ts.drop i) (hFloor : floor ≤ i)
    (hFewer : us.length < vs.length)
    (h : ∀ a (after : Rest vs) j, after.val = ts.drop j →
      ComesTo stop ts floor (f a) j (left (g (a, after)))) :
    ComesTo stop ts floor (Steps.naming stop named unnamed >>= f) i
      (left (naming stop vs named unnamed us hFewer >>= g)) := by
  rw [Steps.naming, bind_assoc]
  cases us with
  | nil => exact .eat_other hus.symm nofun (h unnamed ⟨[], hFewer⟩ i hus)
  | cons l us =>
      have hBehind := drop_succ_of_drop hus.symm
      by_cases hAt : l.token = .atSign
      · rw [Surface.naming, if_pos hAt, bind_assoc]
        refine .eat hus.symm hAt hFloor ?_
        rw [if_pos rfl, bind_assoc]
        refine .identifier hBehind.symm (by omega) ?_
        rintro ⟨name, span⟩ after hAfter
        rw [bind_assoc]
        exact .settle fun a => h a _ _ hAfter
      · rw [Surface.naming, if_neg hAt]
        exact .eat_other hus.symm (by simpa using hAt) (h unnamed ⟨l :: us, hFewer⟩ i hus)

theorem ComesTo.placeSeen {f : Span → Steps α} {x : Except ReadError (α × List Lexeme)}
    (h : ComesTo stop ts floor (f (nextSpan stop (ts.drop i))) i x) :
    ComesTo stop ts floor (Steps.placeSeen stop >>= f) i x := by
  refine .look ?_
  rw [getElem?_of_drop rfl]
  cases hDrop : ts.drop i <;> rwa [hDrop] at h

/-- An item without a star is what is read first, with the name behind it. -/
theorem item_eq_bind (h : ∀ l ∈ us.head?, l.token ≠ .star) :
    item stop us = primary stop us >>= fun read => naming stop us
      (fun name => (read.1.bind name).map .pattern) read.1 read.2.val read.2.property := by
  rw [item.eq_def]
  cases us with
  | nil => rw [primary.eq_def]; rfl
  | cons l rest =>
      dsimp only
      rw [if_neg (h l rfl)]

/-- An item begins with what else is read at its place, or behind its star. -/
theorem answers_item (hi : i ≤ ts.length) (hPrimary : Answers stop ts .primary i)
    (hFurther : AnswersFurther stop ts i) : Answers stop ts .item i := by
  show ComesTo stop ts i (Steps.item stop) i (left (item stop (ts.drop i)))
  rw [Steps.item]
  refine .placeSeen ?_
  rcases begins_or .star (ts.drop i) with ⟨l, rest, hDrop, hStar⟩ | hNone
  · have hLength := succ_le_of_drop hDrop
    rw [item.eq_def, hDrop]
    dsimp only
    rw [if_pos hStar]
    refine .eat hDrop hStar (Nat.le_refl i) ?_
    rw [if_pos rfl]
    refine .call_further hFurther (drop_succ_of_drop hDrop).symm (by omega) hLength ?_
    intro inner after j hAfter hij hj
    refine .settle fun each => .naming hAfter (by omega) _ ?_
    intro tail behind k hBehind
    exact .done hBehind
  · rw [item_eq_bind hNone]
    refine .eat_other rfl hNone ?_
    rw [if_neg Bool.false_ne_true]
    refine .call hPrimary rfl (Nat.le_refl i) hi ?_
    intro inner after j hAfter hij hj
    rw [← bind_pure (Steps.naming ..), ← bind_pure (naming ..)]
    exact .naming hAfter (by omega) _ fun _ _ _ hBehind => .done hBehind

/-- The cursor steps back to a literal, which is then read as a value. -/
theorem comesTo_literal {v : Value} (hi : i ≤ ts.length) (hValue : Answers stop ts .value i)
    (hDrop : ts.drop i = l :: rest) (hScalar : l.token.scalar? = some v) :
    ComesTo stop ts i Steps.literal (i + 1) (.ok (.literal v, rest)) := by
  refine .back ?_ (Nat.le_refl i) hi
  have hRead : value stop (l :: rest) = .ok (v, .tail l rest) := by
    refine (value_eq_ok_iff_of_scalar ?_ ?_).2 ⟨hScalar, rfl⟩ <;>
      exact fun hBracket => by simp [hBracket, Token.scalar?] at hScalar
  have hOutcome : left (value stop (l :: rest) >>= fun read =>
      (.ok (.literal read.1, read.2) : Reading Template (l :: rest))) = .ok (.literal v, rest) := by
    rw [hRead]
    rfl
  rw [← hOutcome]
  refine .call hValue hDrop.symm (Nat.le_refl i) hi ?_
  intro w after j hAfter _ _
  exact .done hAfter

/-- An integer before the sign of a range comes to what is read of the range from the sign on. -/
theorem left_plain_of_range {m : Lexeme} {others : List Lexeme} {start : Int64} {inclusive : Bool}
    (hStart : l.token = .integer start) (hSign : m.token = rangeSign inclusive) :
    left (plain stop l (m :: others)) = left (rangeReading stop start (m :: others)) := by
  rw [plain_of_range hStart hSign, rangeReading]
  cases inclusive with
  | true =>
      rw [if_pos (show m.token = .inclusiveRange from hSign)]
      cases rangeFrom stop start true others <;> rfl
  | false =>
      rw [if_neg (by simp [hSign, rangeSign]), if_pos (show m.token = .exclusiveRange from hSign)]
      cases rangeFrom stop start false others <;> rfl

/-- An integer is the start of a range where the sign of one stands behind it. -/
theorem comesTo_integer (hi : i ≤ ts.length) (hValue : Answers stop ts .value i) {start : Int64}
    (hDrop : ts.drop i = l :: rest) (hStart : l.token = .integer start) :
    ComesTo stop ts i (do
      match ← Steps.seen with
      | some ⟨.exclusiveRange, _⟩ => Steps.perform (.range start)
      | some ⟨.inclusiveRange, _⟩ => Steps.perform (.range start)
      | _ => Steps.literal) (i + 1) (left (plain stop l rest)) := by
  have hBehind := drop_succ_of_drop hDrop
  have hLength := succ_le_of_drop hDrop
  refine .look ?_
  rw [getElem?_of_drop hBehind]
  rcases noRange_or rest with hNone | ⟨m, others, inclusive, rfl, hSign⟩
  · have hScalar : l.token.scalar? = some (.integer start) := by rw [hStart]; rfl
    have hLiteral := comesTo_literal hi hValue hDrop hScalar
    rw [plain_of_scalar hScalar fun _ _ => hNone]
    cases rest with
    | nil => exact hLiteral
    | cons m others =>
        obtain ⟨hExclusive, hInclusive⟩ := hNone m rfl
        obtain ⟨t, span⟩ := m
        cases t <;> first | exact hLiteral | contradiction
  · rw [left_plain_of_range hStart hSign]
    have hRange : ComesTo stop ts i (Steps.perform (.range start)) (i + 1)
        (left (rangeReading stop start (m :: others))) :=
      .perform (answers_range start) hBehind.symm (by omega) hLength
    obtain ⟨t, span⟩ := m
    obtain rfl : t = rangeSign inclusive := hSign
    cases inclusive <;> exact hRange

/-- What stands before a name begins further on with what it holds, unless it is a literal. -/
theorem answers_primary (hi : i ≤ ts.length) (hValue : Answers stop ts .value i)
    (hFurther : AnswersFurther stop ts i) : Answers stop ts .primary i := by
  show ComesTo stop ts i (Steps.primary stop) i (left (primary stop (ts.drop i)))
  rw [primary.eq_def, Steps.primary]
  generalize hDrop : ts.drop i = us
  cases us with
  | nil => exact .advance_end _ hDrop
  | cons l rest =>
      have hBehind := drop_succ_of_drop hDrop
      have hLength := succ_le_of_drop hDrop
      refine .advance _ hDrop (Nat.le_refl i) ?_
      obtain ⟨t, span⟩ := l
      cases t with
      | leftBracket =>
          refine .call_further hFurther hBehind.symm (by omega) hLength ?_
          intro items after j hAfter _ _
          exact .settle fun p => .done hAfter
      | leftCurly =>
          refine .call_further hFurther hBehind.symm (by omega) hLength ?_
          intro entries after j hAfter _ _
          exact .settle fun p => .done hAfter
      | wildcard => exact .done hBehind.symm
      | identifier | regex | symbolRegex => exact .settle fun p => .done hBehind.symm
      | typeName name =>
          unfold plain
          dsimp only
          cases Kind.ofName name with
          | ok kind => exact .done hBehind.symm
          | error e => exact .refuse _
      | integer start => exact comesTo_integer hi hValue hDrop rfl
      | nil | boolean | float | string | symbol => exact comesTo_literal hi hValue hDrop rfl
      | _ => exact .refuse _

/-! ### Entries -/

/-- A key is a value, or one in brackets, of which the value begins further on. -/
theorem ComesTo.key {f : MapKey → Steps β} {g : MapKey × Rest us → Reading β vs}
    (hi : i ≤ ts.length) (hus : us = ts.drop i) (hValue : Answers stop ts .value i)
    (hFurther : AnswersFurther stop ts i)
    (h : ∀ k (after : Rest us) j, after.val = ts.drop j → i < j →
      ComesTo stop ts i (f k) j (left (g (k, after)))) :
    ComesTo stop ts i (Steps.key stop >>= f) i (left (mapKey stop us >>= g)) := by
  rw [Steps.key, bind_assoc]
  rcases begins_or .leftBracket us with ⟨l, rest, rfl, hBracket⟩ | hNone
  · have hLength := succ_le_of_drop hus.symm
    have hBehind := drop_succ_of_drop hus.symm
    refine .eat hus.symm hBracket (Nat.le_refl i) ?_
    rw [if_pos rfl, bind_assoc, mapKey, if_pos hBracket, bind_assoc]
    refine .call_further hFurther hBehind.symm (by omega) hLength ?_
    intro v behindKey j hKey hij hj
    rw [bind_assoc, bind_assoc]
    refine .expect hKey (by omega) ?_
    intro after hAfter _
    exact h _ _ _ hAfter (by omega)
  · refine .eat_other hus.symm hNone ?_
    rw [if_neg Bool.false_ne_true, bind_assoc, mapKey_eq_bind hNone, bind_assoc]
    refine .call hValue hus (Nat.le_refl i) hi ?_
    intro v after j hAfter hij _
    exact h _ _ _ hAfter hij

/-- An entry of a map pattern is its key, the arrow and an item further on. -/
theorem answers_entry (hi : i ≤ ts.length) (hValue : Answers stop ts .value i)
    (hFurther : AnswersFurther stop ts i) : Answers stop ts .entry i := by
  show ComesTo stop ts i (Steps.entry stop) i (left (patternEntry stop (ts.drop i)))
  refine .key hi rfl hValue hFurther ?_
  intro k behindKey j hKey hij
  refine .expect hKey (by omega) ?_
  intro behindArrow hArrow hLength
  refine .call_further hFurther hArrow (by omega) hLength ?_
  intro t after k hAfter _ _
  exact .done hAfter

/-! ### Lists -/

/-- Behind an item a list goes on at a comma, or ends. -/
theorem comesTo_behindItem {close : Token} {of : Routine} (hij : i < j)
    (hFurther : AnswersFurther stop ts i) (x : of.Result) (after : Rest us)
    (hAfter : after.val = ts.drop j) :
    ComesTo stop ts i (do
      if ← Steps.eat .comma then do
        let xs ← Steps.perform (.list close of)
        pure (x :: xs)
      else do
        Steps.expect stop close
        pure [x]) j
      (left (behindItem stop close (of.reading stop) (x, after))) := by
  obtain ⟨others, shorter⟩ := after
  rcases begins_or .comma others with ⟨m, others, rfl, hComma⟩ | hNone
  · have hLength := succ_le_of_drop hAfter.symm
    rw [behindItem, if_pos hComma, list_bound _ (Nat.le_refl others.length)]
    refine .eat hAfter.symm hComma (by omega) ?_
    rw [if_pos rfl]
    refine .call_further hFurther (drop_succ_of_drop hAfter.symm).symm (by omega) hLength ?_
    intro xs left k hLeft _ _
    exact .done hLeft
  · refine .eat_other hAfter.symm hNone ?_
    rw [if_neg Bool.false_ne_true, Steps.expect, bind_assoc]
    cases others with
    | nil => exact .advance_end _ hAfter.symm
    | cons m others =>
        rw [behindItem, if_neg (hNone m rfl)]
        refine .advance _ hAfter.symm (by omega) ?_
        split
        · exact .done (drop_succ_of_drop hAfter.symm).symm
        · exact .refuse _

/-- A list ends at its bracket or begins with an item, and what stands behind that begins further
on. -/
theorem answers_list {close : Token} {of : Routine} (hi : i ≤ ts.length)
    (hItem : Answers stop ts of i) (hFurther : AnswersFurther stop ts i) :
    Answers stop ts (.list close of) i := by
  show ComesTo stop ts i (Steps.list stop close of) i
    (left (list stop close _ (fun us _ => of.reading stop us) (ts.drop i) (Nat.le_refl _)))
  rw [Steps.list]
  generalize hDrop : ts.drop i = us
  rcases begins_or close us with ⟨l, rest, rfl, hClose⟩ | hNone
  · rw [list_of_close hClose]
    exact .eat hDrop hClose (Nat.le_refl i) (.done (drop_succ_of_drop hDrop).symm)
  · rw [list_eq_bind (Nat.le_refl _) hNone]
    refine .eat_other hDrop hNone ?_
    rw [if_neg Bool.false_ne_true]
    refine .call hItem hDrop.symm (Nat.le_refl i) hi ?_
    intro x after j hAfter hij _
    exact comesTo_behindItem hij hFurther x after hAfter

/-! ### All routines -/

/-- A routine calls others of smaller rank where it began. -/
def Routine.rank : Routine → ℕ
  | .value => 0
  | .pair => 1
  | .item => 2
  | .primary => 1
  | .range _ => 0
  | .entry => 1
  | .list _ of => of.rank + 1

/-- From any place on, every routine does as it should. Those that it calls begin further on, or are
of smaller rank. -/
theorem answers (stop : ℕ) (ts : List Lexeme) (r : Routine) (i : ℕ) (hi : i ≤ ts.length) :
    Answers stop ts r i := by
  -- Fewer lexemes are left further on, and at the same place the rank falls. The step back leads a
  -- literal no further than to the place itself, where a value has the least rank.
  have hFurther : AnswersFurther stop ts i := fun r' j hij hj => answers stop ts r' j hj
  cases r with
  | value => exact answers_value hFurther
  | pair => exact answers_pair hi (answers stop ts .value i hi) hFurther
  | item => exact answers_item hi (answers stop ts .primary i hi) hFurther
  | primary => exact answers_primary hi (answers stop ts .value i hi) hFurther
  | range start => exact answers_range start
  | entry => exact answers_entry hi (answers stop ts .value i hi) hFurther
  | list close of => exact answers_list hi (answers stop ts of i hi) hFurther
termination_by (ts.length - i, r.rank)
decreasing_by
  · exact .left _ _ (by omega)
  all_goals exact .right _ (by simp [Routine.rank])

/-- What is to be said of a routine that begins at a place: it ends, with what it gives or why it
refuses the lexemes, with the cursor somewhere, and on a path. -/
structure Progress (stop : ℕ) (ts : List Lexeme) (r : Routine) (i : ℕ)
    (x : Except ReadError r.Result) (j : ℕ) (path : List ℕ) : Prop where
  runs : Runs stop ts (r.steps stop) i x j path
  /-- There is no other way for it to go. -/
  only : ∀ x' j' path', Runs stop ts (r.steps stop) i x' j' path' → x' = x ∧ j' = j ∧ path' = path
  /-- The cursor is never before the place where the routine began, nor behind the last lexeme. -/
  within : ∀ k ∈ path, i ≤ k ∧ k ≤ ts.length
  finish : i ≤ j ∧ j ≤ ts.length
  /-- Where something was read, the cursor has gone on. -/
  further : ∀ a, x = .ok a → i < j
  /-- It comes to what is read of the lexemes from the place on. -/
  reads : left (r.reading stop (ts.drop i)) = x.map fun a => (a, ts.drop j)

/-- Whatever the lexemes are, every routine ends from every place among them and makes progress. -/
theorem routines_progress (stop : ℕ) (ts : List Lexeme) (r : Routine) {i : ℕ} (hi : i ≤ ts.length) :
    ∃ x j path, Progress stop ts r i x j path := by
  have hAnswers := answers stop ts r i hi
  rw [Answers] at hAnswers
  generalize hLeft : left (r.reading stop (ts.drop i)) = outcome at hAnswers
  cases hAnswers with
  | @refused e j path runs within =>
      have hNothing (a : r.Result) (h : (.error e : Except ReadError r.Result) = .ok a) :
          i < j := by
        cases h
      exact ⟨.error e, j, path, runs, fun _ _ _ => runs.unique, within, runs.finish hi within,
        hNothing, hLeft⟩
  | @read a j path runs within =>
      have hFurther : i < j := by
        rcases hRead : r.reading stop (ts.drop i) with e | ⟨b, after⟩
        · rw [hRead] at hLeft
          cases hLeft
        · rw [hRead] at hLeft
          exact lt_of_rest rfl after (Prod.mk.inj (Except.ok.inj hLeft)).2
      exact ⟨.ok a, j, path, runs, fun _ _ _ => runs.unique, within, runs.finish hi within,
        fun _ _ => hFurther, hLeft⟩

end routines

/-- An integer with a comma behind it. -/
def integerThenComma : List Lexeme := [⟨.integer 1, 0, 1⟩, ⟨.comma, 1, 2⟩]

/-- The cursor steps back to the integer and reads it as a value. Behind it no item begins at the
comma, and none at the end. -/
theorem routines_progress_integerThenComma :
    letI := Regex.standard
    Progress 2 integerThenComma .item 0 (.ok (.literal (.integer 1))) 1 [1, 0, 1] ∧
    Progress 2 integerThenComma (.list .rightBracket .item) 0
      (.error (.unexpectedEnd .pattern 2)) 2 [1, 0, 1, 2] := by
  let := Regex.standard
  have hValue : Runs 2 integerThenComma (Routine.value.steps 2) 0 (.ok (.integer 1)) 1 [1] :=
    .look (.forward (.done _ _))
  have hPrimary : Runs 2 integerThenComma (Routine.primary.steps 2) 0
      (.ok (.literal (.integer 1))) 1 [1, 0, 1] :=
    .look (.forward (.look (.back (.call hValue (.done _ _)))))
  have hItem : Runs 2 integerThenComma (Routine.item.steps 2) 0 (.ok (.literal (.integer 1))) 1
      [1, 0, 1] := .look (.look (.call hPrimary (.look (.done _ _))))
  have hEnd : Runs 2 integerThenComma (Routine.item.steps 2) 2
      (.error (.unexpectedEnd .pattern 2)) 2 [] :=
    .look (.look (.callRefused (.look (.refuse _ _))))
  have hList : Runs 2 integerThenComma ((Routine.list .rightBracket .item).steps 2) 0
      (.error (.unexpectedEnd .pattern 2)) 2 [1, 0, 1, 2] :=
    .look (.call hItem (.look (.forward (.callRefused (.look (.callRefused hEnd))))))
  have hStart : 0 ≤ integerThenComma.length := Nat.zero_le _
  obtain ⟨x, j, path, hProgress⟩ := routines_progress 2 integerThenComma .item hStart
  obtain ⟨y, k, path', hProgress'⟩ :=
    routines_progress 2 integerThenComma (.list .rightBracket .item) hStart
  obtain ⟨rfl, rfl, rfl⟩ := hProgress.only _ _ _ hItem
  obtain ⟨rfl, rfl, rfl⟩ := hProgress'.only _ _ _ hList
  exact ⟨hProgress, hProgress'⟩

end CaseMatch.Surface
