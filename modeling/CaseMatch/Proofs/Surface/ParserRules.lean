import CaseMatch.Proofs.Surface.ParserSteps
import CaseMatch.Proofs.Surface.PatternDerivation

/-!
What the steps of a cursor come to, rule by rule. Each rule sets a step against what is read of the
lexemes at the cursor: the steps behind it have to come to what is read of those that are left.
-/

namespace CaseMatch.Surface

variable {stop floor i j : ℕ} {ts us vs rest : List Lexeme} {l : Lexeme} {α β : Type}

/-- What was read, with the lexemes that are left. -/
def left {ts : List Lexeme} : Reading α ts → Except ReadError (α × List Lexeme)
  | .ok (a, rest) => .ok (a, rest.val)
  | .error e => .error e

/-! ### Readings of the routines -/

/-- Reads a range from its sign on. -/
def rangeReading (stop : ℕ) (start : Int64) (ts : List Lexeme) : Reading Template ts :=
  match ts with
  | [] => .error (.unexpectedEnd (.token .exclusiveRange) stop)
  | m :: rest =>
    if m.token = .inclusiveRange then
      rangeFrom stop start true rest >>= fun read => .ok (read.1, read.2.weaken (Nat.le_succ _))
    else if m.token = .exclusiveRange then
      rangeFrom stop start false rest >>= fun read => .ok (read.1, read.2.weaken (Nat.le_succ _))
    else .error (.unexpectedToken (.token .exclusiveRange) m)

/-- A key that is not in brackets is a value. -/
theorem mapKey_eq_bind (h : ∀ l ∈ us.head?, l.token ≠ .leftBracket) :
    mapKey stop us = value stop us >>= fun read => .ok (.required read.1, read.2) := by
  rw [mapKey.eq_def]
  cases us with
  | nil => rw [value.eq_def]; rfl
  | cons l rest =>
      dsimp only
      rw [if_neg (h l rfl)]

section lists

variable {close : Token} {bound bound' : ℕ} {item : (us : List Lexeme) → Reading α us}

/-- Reads what stands behind an item of a list: a comma and the rest of the list, or its end. -/
def behindItem (stop : ℕ) (close : Token) (item : (us : List Lexeme) → Reading α us)
    (read : α × Rest us) : Reading (List α) us :=
  match read with
  | (_, ⟨[], _⟩) => .error (.unexpectedEnd (.token close) stop)
  | (x, ⟨m :: others, shorter⟩) =>
    if m.token = .comma then
      list stop close us.length (fun us _ => item us) others
        (Nat.le_of_lt (Nat.lt_of_succ_lt shorter)) >>= fun read =>
          .ok (x :: read.1, read.2.weaken (Nat.le_of_lt (Nat.lt_of_succ_lt shorter)))
    else if m.token = close then
      .ok ([x], ⟨others, Nat.lt_of_succ_lt shorter⟩)
    else .error (.unexpectedToken (.token close) m)

/-- How many lexemes there may be at most does not matter for a list. -/
theorem list_bound (hus : us.length ≤ bound) (hus' : us.length ≤ bound') :
    list stop close bound (fun us _ => item us) us hus =
      list stop close bound' (fun us _ => item us) us hus' := by
  -- The rest of the list is shorter by its item and the comma, so that the lexemes are counted.
  induction h : us.length using Nat.strongRecOn generalizing us with
  | ind n ih =>
      subst h
      rw [list.eq_def, list.eq_def stop close bound']
      cases us with
      | nil => rfl
      | cons l rest =>
          dsimp only
          split
          · rfl
          · rcases item (l :: rest) with e | ⟨x, after, shorter⟩
            · rfl
            · cases after with
              | nil => rfl
              | cons m others =>
                  have hFewer : others.length < (l :: rest).length := by
                    simp only [List.length_cons] at shorter ⊢
                    omega
                  have hOthers := ih _ hFewer (hFewer.le.trans hus) (hFewer.le.trans hus') rfl
                  simp only [bind, Except.bind, hOthers]

/-- A list that does not end at once is an item and what stands behind it. -/
theorem list_eq_bind (hus : us.length ≤ bound) (h : ∀ l ∈ us.head?, l.token ≠ close) :
    list stop close bound (fun us _ => item us) us hus =
      item us >>= behindItem stop close item := by
  rw [list.eq_def]
  cases us with
  | nil =>
      dsimp only
      rcases item [] with e | ⟨x, after, shorter⟩
      · rfl
      · exact absurd shorter (Nat.not_lt_zero _)
  | cons l rest =>
      dsimp only
      rw [if_neg (h l rfl)]
      rcases item (l :: rest) with e | ⟨x, after, shorter⟩
      · rfl
      · cases after with
        | nil => rfl
        | cons m others =>
            have hOthers : others.length ≤ bound := by
              simp only [List.length_cons] at shorter hus
              omega
            have hFewer : others.length ≤ (l :: rest).length :=
              Nat.le_of_lt (Nat.lt_of_succ_lt shorter)
            simp only [bind, Except.bind, behindItem, list_bound hOthers hFewer]

/-- A list ends at once at its closing bracket. -/
theorem list_of_close {l : Lexeme} {within : (l :: rest).length ≤ bound} (h : l.token = close) :
    list stop close bound (fun us _ => item us) (l :: rest) within = .ok ([], .tail l rest) := by
  rw [list.eq_def]
  dsimp only
  rw [if_pos h]

end lists

/-! ### Places of the cursor -/

theorem getElem?_of_drop (h : ts.drop i = us) : ts[i]? = us.head? := by
  rw [← h, List.head?_drop]

theorem succ_le_of_drop (h : ts.drop i = l :: rest) : i + 1 ≤ ts.length := by
  have := congrArg List.length h
  simp only [List.length_drop, List.length_cons] at this
  omega

theorem drop_succ_of_drop (h : ts.drop i = l :: rest) : ts.drop (i + 1) = rest := by
  rw [← List.drop_drop, h, List.drop_one, List.tail_cons]

/-- A token stands first among lexemes, or it does not. -/
theorem begins_or (t : Token) (us : List Lexeme) :
    (∃ l rest, us = l :: rest ∧ l.token = t) ∨ ∀ l ∈ us.head?, l.token ≠ t := by
  cases us with
  | nil => exact .inr nofun
  | cons l rest =>
      by_cases h : l.token = t
      · exact .inl ⟨l, rest, rfl, h⟩
      · exact .inr (by simpa using h)

/-- What is left after a reading stands further on. -/
theorem lt_of_rest (hus : us = ts.drop i) (after : Rest us) (h : after.val = ts.drop j) :
    i < j := by
  have hFewer := after.property
  rw [h, hus, List.length_drop, List.length_drop] at hFewer
  omega

/-! ### Steps that come to something -/

variable [RegexEngine]

/-- What a routine reads. -/
def Routine.reading (stop : ℕ) : (r : Routine) → (ts : List Lexeme) → Reading r.Result ts
  | .value => Surface.value stop
  | .pair => Surface.entry stop
  | .item => Surface.item stop
  | .primary => Surface.primary stop
  | .range start => rangeReading stop start
  | .entry => patternEntry stop
  | .list close of => fun ts =>
    Surface.list stop close ts.length (fun us _ => of.reading stop us) ts (Nat.le_refl _)

/-- Steps run to their end and give what a reading gives, with the cursor at the lexemes that the
reading leaves. On the way the cursor stays among the lexemes from a floor on. -/
inductive ComesTo (stop : ℕ) (ts : List Lexeme) (floor : ℕ) (m : Steps α) (i : ℕ) :
    Except ReadError (α × List Lexeme) → Prop where
  | read {a : α} {j : ℕ} {path : List ℕ} (runs : Runs stop ts m i (.ok a) j path)
      (within : ∀ k ∈ path, floor ≤ k ∧ k ≤ ts.length) :
      ComesTo stop ts floor m i (.ok (a, ts.drop j))
  | refused {e : ReadError} {j : ℕ} {path : List ℕ} (runs : Runs stop ts m i (.error e) j path)
      (within : ∀ k ∈ path, floor ≤ k ∧ k ≤ ts.length) : ComesTo stop ts floor m i (.error e)

namespace ComesTo

variable {m : Steps α} {x : Except ReadError (α × List Lexeme)}

theorem done {a : α} (h : us = ts.drop i) : ComesTo stop ts floor (pure a) i (.ok (a, us)) := by
  rw [h]
  exact .read (.done a i) nofun

theorem refuse (e : ReadError) : ComesTo stop ts floor (.refuse e : Steps α) i (.error e) :=
  .refused (.refuse e i) nofun

theorem look {next : Option Lexeme → Steps α} (h : ComesTo stop ts floor (next ts[i]?) i x) :
    ComesTo stop ts floor (.look next) i x := by
  cases h with
  | read runs within => exact .read runs.look within
  | refused runs within => exact .refused runs.look within

/-- A step forward stays among the lexemes, or goes to their end. -/
theorem forward (h : ComesTo stop ts floor m (i + 1) x) (hFloor : floor ≤ i + 1)
    (hLength : i + 1 ≤ ts.length) : ComesTo stop ts floor (.forward m) i x := by
  cases h with
  | read runs within =>
      exact .read runs.forward (List.forall_mem_cons.2 ⟨⟨hFloor, hLength⟩, within⟩)
  | refused runs within =>
      exact .refused runs.forward (List.forall_mem_cons.2 ⟨⟨hFloor, hLength⟩, within⟩)

/-- A step back does not go in front of the floor. -/
theorem back (h : ComesTo stop ts floor m i x) (hFloor : floor ≤ i) (hLength : i ≤ ts.length) :
    ComesTo stop ts floor (.back m) (i + 1) x := by
  cases h with
  | read runs within => exact .read runs.back (List.forall_mem_cons.2 ⟨⟨hFloor, hLength⟩, within⟩)
  | refused runs within =>
      exact .refused runs.back (List.forall_mem_cons.2 ⟨⟨hFloor, hLength⟩, within⟩)

/-- A lexeme is passed where there is one. -/
theorem advance {f : Lexeme → Steps α} (expected : Expected) (hDrop : ts.drop i = l :: rest)
    (hFloor : floor ≤ i) (h : ComesTo stop ts floor (f l) (i + 1) x) :
    ComesTo stop ts floor (Steps.advance stop expected >>= f) i x := by
  refine .look ?_
  rw [getElem?_of_drop hDrop]
  exact .forward h (by omega) (succ_le_of_drop hDrop)

/-- At the end there is nothing to advance over, and what was expected is reported with the place of
the end. -/
theorem advance_end {f : Lexeme → Steps α} (expected : Expected) (hDrop : ts.drop i = []) :
    ComesTo stop ts floor (Steps.advance stop expected >>= f) i
      (.error (.unexpectedEnd expected stop)) := by
  refine .look ?_
  rw [getElem?_of_drop hDrop]
  exact .refuse _

/-- A token is passed where it stands. -/
theorem eat {f : Bool → Steps α} {t : Token} (hDrop : ts.drop i = l :: rest) (ht : l.token = t)
    (hFloor : floor ≤ i) (h : ComesTo stop ts floor (f true) (i + 1) x) :
    ComesTo stop ts floor (Steps.eat t >>= f) i x := by
  refine .look ?_
  rw [getElem?_of_drop hDrop]
  show ComesTo stop ts floor (Steps.andThen f
    (if l.token = t then .forward (.done true) else .done false)) i x
  rw [if_pos ht]
  exact .forward h (by omega) (succ_le_of_drop hDrop)

/-- Another token than the one asked for stays where it is. -/
theorem eat_other {f : Bool → Steps α} {t : Token} (hDrop : ts.drop i = us)
    (ht : ∀ l ∈ us.head?, l.token ≠ t) (h : ComesTo stop ts floor (f false) i x) :
    ComesTo stop ts floor (Steps.eat t >>= f) i x := by
  refine .look ?_
  rw [getElem?_of_drop hDrop]
  cases us with
  | nil => exact h
  | cons l rest =>
      show ComesTo stop ts floor (Steps.andThen f
        (if l.token = t then .forward (.done true) else .done false)) i x
      rw [if_neg (ht l rfl)]
      exact h

/-- A token that has to be there is passed, or what stands there is refused. -/
theorem expect {f : Unit → Steps α} {t : Token} {g : Rest us → Reading α vs}
    (hus : us = ts.drop i) (hFloor : floor ≤ i)
    (h : ∀ behind : Rest us, behind.val = ts.drop (i + 1) → i + 1 ≤ ts.length →
      ComesTo stop ts floor (f ()) (i + 1) (left (g behind))) :
    ComesTo stop ts floor (Steps.expect stop t >>= f) i
      (left (Surface.expect stop t us >>= g)) := by
  rw [Steps.expect, bind_assoc]
  cases us with
  | nil => exact advance_end (.token t) hus.symm
  | cons l rest =>
      refine advance (.token t) hus.symm hFloor ?_
      show ComesTo stop ts floor (Steps.andThen f
        (if l.token = t then .done () else .refuse (.unexpectedToken (.token t) l))) (i + 1)
        (left ((if l.token = t then .ok (.tail l rest)
          else .error (.unexpectedToken (.token t) l)) >>= g))
      by_cases ht : l.token = t
      · rw [if_pos ht, if_pos ht]
        exact h _ (drop_succ_of_drop hus.symm).symm (succ_le_of_drop hus.symm)
      · rw [if_neg ht, if_neg ht]
        exact .refuse _

/-- A result that is settled already needs no lexemes. -/
theorem settle {f : α → Steps β} {y : Except ReadError α} {g : α → Reading β vs}
    (h : ∀ a, ComesTo stop ts floor (f a) i (left (g a))) :
    ComesTo stop ts floor (Steps.settle y >>= f) i (left (y >>= g)) := by
  cases y with
  | ok a => exact h a
  | error e => exact .refuse e

end ComesTo

/-- A routine that begins at a place comes to what it reads there, and the cursor stays among the
lexemes from there on. -/
def Answers (stop : ℕ) (ts : List Lexeme) (r : Routine) (i : ℕ) : Prop :=
  ComesTo stop ts i (r.steps stop) i (left (r.reading stop (ts.drop i)))

/-- All routines do so that begin further on than a place. -/
def AnswersFurther (stop : ℕ) (ts : List Lexeme) (i : ℕ) : Prop :=
  ∀ r j, i < j → j ≤ ts.length → Answers stop ts r j

/-- Further steps go on where a routine that was called has left the cursor. -/
theorem ComesTo.of_run {r : Routine} {f : r.Result → Steps β} {a : r.Result} {path : List ℕ}
    {x : Except ReadError (β × List Lexeme)} (runs : Runs stop ts (r.steps stop) i (.ok a) j path)
    (within : ∀ k ∈ path, floor ≤ k ∧ k ≤ ts.length) (h : ComesTo stop ts floor (f a) j x) :
    ComesTo stop ts floor (Steps.perform r >>= f) i x := by
  cases h with
  | read runs' within' =>
      exact .read (.call runs runs') (List.forall_mem_append.2 ⟨within, within'⟩)
  | refused runs' within' =>
      exact .refused (.call runs runs') (List.forall_mem_append.2 ⟨within, within'⟩)

/-- A routine is called, and what is read behind it is read where it leaves the cursor. -/
theorem ComesTo.call {r : Routine} {f : r.Result → Steps β} {g : r.Result × Rest us → Reading β vs}
    (hOwn : Answers stop ts r i) (hus : us = ts.drop i) (hFloor : floor ≤ i) (hi : i ≤ ts.length)
    (h : ∀ a (after : Rest us) j, after.val = ts.drop j → i < j → j ≤ ts.length →
      ComesTo stop ts floor (f a) j (left (g (a, after)))) :
    ComesTo stop ts floor (Steps.perform r >>= f) i (left (r.reading stop us >>= g)) := by
  subst hus
  have hLower {path : List ℕ} (within : ∀ k ∈ path, i ≤ k ∧ k ≤ ts.length) :
      ∀ k ∈ path, floor ≤ k ∧ k ≤ ts.length :=
    fun k hk => ⟨hFloor.trans (within k hk).1, (within k hk).2⟩
  rw [Answers] at hOwn
  generalize r.reading stop (ts.drop i) = reading at hOwn ⊢
  cases reading with
  | error e =>
      cases hOwn with
      | refused runs within => exact .refused (.callRefused runs) (hLower within)
  | ok read =>
      obtain ⟨a, after⟩ := read
      generalize hLeft : left (.ok (a, after) : Reading r.Result (ts.drop i)) = x at hOwn
      cases hOwn with
      | refused => cases hLeft
      | @read _ j path runs within =>
          obtain ⟨rfl, hAfter⟩ := Prod.mk.inj (Except.ok.inj hLeft)
          exact .of_run runs (hLower within) (h a after j hAfter (lt_of_rest rfl after hAfter)
            (runs.finish hi within).2)

/-- A routine that is called further on may be any, since progress has been made. -/
theorem ComesTo.call_further {r : Routine} {f : r.Result → Steps β}
    {g : r.Result × Rest us → Reading β vs} (hFurther : AnswersFurther stop ts i)
    (hus : us = ts.drop j) (hij : i < j) (hj : j ≤ ts.length)
    (h : ∀ a (after : Rest us) k, after.val = ts.drop k → j < k → k ≤ ts.length →
      ComesTo stop ts i (f a) k (left (g (a, after)))) :
    ComesTo stop ts i (Steps.perform r >>= f) j (left (r.reading stop us >>= g)) :=
  .call (hFurther r j hij hj) hus hij.le hj h

theorem ComesTo.perform {r : Routine} (hOwn : Answers stop ts r i) (hus : us = ts.drop i)
    (hFloor : floor ≤ i) (hi : i ≤ ts.length) :
    ComesTo stop ts floor (Steps.perform r) i (left (r.reading stop us)) := by
  rw [← bind_pure (Steps.perform r), ← bind_pure (r.reading stop us)]
  refine .call hOwn hus hFloor hi ?_
  intro a after j hAfter _ _
  exact .done hAfter

end CaseMatch.Surface
