import CaseMatch.Surface.Lexer

/-!
Lexing as a walk over a text: a cursor moves on byte by byte, pieces are cut out of the text, and
loops go round until something ends them. Nothing here is safe by itself. A piece that is cut out
has to be within the text and of whole characters, the cursor can step back only from behind the
start, and a loop need not end.
-/

namespace CaseMatch.Surface

/-- A place of a text where no character is cut in two. -/
abbrev IsBoundary (code : String) (i : Nat) : Prop := (String.Pos.Raw.mk i).IsValid code

/-- Why a walk stops before its end: it reports something, or it does what it may not. -/
inductive Stop where
  | reported (label : Label)
  | outside (start stop : Nat)
  | splitsCharacter (start stop : Nat)
  | notText (bytes : List UInt8)
  | beforeStart

/-- What a walk comes to: why it stops, or what it gives and where the cursor is then. -/
abbrev WalkResult (α : Type) : Type := Except Stop (α × Nat)

/-- A walk, by what it comes to from each place of the cursor. One that does not end comes to
nothing. -/
def Walk (α : Type) : Type := Nat → WalkResult α → Prop

namespace Walk

variable {α β σ : Type}

/-- A step always comes to something. -/
def step (f : Nat → WalkResult α) : Walk α := fun i r => r = f i

/-- One walk and then another, unless the first stops. -/
def andThen (m : Walk α) (f : α → Walk β) : Walk β := fun i r =>
  (∃ e, m i (.error e) ∧ r = .error e) ∨ ∃ a j, m i (.ok (a, j)) ∧ f a j r

instance : Monad Walk where
  pure a := step fun i => .ok (a, i)
  bind := andThen

/-- The rounds of a loop. Each gives what the next begins with, or what the loop gives. -/
inductive Rounds (round : σ → Walk (σ ⊕ α)) : σ → Nat → WalkResult α → Prop where
  | stopped {s : σ} {i : Nat} {e : Stop} (last : round s i (.error e)) :
      Rounds round s i (.error e)
  | done {s : σ} {i j : Nat} {a : α} (last : round s i (.ok (.inr a, j))) :
      Rounds round s i (.ok (a, j))
  | again {s s' : σ} {i j : Nat} {r : WalkResult α} (first : round s i (.ok (.inl s', j)))
      (further : Rounds round s' j r) : Rounds round s i r

def loop (round : σ → Walk (σ ⊕ α)) (s : σ) : Walk α := Rounds round s

/-! ### Steps -/

def halt (e : Stop) : Walk α := step fun _ => .error e

/-- Where the cursor is. -/
def place : Walk Nat := step fun i => .ok (i, i)

def move (n : Nat) : Walk Unit := step fun i => .ok ((), i + n)

def stepBack : Walk Unit := step fun i => if i = 0 then .error .beforeStart else .ok ((), i - 1)

def report (start stop : Nat) (message : String) : Walk α :=
  halt (.reported ⟨start, stop - start, message⟩)

section text

variable (code : String)

/-- The byte `n` places further on, and zero behind the last. -/
def peek (n : Nat) : Walk UInt8 := step fun i => .ok (((bytesOf code)[i + n]?).getD 0, i)

/-- The bytes from one place up to another, which have to be whole characters of the text. -/
def cut (start stop : Nat) : Walk (List UInt8) := step fun i =>
  if start ≤ stop ∧ stop ≤ code.utf8ByteSize then
    if IsBoundary code start ∧ IsBoundary code stop then
      .ok (((bytesOf code).drop start).take (stop - start), i)
    else .error (.splitsCharacter start stop)
  else .error (.outside start stop)

def cutText (start stop : Nat) : Walk String := do
  let bytes ← cut code start stop
  match textOf? bytes with
  | some text => pure text
  | none => halt (.notText bytes)

/-! ### Pieces of a text -/

/-- Goes on by one byte as long as this is so of the byte at the cursor. -/
def goWhile (goesOn : UInt8 → Walk Bool) : Walk Unit :=
  loop (fun _ => do
    let b ← peek code 0
    let more ← goesOn b
    if more then do
      move 1
      pure (.inl ())
    else pure (.inr ())) ()

def skipBlanks : Walk Unit := goWhile code fun b => pure (isBlank b)

/-- Goes on as long as a byte matches behind those that are passed already. -/
def skipMatches (isMatch : UInt8 → List UInt8 → Bool) : Walk Unit := do
  let start ← place
  goWhile code fun b =>
    if b = 0 then pure false
    else do
      let here ← place
      let passed ← cut code start here
      pure (isMatch b passed)

/-- Digits match behind whatever is passed. -/
def matchesDigit (b : UInt8) (_ : List UInt8) : Bool := isDigit b

/-- Digits match in a word unless it begins with them. -/
def matchesWord (b : UInt8) (passed : List UInt8) : Bool :=
  isWordStart b || (isDigit b && !passed.isEmpty)

/-- Cuts out what matches, and leaves the cursor on the last byte of it. -/
def readMatching (isMatch : UInt8 → List UInt8 → Bool) : Walk String := do
  let start ← place
  skipMatches code isMatch
  let stop ← place
  if start = stop then pure ""
  else do
    let text ← cutText code start stop
    stepBack
    pure text

/-- Goes on to a delimiter, which has to come before a zero byte and the end of the text. -/
def goesOnTo (opening : Nat) (delimiter b : UInt8) : Walk Bool :=
  if b = delimiter then pure false
  else if b = 0 then report opening code.utf8ByteSize (missingClosing delimiter)
  else pure true

/-- Cuts out what stands between the byte at the cursor and the next delimiter, and leaves the
cursor on the delimiter. -/
def readDelimited (delimiter : UInt8) : Walk String := do
  let opening ← place
  move 1
  let start ← place
  goWhile code (goesOnTo code opening delimiter)
  let stop ← place
  cutText code start stop

def integerToken? (text : String) : Option Token := (int64OfText? text).map .integer

def floatToken? (text : String) : Option Token := (Binary64.ofText? text).map .float

/-- Cuts out a number up to the cursor, and leaves the cursor on the last byte of it. -/
def readUpTo (start : Nat) (denotes : String → Option Token) (failed : String) : Walk Token := do
  let stop ← place
  let text ← cutText code start stop
  stepBack
  match denotes text with
  | some t => pure t
  | none => do
    let last ← place
    report start (last + 1) failed

def skipSign : Walk Unit := do
  let sign ← peek code 0
  if charOf sign = '-' then move 1 else pure ()

/-- Goes on with a number behind its first digits. A point belongs to it only if a digit follows. -/
def readPlaces (start : Nat) (point next : UInt8) : Walk Token :=
  if charOf point = '.' ∧ isDigit next then do
    move 1
    skipMatches code matchesDigit
    readUpTo code start floatToken? "Failed to parse float"
  else readUpTo code start integerToken? "Failed to parse integer"

def readNumber : Walk Token := do
  let start ← place
  skipSign code
  skipMatches code matchesDigit
  let point ← peek code 0
  let next ← peek code 1
  readPlaces code start point next

/-! ### Tokens -/

/-- Reads what a colon begins. -/
def readSymbol (start : Nat) (next : UInt8) : Walk Token :=
  if charOf next = '/' then do
    move 1
    let source ← readDelimited code next
    pure (.symbolRegex source)
  else if charOf next = '"' then do
    move 1
    let name ← readDelimited code next
    pure (.symbol name)
  else if isWordStart next then do
    move 1
    let name ← readMatching code matchesWord
    pure (.symbol name)
  else report start (start + 1) "Expected symbol name"

/-- Reads a token and leaves the cursor on the last byte of it. The bytes at the cursor and behind
it say which it is. -/
def readToken (start : Nat) (b next afterNext : UInt8) : Walk Token :=
  if isWordStart b then do
    let word ← readMatching code matchesWord
    pure (wordToken word)
  else if isDigit b ∨ (charOf b = '-' ∧ isDigit next) then readNumber code
  else
    match charOf b with
    | '"' => do
      let text ← readDelimited code b
      pure (.string text)
    | '/' => do
      let source ← readDelimited code b
      pure (.regex source)
    | ':' => readSymbol code start next
    | '\x7b' => pure .leftCurly
    | '\x7d' => pure .rightCurly
    | '[' => pure .leftBracket
    | ']' => pure .rightBracket
    | ',' => pure .comma
    | '@' => pure .atSign
    | '*' => pure .star
    | '=' =>
      if charOf next = '>' then do
        move 1
        pure .fatArrow
      else report start (start + 1) "Expected \"=>\""
    | '.' =>
      if charOf next = '.' then
        if charOf afterNext = '=' then do
          move 2
          pure .inclusiveRange
        else do
          move 1
          pure .exclusiveRange
      else report start (start + 1) "Expected \"..\""
    | c => report start (start + 1) ("Unexpected character " ++ quotedChar c)

/-- Reads a lexeme and adds it to those before. -/
def addLexeme (before : List Lexeme) (start : Nat) (b : UInt8) :
    Walk (List Lexeme ⊕ List Lexeme) := do
  let next ← peek code 1
  let afterNext ← peek code 2
  let t ← readToken code start b next afterNext
  let last ← place
  move 1
  pure (.inl (before ++ [⟨t, start, last + 1⟩]))

/-- One round of the lexer. A zero byte ends the text, as the end does. -/
def lexRound (before : List Lexeme) : Walk (List Lexeme ⊕ List Lexeme) := do
  skipBlanks code
  let start ← place
  let b ← peek code 0
  if b = 0 then pure (.inr before) else addLexeme code before start b

/-- The lexemes of a text, from its start on. -/
def lexing : Walk (List Lexeme) := loop (lexRound code) []

end text

/-! ### Walks that end -/

/-- From this place a walk ends, and this is all that it can come to. -/
def Ends (m : Walk α) (i : Nat) (r : WalkResult α) : Prop := ∀ r', m i r' ↔ r' = r

theorem ends_step {f : Nat → WalkResult α} {i : Nat} {r : WalkResult α} (h : f i = r) :
    Ends (step f) i r := by
  intro r'
  rw [← h]
  exact Iff.rfl

theorem ends_pure (a : α) (i : Nat) : Ends (pure a) i (.ok (a, i)) := ends_step rfl

theorem ends_place (i : Nat) : Ends place i (.ok (i, i)) := ends_step rfl

theorem ends_move (n i : Nat) : Ends (move n) i (.ok ((), i + n)) := ends_step rfl

theorem ends_stepBack (i : Nat) : Ends stepBack (i + 1) (.ok ((), i)) := ends_step rfl

theorem ends_report (start stop : Nat) (message : String) (i : Nat) :
    Ends (report start stop message : Walk α) i
      (.error (.reported ⟨start, stop - start, message⟩)) :=
  ends_step rfl

/-- A walk that ends goes on with the next one. -/
theorem Ends.bind {m : Walk α} {f : α → Walk β} {i j : Nat} {a : α} {r : WalkResult β}
    (h : Ends m i (.ok (a, j))) (hOn : Ends (f a) j r) : Ends (m >>= f) i r := by
  intro r'
  rw [← hOn r']
  constructor
  · rintro (⟨e, hStop, -⟩ | ⟨b, k, hFirst, hNext⟩)
    · cases (h _).1 hStop
    · cases (h _).1 hFirst
      exact hNext
  · intro hNext
    exact .inr ⟨a, j, (h _).2 rfl, hNext⟩

theorem Ends.bind_error {m : Walk α} {f : α → Walk β} {i : Nat} {e : Stop}
    (h : Ends m i (.error e)) : Ends (m >>= f) i (.error e) := by
  intro r'
  constructor
  · rintro (⟨e', hStop, rfl⟩ | ⟨b, k, hFirst, -⟩)
    · cases (h _).1 hStop
      rfl
    · cases (h _).1 hFirst
  · rintro rfl
    exact .inl ⟨e, (h _).2 rfl, rfl⟩

section loop

variable {round : σ → Walk (σ ⊕ α)} {s s' : σ} {i j : Nat} {r : WalkResult α}

theorem Ends.loop_stopped {e : Stop} (h : Ends (round s) i (.error e)) :
    Ends (loop round s) i (.error e) := by
  intro r'
  constructor
  · rintro (last | last | ⟨first, -⟩) <;> cases (h _).1 ‹_›
    rfl
  · rintro rfl
    exact .stopped ((h _).2 rfl)

theorem Ends.loop_done {a : α} (h : Ends (round s) i (.ok (.inr a, j))) :
    Ends (loop round s) i (.ok (a, j)) := by
  intro r'
  constructor
  · rintro (last | last | ⟨first, -⟩) <;> cases (h _).1 ‹_›
    rfl
  · rintro rfl
    exact .done ((h _).2 rfl)

/-- A loop goes on behind a round that does not end it. -/
theorem Ends.loop_again (h : Ends (round s) i (.ok (.inl s', j))) (hOn : Ends (loop round s') j r) :
    Ends (loop round s) i r := by
  intro r'
  rw [← hOn r']
  constructor
  · rintro (last | last | ⟨first, further⟩)
    · cases (h _).1 last
    · cases (h _).1 last
    · cases (h _).1 first
      exact further
  · exact .again ((h _).2 rfl)

end loop

section goWhile

variable {code : String} {goesOn : UInt8 → Walk Bool} {i : Nat} {r : WalkResult Unit}

theorem drop_succ {b : UInt8} {rest : List UInt8} (hBytes : (bytesOf code).drop i = b :: rest) :
    (bytesOf code).drop (i + 1) = rest := by
  rw [← List.drop_drop, hBytes, List.drop_one, List.tail_cons]

/-- The byte at the cursor, or zero behind the last. -/
theorem ends_peek {bytes : List UInt8} (hBytes : (bytesOf code).drop i = bytes) (n : Nat) :
    Ends (peek code n) i (.ok (bytes[n]?.getD 0, i)) := by
  rw [← hBytes, List.getElem?_drop]
  exact ends_step rfl

/-- A loop over bytes passes each byte that it goes on at. -/
theorem Ends.goWhile_on {b : UInt8} {rest : List UInt8}
    (hBytes : (bytesOf code).drop i = b :: rest) (h : Ends (goesOn b) i (.ok (true, i)))
    (hOn : Ends (goWhile code goesOn) (i + 1) r) : Ends (goWhile code goesOn) i r := by
  refine .loop_again (.bind (ends_peek hBytes 0) (.bind h ?_)) hOn
  exact .bind (ends_move 1 i) (ends_pure _ _)

theorem Ends.goWhile_done {bytes : List UInt8} (hBytes : (bytesOf code).drop i = bytes)
    (h : Ends (goesOn (bytes.head?.getD 0)) i (.ok (false, i))) :
    Ends (goWhile code goesOn) i (.ok ((), i)) := by
  rw [List.head?_eq_getElem?] at h
  exact .loop_done (.bind (ends_peek hBytes 0) (.bind h (ends_pure _ _)))

theorem Ends.goWhile_stopped {bytes : List UInt8} (hBytes : (bytesOf code).drop i = bytes)
    {e : Stop} (h : Ends (goesOn (bytes.head?.getD 0)) i (.error e)) :
    Ends (goWhile code goesOn) i (.error e) := by
  rw [List.head?_eq_getElem?] at h
  exact .loop_stopped (.bind (ends_peek hBytes 0) h.bind_error)

/-- A loop that goes on at each of some bytes comes to what it comes to behind them. -/
theorem Ends.goWhile_run {run behind : List UInt8} (hBytes : (bytesOf code).drop i = run ++ behind)
    (hRun : ∀ n b, run[n]? = some b → Ends (goesOn b) (i + n) (.ok (true, i + n)))
    (hBehind : Ends (goWhile code goesOn) (i + run.length) r) : Ends (goWhile code goesOn) i r := by
  induction run generalizing i with
  | nil => exact hBehind
  | cons b run ih =>
      have hRest : (bytesOf code).drop (i + 1) = run ++ behind := drop_succ hBytes
      refine .goWhile_on hBytes (hRun 0 b rfl) (ih hRest ?_ ?_)
      · intro n c hc
        rw [Nat.add_assoc, Nat.add_comm 1]
        exact hRun (n + 1) c hc
      · rwa [Nat.add_assoc, Nat.add_comm 1]

end goWhile

end Walk

end CaseMatch.Surface
