import CaseMatch.Surface.Reader

/-!
Reading as a cursor does it. The lexemes stand still and a cursor moves among them, mostly on and
in one place back. The routines call each other, and one that reads a list calls itself for what
stands behind a comma. Nothing here is safe by itself: a routine need not end, it can leave the
lexemes on one side and can get stuck before the first of them on the other.
-/

namespace CaseMatch.Surface

/-- The routines that read. A range is read from its sign on, and a list from behind its opening
bracket. -/
inductive Routine where
  | value
  | pair
  | item
  | primary
  | range (start : Int64)
  | entry
  | list (close : Token) (of : Routine)

/-- What a routine gives. -/
@[reducible]
def Routine.Result : Routine → Type
  | .value => Value
  | .pair => Value × Value
  | .item => Template
  | .primary => Template
  | .range _ => Template
  | .entry => MapKey × Template
  | .list _ of => List of.Result

/-- Steps of a routine. The next ones depend on what is seen at the cursor, and on what a routine
gives that is called. -/
inductive Steps (α : Type) where
  | done (a : α)
  | refuse (e : ReadError)
  | look (next : Option Lexeme → Steps α)
  | forward (next : Steps α)
  | back (next : Steps α)
  | call (r : Routine) (next : r.Result → Steps α)

namespace Steps

variable {α β : Type}

/-- Some steps and then others. -/
def andThen (f : α → Steps β) : Steps α → Steps β
  | .done a => f a
  | .refuse e => .refuse e
  | .look next => .look fun seen => (next seen).andThen f
  | .forward next => .forward (next.andThen f)
  | .back next => .back (next.andThen f)
  | .call r next => .call r fun result => (next result).andThen f

instance : Monad Steps where
  pure := .done
  bind m f := m.andThen f

theorem id_map (m : Steps α) : id <$> m = m := by
  show m.andThen (fun a => .done (id a)) = m
  induction m with
  | done | refuse => rfl
  | look next ih | call r next ih => simp only [andThen, ih]
  | forward next ih | back next ih => rw [andThen, ih]

theorem bind_assoc {γ : Type} (m : Steps α) (f : α → Steps β) (g : β → Steps γ) :
    m >>= f >>= g = m >>= fun a => f a >>= g := by
  show (m.andThen f).andThen g = m.andThen fun a => (f a).andThen g
  induction m with
  | done | refuse => rfl
  | look next ih | call r next ih => simp only [andThen, ih]
  | forward next ih | back next ih => rw [andThen, andThen, andThen, ih]

instance : LawfulMonad Steps := LawfulMonad.mk' _ id_map (fun _ _ => rfl) bind_assoc

def seen : Steps (Option Lexeme) := .look .done

def goOn : Steps Unit := .forward (.done ())

def goBack : Steps Unit := .back (.done ())

def perform (r : Routine) : Steps r.Result := .call r .done

def settle : Except ReadError α → Steps α
  | .ok a => .done a
  | .error e => .refuse e

variable (stop : Nat)

/-- Passes a lexeme, which has to be there. -/
def advance (expected : Expected) : Steps Lexeme := do
  match ← seen with
  | some l => do
    goOn
    pure l
  | none => .refuse (.unexpectedEnd expected stop)

/-- Passes a token if it is there. -/
def eat (t : Token) : Steps Bool := do
  match ← seen with
  | some l =>
    if l.token = t then do
      goOn
      pure true
    else pure false
  | none => pure false

/-- Passes a token, which has to be there. -/
def expect (t : Token) : Steps Unit := do
  let l ← advance stop (.token t)
  if l.token = t then pure () else .refuse (.unexpectedToken (.token t) l)

/-- The place of what is at the cursor, or the end of the text. -/
def placeSeen : Steps Span := do
  match ← seen with
  | some l => pure l.span
  | none => pure ⟨stop, stop⟩

/-! ### Routines -/

def value : Steps Value := do
  let l ← advance stop .value
  match l.token with
  | .leftBracket => do
    let items ← perform (.list .rightBracket .value)
    pure (.array items)
  | .leftCurly => do
    let pairs ← perform (.list .rightCurly .pair)
    pure (.map (Dict.ofList pairs))
  | t =>
    match t.scalar? with
    | some v => pure v
    | none => .refuse (.unexpectedToken .value l)

def pair : Steps (Value × Value) := do
  let key ← perform .value
  expect stop .fatArrow
  let v ← perform .value
  pure (key, v)

def identifier : Steps (String × Span) := do
  let l ← advance stop .identifier
  match l.token with
  | .identifier name => pure (name, l.span)
  | _ => .refuse (.unexpectedToken .identifier l)

/-- Gives a name to what stands before an at sign, if there is one. -/
def naming (named : String → Except PatternError α) (unnamed : α) : Steps α := do
  if ← eat .atSign then do
    let (name, span) ← identifier stop
    settle (located span (named name))
  else pure unnamed

def item : Steps Template := do
  let span ← placeSeen stop
  if ← eat .star then do
    let inner ← perform .primary
    let each ← settle (located span inner.toPattern)
    let tail ← naming stop (TailPattern.ofPattern each).named (.ofPattern each)
    pure (.tail tail)
  else do
    let inner ← perform .primary
    naming stop (fun name => (inner.bind name).map .pattern) inner

/-- Steps back to a literal, which is read as a value. -/
def literal : Steps Template := do
  goBack
  let v ← perform .value
  pure (.literal v)

def primary [RegexEngine] : Steps Template := do
  let l ← advance stop .pattern
  match l.token with
  | .wildcard => pure (.pattern .wildcard)
  | .identifier name => do
    let p ← settle (located l.span (Pattern.var name))
    pure (.pattern p)
  | .typeName name =>
    match Kind.ofName name with
    | .ok kind => pure (.kind kind)
    | .error e => .refuse (.invalid (.kind e) l.span)
  | .regex source => do
    let p ← settle (located l.span (Pattern.stringMatching source))
    pure (.pattern p)
  | .symbolRegex source => do
    let p ← settle (located l.span (Pattern.symbolMatching source))
    pure (.pattern p)
  | .leftBracket => do
    let items ← perform (.list .rightBracket .item)
    let p ← settle (located l.span (Template.array items).toPattern)
    pure (.pattern p)
  | .leftCurly => do
    let entries ← perform (.list .rightCurly .entry)
    let p ← settle (located l.span (Template.map entries).toPattern)
    pure (.pattern p)
  | .integer start => do
    match ← seen with
    | some ⟨.exclusiveRange, _⟩ => perform (.range start)
    | some ⟨.inclusiveRange, _⟩ => perform (.range start)
    | _ => literal
  | .nil | .boolean _ | .float _ | .string _ | .symbol _ => literal
  | _ => .refuse (.unexpectedToken .pattern l)

def range (start : Int64) : Steps Template := do
  let inclusive ← eat .inclusiveRange
  if inclusive then pure () else expect stop .exclusiveRange
  let l ← advance stop .integer
  match l.token with
  | .integer last => pure (.range ⟨start, last, inclusive⟩)
  | _ => .refuse (.unexpectedToken .integer l)

/-- A key in brackets is optional. -/
def key : Steps MapKey := do
  if ← eat .leftBracket then do
    let v ← perform .value
    expect stop .rightBracket
    pure (.optional v)
  else do
    let v ← perform .value
    pure (.required v)

def entry : Steps (MapKey × Template) := do
  let k ← key stop
  expect stop .fatArrow
  let t ← perform .item
  pure (k, t)

/-- One round of a list. Behind a comma comes the next. -/
def list (close : Token) (of : Routine) : Steps (List of.Result) := do
  if ← eat close then pure []
  else do
    let x ← perform of
    if ← eat .comma then do
      let xs ← perform (.list close of)
      pure (x :: xs)
    else do
      expect stop close
      pure [x]

end Steps

variable [RegexEngine]

/-- What a routine does in a text that ends at `stop`. -/
def Routine.steps (stop : Nat) : (r : Routine) → Steps r.Result
  | .value => Steps.value stop
  | .pair => Steps.pair stop
  | .item => Steps.item stop
  | .primary => Steps.primary stop
  | .range start => Steps.range stop start
  | .entry => Steps.entry stop
  | .list close of => Steps.list stop close of

/-- Steps run from a place of the cursor to their end. They give something or refuse the lexemes,
the cursor is somewhere then, and `path` is where it went, place by place. Steps that do not end
have no run, nor have those that go back from the first lexeme. -/
inductive Runs (stop : Nat) (ts : List Lexeme) :
    {α : Type} → Steps α → Nat → Except ReadError α → Nat → List Nat → Prop where
  | done {α : Type} (a : α) (i : Nat) : Runs stop ts (.done a) i (.ok a) i []
  | refuse {α : Type} (e : ReadError) (i : Nat) :
      Runs stop ts (.refuse e : Steps α) i (.error e) i []
  | look {α : Type} {next : Option Lexeme → Steps α} {i j : Nat} {x : Except ReadError α}
      {path : List Nat} (rest : Runs stop ts (next ts[i]?) i x j path) :
      Runs stop ts (.look next) i x j path
  | forward {α : Type} {next : Steps α} {i j : Nat} {x : Except ReadError α} {path : List Nat}
      (rest : Runs stop ts next (i + 1) x j path) :
      Runs stop ts (.forward next) i x j ((i + 1) :: path)
  | back {α : Type} {next : Steps α} {i j : Nat} {x : Except ReadError α} {path : List Nat}
      (rest : Runs stop ts next i x j path) : Runs stop ts (.back next) (i + 1) x j (i :: path)
  | call {α : Type} {r : Routine} {next : r.Result → Steps α} {i j k : Nat} {a : r.Result}
      {x : Except ReadError α} {path path' : List Nat}
      (own : Runs stop ts (r.steps stop) i (.ok a) j path)
      (rest : Runs stop ts (next a) j x k path') :
      Runs stop ts (.call r next) i x k (path ++ path')
  | callRefused {α : Type} {r : Routine} {next : r.Result → Steps α} {i j : Nat} {e : ReadError}
      {path : List Nat} (own : Runs stop ts (r.steps stop) i (.error e) j path) :
      Runs stop ts (.call r next) i (.error e) j path

namespace Runs

variable {stop : Nat} {ts : List Lexeme} {α : Type} {m : Steps α} {i j j' : Nat}
  {x x' : Except ReadError α} {path path' : List Nat}

/-- There is but one run of some steps from a place. -/
theorem unique (h : Runs stop ts m i x j path) (h' : Runs stop ts m i x' j' path') :
    x' = x ∧ j' = j ∧ path' = path := by
  induction h generalizing j' path' with
  | done a i =>
      cases h'
      exact ⟨rfl, rfl, rfl⟩
  | refuse e i =>
      cases h'
      exact ⟨rfl, rfl, rfl⟩
  | look rest ih =>
      cases h' with
      | look rest' => exact ih rest'
  | forward rest ih =>
      cases h' with
      | forward rest' =>
          obtain ⟨rfl, rfl, rfl⟩ := ih rest'
          exact ⟨rfl, rfl, rfl⟩
  | back rest ih =>
      cases h' with
      | back rest' =>
          obtain ⟨rfl, rfl, rfl⟩ := ih rest'
          exact ⟨rfl, rfl, rfl⟩
  | call own rest ihOwn ihRest =>
      cases h' with
      | call own' rest' =>
          obtain ⟨hSame, rfl, rfl⟩ := ihOwn own'
          cases hSame
          obtain ⟨rfl, rfl, rfl⟩ := ihRest rest'
          exact ⟨rfl, rfl, rfl⟩
      | callRefused own' =>
          obtain ⟨hSame, -, -⟩ := ihOwn own'
          cases hSame
  | callRefused own ih =>
      cases h' with
      | call own' rest' =>
          obtain ⟨hSame, -, -⟩ := ih own'
          cases hSame
      | callRefused own' =>
          obtain ⟨hSame, rfl, rfl⟩ := ih own'
          cases hSame
          exact ⟨rfl, rfl, rfl⟩

/-- A cursor that has gone nowhere is where it was, and otherwise at a place of its path. -/
theorem mem_path (h : Runs stop ts m i x j path) : j = i ∨ j ∈ path := by
  induction h with
  | done | refuse => exact .inl rfl
  | look rest ih => exact ih
  | forward rest ih | back rest ih => exact .inr (by simpa using ih)
  | call own rest ihOwn ihRest =>
      rcases ihRest with rfl | hRest
      · exact ihOwn.imp id (List.mem_append_left _)
      · exact .inr (List.mem_append_right _ hRest)
  | callRefused own ih => exact ih

/-- Where the path is within some places, so is the end of it. -/
theorem finish (h : Runs stop ts m i x j path) {last : Nat} (hi : i ≤ last)
    (within : ∀ k ∈ path, i ≤ k ∧ k ≤ last) : i ≤ j ∧ j ≤ last := by
  rcases h.mem_path with rfl | hMem
  · exact ⟨Nat.le_refl j, hi⟩
  · exact within j hMem

end Runs

end CaseMatch.Surface
