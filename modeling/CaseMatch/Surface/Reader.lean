import CaseMatch.Pattern.Template
import CaseMatch.Surface.Error

/-!
Reading values and patterns from tokens:

    value   := nil | true | false | 12 | -3 | 1.5 | "text" | :sym
             | [value, ...] | (value => value, ...) in braces
    pattern := primary [@ name]
    item    := pattern | * primary [@ name]
    primary := _ | name | Kind | int..int | int..=int | /regex/ | :/regex/
             | [item, ...] | (key => pattern, ...) in braces | scalar
    key     := value | [value]

Every reading says which tokens it left, and that they are fewer than before.
-/

namespace CaseMatch.Surface

/-- Fewer lexemes than before. -/
abbrev Rest (ts : List Lexeme) : Type := { rest : List Lexeme // rest.length < ts.length }

namespace Rest

/-- What is behind the first lexeme. -/
def tail (l : Lexeme) (rest : List Lexeme) : Rest (l :: rest) := ⟨rest, by simp⟩

/-- What is fewer than some is fewer than more. -/
def weaken {us ts : List Lexeme} (r : Rest us) (h : us.length ≤ ts.length) : Rest ts :=
  ⟨r.val, Nat.lt_of_lt_of_le r.property h⟩

end Rest

/-- Something read from lexemes, and those that are left. -/
abbrev Reading (α : Type) (ts : List Lexeme) : Type := Except ReadError (α × Rest ts)

/-- Reads one lexeme, which has to be there. -/
def advance (stop : Nat) (expected : Expected) (ts : List Lexeme) : Reading Lexeme ts :=
  match ts with
  | [] => .error (.unexpectedEnd expected stop)
  | l :: rest => .ok (l, .tail l rest)

/-- Reads a token that has no choice. -/
def expect (stop : Nat) (t : Token) (ts : List Lexeme) : Except ReadError (Rest ts) := do
  let (l, rest) ← advance stop (.token t) ts
  if l.token = t then .ok rest else .error (.unexpectedToken (.token t) l)

/-- Reads a list from behind its opening bracket to its closing one. Commas stand between the
items, and one may stand behind the last. -/
def list {α : Type} (stop : Nat) (close : Token) (bound : Nat)
    (item : (us : List Lexeme) → us.length ≤ bound → Reading α us)
    (ts : List Lexeme) (within : ts.length ≤ bound) : Reading (List α) ts :=
  match ts, within with
  | [], within =>
    match item [] within with
    | .error e => .error e
    | .ok (_, rest) => absurd rest.property (by simp)
  | l :: rest, within =>
    if l.token = close then .ok ([], .tail l rest)
    else do
      let (x, after) ← item (l :: rest) within
      match after with
      | ⟨[], _⟩ => .error (.unexpectedEnd (.token close) stop)
      | ⟨m :: others, shorter⟩ =>
        if m.token = .comma then do
          let (xs, left) ← list stop close bound item others (by
            simp only [List.length_cons] at shorter within ⊢; omega)
          .ok (x :: xs, left.weaken (by simp only [List.length_cons] at shorter ⊢; omega))
        else if m.token = close then
          .ok ([x], ⟨others, by simp only [List.length_cons] at shorter ⊢; omega⟩)
        else .error (.unexpectedToken (.token close) m)
termination_by ts.length
decreasing_by simp only [List.length_cons] at shorter ⊢; omega

/-- The value that a token denotes by itself. -/
def Token.scalar? : Token → Option Value
  | .nil => some .nil
  | .boolean b => some (.boolean b)
  | .integer n => some (.integer n)
  | .float x => some (.float x)
  | .string text => some (.string text)
  | .symbol name => some (.symbol name)
  | _ => none

/-- Reads a value. -/
def value (stop : Nat) (ts : List Lexeme) : Reading Value ts :=
  match ts with
  | [] => .error (.unexpectedEnd .value stop)
  | l :: rest =>
    match l.token with
    | .leftBracket => do
      let (items, after) ← list stop .rightBracket rest.length
        (fun us _ => value stop us) rest (Nat.le_refl _)
      .ok (.array items, after.weaken (by simp))
    | .leftCurly => do
      let (pairs, after) ← list stop .rightCurly rest.length
        (fun us _ => do
          let (key, behindKey) ← value stop us
          let behindArrow ← expect stop .fatArrow behindKey.val
          let (v, after) ← value stop behindArrow.val
          .ok ((key, v), after.weaken (by
            have := behindArrow.property; have := behindKey.property; omega)))
        rest (Nat.le_refl _)
      .ok (.map (Dict.ofList pairs), after.weaken (by simp))
    | t =>
      match t.scalar? with
      | some v => .ok (v, .tail l rest)
      | none => .error (.unexpectedToken .value l)
termination_by ts.length
decreasing_by
  all_goals simp only [List.length_cons]
  all_goals try have := behindArrow.property
  all_goals try have := behindKey.property
  all_goals omega

/-- Reads a name. -/
def identifier (stop : Nat) (ts : List Lexeme) : Reading (String × Span) ts := do
  let (l, rest) ← advance stop .identifier ts
  match l.token with
  | .identifier name => .ok ((name, l.span), rest)
  | _ => .error (.unexpectedToken .identifier l)

/-- Turns an error of a pattern into one of the text it was written in. -/
def located {α : Type} (span : Span) : Except PatternError α → Except ReadError α
  | .ok a => .ok a
  | .error e => .error (.invalid (.pattern e) span)

/-- Reads a name behind an at sign, if there is one, and lets it be given to what stands before. -/
def naming {α : Type} (stop : Nat) (ts : List Lexeme) (named : String → Except PatternError α)
    (unnamed : α) (ts' : List Lexeme) (h : ts'.length < ts.length) : Reading α ts :=
  match ts', h with
  | l :: rest, h =>
    if l.token = .atSign then do
      let ((name, span), after) ← identifier stop rest
      let a ← located span (named name)
      .ok (a, after.weaken (by simp only [List.length_cons] at h; omega))
    else .ok (unnamed, ⟨l :: rest, h⟩)
  | [], h => .ok (unnamed, ⟨[], h⟩)

/-- Reads the upper bound of a range, behind its sign. -/
def rangeFrom (stop : Nat) (start : Int64) (inclusive : Bool) (ts : List Lexeme) :
    Reading Template ts := do
  let (l, rest) ← advance stop .integer ts
  match l.token with
  | .integer last => .ok (.range ⟨start, last, inclusive⟩, rest)
  | _ => .error (.unexpectedToken .integer l)

/-- Reads a key of a map pattern. A key in brackets is optional. -/
def mapKey (stop : Nat) (ts : List Lexeme) : Reading MapKey ts :=
  match ts with
  | [] => .error (.unexpectedEnd .value stop)
  | l :: rest =>
    if l.token = .leftBracket then do
      let (key, behindKey) ← value stop rest
      let after ← expect stop .rightBracket behindKey.val
      .ok (.optional key, after.weaken (by
        have := behindKey.property; simp only [List.length_cons]; omega))
    else do
      let (key, after) ← value stop (l :: rest)
      .ok (.required key, after)

/-- Reads a pattern without brackets. An integer can be the start of a range. -/
def plain [RegexEngine] (stop : Nat) (l : Lexeme) (rest : List Lexeme) :
    Reading Template (l :: rest) :=
  let here {α : Type} (result : Except PatternError α) (template : α → Template) :
      Reading Template (l :: rest) := do
    .ok (template (← located l.span result), .tail l rest)
  match l.token with
  | .wildcard => .ok (.pattern .wildcard, .tail l rest)
  | .identifier name => here (Pattern.var name) .pattern
  | .typeName name =>
    match Kind.ofName name with
    | .ok kind => .ok (.kind kind, .tail l rest)
    | .error e => .error (.invalid (.kind e) l.span)
  | .regex source => here (Pattern.stringMatching source) .pattern
  | .symbolRegex source => here (Pattern.symbolMatching source) .pattern
  | .integer start =>
    match rest with
    | ⟨.exclusiveRange, _⟩ :: behind => do
      let (range, after) ← rangeFrom stop start false behind
      .ok (range, after.weaken (by simp only [List.length_cons]; omega))
    | ⟨.inclusiveRange, _⟩ :: behind => do
      let (range, after) ← rangeFrom stop start true behind
      .ok (range, after.weaken (by simp only [List.length_cons]; omega))
    | others => .ok (.literal (.integer start), .tail l others)
  | t =>
    match t.scalar? with
    | some v => .ok (.literal v, .tail l rest)
    | none => .error (.unexpectedToken .pattern l)

mutual

/-- Reads an item: a pattern, or a star with what the elements behind the others have to be. -/
def item [RegexEngine] (stop : Nat) (ts : List Lexeme) : Reading Template ts :=
  match ts with
  | [] => primary stop []
  | l :: rest =>
    if l.token = .star then do
      let (inner, after) ← primary stop rest
      let each ← located l.span inner.toPattern
      let (tail, after) ← naming stop rest (TailPattern.ofPattern each).named (.ofPattern each)
        after.val after.property
      .ok (.tail tail, after.weaken (by simp))
    else do
      let (inner, after) ← primary stop (l :: rest)
      naming stop (l :: rest) (fun name => (inner.bind name).map .pattern) inner
        after.val after.property
termination_by (ts.length, 1)

/-- Reads what can stand before an at sign. -/
def primary [RegexEngine] (stop : Nat) (ts : List Lexeme) : Reading Template ts :=
  match ts with
  | [] => .error (.unexpectedEnd .pattern stop)
  | l :: rest =>
    match l.token with
    | .leftBracket => do
      let (items, after) ← list stop .rightBracket rest.length
        (fun us _ => item stop us) rest (Nat.le_refl _)
      let p ← located l.span (Template.array items).toPattern
      .ok (.pattern p, after.weaken (by simp))
    | .leftCurly => do
      let (entries, after) ← list stop .rightCurly rest.length
        (fun us _ => do
          let (key, behindKey) ← mapKey stop us
          let behindArrow ← expect stop .fatArrow behindKey.val
          let (template, after) ← item stop behindArrow.val
          .ok ((key, template), after.weaken (by
            have := behindArrow.property; have := behindKey.property; omega)))
        rest (Nat.le_refl _)
      let p ← located l.span (Template.map entries).toPattern
      .ok (.pattern p, after.weaken (by simp))
    | _ => plain stop l rest
termination_by (ts.length, 0)

end

/-- Nothing may be left. -/
def finished : List Lexeme → Except ReadError Unit
  | [] => .ok ()
  | l :: _ => .error (.unexpectedToken .endOfInput l)

/-- The value that lexemes denote, of a text that ends at `stop`. -/
def readValue (stop : Nat) (ts : List Lexeme) : Except ReadError Value := do
  let (v, rest) ← value stop ts
  finished rest.val
  .ok v

/-- The place of the next lexeme, or the end of the text. -/
def nextSpan (stop : Nat) : List Lexeme → Span
  | [] => ⟨stop, stop⟩
  | l :: _ => l.span

/-- The pattern that lexemes denote, of a text that ends at `stop`. -/
def readPattern [RegexEngine] (stop : Nat) (ts : List Lexeme) : Except ReadError Pattern := do
  let (template, rest) ← item stop ts
  finished rest.val
  located (nextSpan stop ts) template.toPattern

/-- The next lexeme, which has to be there. -/
def currentLexeme (stop : Nat) (expected : Expected) (ts : List Lexeme) :
    Except ReadError Lexeme :=
  (advance stop expected ts).map (·.1)

/-- The lexemes of a text. -/
def lexemes (code : String) : Except ReadError (List Lexeme) :=
  match lex code with
  | .ok ts => .ok ts
  | .error f => .error (.fault f)

end Surface

/-- The value that a text denotes. -/
def parseValue (code : String) : Except Surface.ReadError Value := do
  Surface.readValue code.utf8ByteSize (← Surface.lexemes code)

/-- The pattern that a text denotes. -/
def parsePattern [RegexEngine] (code : String) : Except Surface.ReadError Pattern := do
  Surface.readPattern code.utf8ByteSize (← Surface.lexemes code)

end CaseMatch
