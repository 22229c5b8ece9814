import CaseMatch.Case.Error
import CaseMatch.Surface.Bytes
import CaseMatch.Surface.Token

/-!
Reading tokens. Each rule looks at the bytes that are left of a text and says how many of them
it takes; `lex` applies the rules until nothing is left, or until a zero byte. Every token takes
at least one byte, which is why `lex` comes to an end.
-/

namespace CaseMatch.Surface

/-- Why a text has no tokens: a place that no rule allows, or bytes that are no text. -/
inductive Fault where
  | unlexable (label : Label)
  | notText (bytes : List UInt8)
deriving DecidableEq

namespace Fault

/-- The fault of a text that stands further on in a longer one. -/
def shift (distance : Nat) : Fault → Fault
  | .unlexable label => .unlexable { label with offset := distance + label.offset }
  | .notText bytes => .notText bytes

/-- A fault in the first `length` bytes of what is left, which begins `offset` bytes further on. -/
def here (offset length : Nat) (remark : String) : Fault := .unlexable ⟨offset, length, remark⟩

end Fault

/-- Takes bytes for a text. -/
def slice (bytes : List UInt8) : Except Fault String :=
  match textOf? bytes with
  | some text => .ok text
  | none => .error (.notText bytes)

/-- How many bytes of a word stand at the start. -/
def wordLength : List UInt8 → Nat
  | [] => 0
  | b :: rest => if isWordStart b then (rest.takeWhile isWordPart).length + 1 else 0

/-- How many digits stand at the start. -/
def digitsLength (bytes : List UInt8) : Nat := (bytes.takeWhile isDigit).length

def startsWithDigit : List UInt8 → Bool
  | [] => false
  | b :: _ => isDigit b

/-- How many bytes of a number stand at the start, and whether it has a point. A point belongs to
the number only if a digit follows it. -/
def numberLength (bytes : List UInt8) : Nat × Bool :=
  let sign := match bytes with
    | b :: _ => if charOf b = '-' then 1 else 0
    | [] => 0
  let whole := sign + digitsLength (bytes.drop sign)
  match bytes.drop whole with
  | b :: places =>
    if charOf b = '.' ∧ startsWithDigit places then (whole + 1 + digitsLength places, true)
    else (whole, false)
  | [] => (whole, false)

/-- The token of the number at the start. -/
def number (bytes : List UInt8) : Except Fault Token := do
  let (length, hasPoint) := numberLength bytes
  let text ← slice (bytes.take length)
  if hasPoint then
    match Binary64.ofText? text with
    | some x => .ok (.float x)
    | none => .error (.here 0 length "Failed to parse float")
  else
    match int64OfText? text with
    | some n => .ok (.integer n)
    | none => .error (.here 0 length "Failed to parse integer")

/-- What stands before the next delimiter, and whether there is one. A zero byte ends the search
as the end of the text does. -/
def delimited (delimiter : UInt8) (bytes : List UInt8) : List UInt8 × Bool :=
  let body := bytes.takeWhile fun b => b != delimiter && b != 0
  (body, (bytes.drop body.length).head? == some delimiter || delimiter == 0)

def missingClosing (delimiter : UInt8) : String :=
  "Missing closing " ++ quotedChar (charOf delimiter)

/-- The text between delimiters, and how many bytes it takes together with them. -/
def enclosed (delimiter : UInt8) (opening : UInt8) (rest : List UInt8) :
    Except Fault (String × Nat) := do
  let (body, closed) := delimited delimiter rest
  if closed then .ok (← slice body, body.length + 2)
  else .error (.here 0 (opening :: rest).length (missingClosing delimiter))

/-- The token of a word. -/
def wordToken (word : String) : Token :=
  match word with
  | "nil" => .nil
  | "true" => .boolean true
  | "false" => .boolean false
  | "_" => .wildcard
  | _ =>
    match word.toList with
    | c :: _ => if c.isUpper then .typeName word else .identifier word
    | [] => .identifier word

/-- The token behind a colon, and how many bytes it takes together with it. -/
def symbolToken : List UInt8 → Except Fault (Token × Nat)
  | [] => .error (.here 0 1 "Expected symbol name")
  | b :: rest =>
    let quotedBy (make : String → Token) : Except Fault (Token × Nat) :=
      match enclosed b b rest with
      | .ok (text, length) => .ok (make text, length + 1)
      | .error fault => .error (fault.shift 1)
    if charOf b = '/' then quotedBy .symbolRegex
    else if charOf b = '"' then quotedBy .symbol
    else if isWordStart b then do
      let length := wordLength (b :: rest)
      .ok (.symbol (← slice ((b :: rest).take length)), length + 1)
    else .error (.here 0 1 "Expected symbol name")

/-- The token at the start, and how many bytes it takes. -/
def token (b : UInt8) (rest : List UInt8) : Except Fault (Token × Nat) :=
  let next := (rest.head?.map charOf).getD '\x00'
  let afterNext := ((rest.drop 1).head?.map charOf).getD '\x00'
  if isWordStart b then do
    let length := wordLength (b :: rest)
    .ok (wordToken (← slice ((b :: rest).take length)), length)
  else if isDigit b ∨ (charOf b = '-' ∧ startsWithDigit rest) then do
    .ok (← number (b :: rest), (numberLength (b :: rest)).1)
  else
    match charOf b with
    | '"' => do
      let (text, length) ← enclosed b b rest
      .ok (.string text, length)
    | '/' => do
      let (source, length) ← enclosed b b rest
      .ok (.regex source, length)
    | ':' => symbolToken rest
    | '\x7b' => .ok (.leftCurly, 1)
    | '\x7d' => .ok (.rightCurly, 1)
    | '[' => .ok (.leftBracket, 1)
    | ']' => .ok (.rightBracket, 1)
    | ',' => .ok (.comma, 1)
    | '@' => .ok (.atSign, 1)
    | '*' => .ok (.star, 1)
    | '=' => if next = '>' then .ok (.fatArrow, 2) else .error (.here 0 1 "Expected \"=>\"")
    | '.' =>
      if next = '.' then
        if afterNext = '=' then .ok (.inclusiveRange, 3) else .ok (.exclusiveRange, 2)
      else .error (.here 0 1 "Expected \"..\"")
    | c => .error (.here 0 1 ("Unexpected character " ++ quotedChar c))

theorem length_pos_of_enclosed {d o : UInt8} {rest : List UInt8} {text : String} {n : Nat}
    (h : enclosed d o rest = .ok (text, n)) : 0 < n := by
  unfold enclosed at h
  simp only [bind, Except.bind] at h
  grind

theorem length_pos_of_symbolToken {rest : List UInt8} {t : Token} {n : Nat}
    (h : symbolToken rest = .ok (t, n)) : 0 < n := by
  unfold symbolToken at h
  simp only [bind, Except.bind] at h
  grind

theorem wordLength_pos {b : UInt8} {rest : List UInt8} (h : isWordStart b = true) :
    0 < wordLength (b :: rest) := by
  simp [wordLength, h]

theorem le_numberLength {bytes : List UInt8} {n : Nat}
    (h : n ≤ (match bytes with
      | b :: _ => if charOf b = '-' then 1 else 0
      | [] => 0) + digitsLength (bytes.drop (match bytes with
      | b :: _ => if charOf b = '-' then 1 else 0
      | [] => 0))) : n ≤ (numberLength bytes).1 := by
  unfold numberLength
  dsimp only
  split
  · split <;> simp only <;> omega
  · exact h

theorem numberLength_pos {b : UInt8} {rest : List UInt8}
    (h : isDigit b = true ∨ charOf b = '-' ∧ startsWithDigit rest = true) :
    0 < (numberLength (b :: rest)).1 := by
  apply le_numberLength
  by_cases sign : charOf b = '-'
  · simp [sign]
  · have digit : isDigit b = true := by grind
    simp [sign, digitsLength, digit]

/-- Every token takes a byte. -/
theorem length_pos_of_token {b : UInt8} {rest : List UInt8} {t : Token} {n : Nat}
    (h : token b rest = .ok (t, n)) : 0 < n := by
  have word := @wordLength_pos b rest
  have num := @numberLength_pos b rest
  have enc := @length_pos_of_enclosed b b rest
  have sym := @length_pos_of_symbolToken rest
  unfold token at h
  simp only [bind, Except.bind] at h
  split at h
  · grind
  · split at h
    · grind
    · split at h <;> grind

/-- The tokens of what is left of a text, of which `offset` bytes stand before. -/
def lexFrom (offset : Nat) (bytes : List UInt8) : Except Fault (List Lexeme) :=
  let blanks := (bytes.takeWhile isBlank).length
  let start := offset + blanks
  match _left : bytes.drop blanks with
  | [] => .ok []
  | b :: rest =>
    if b = 0 then .ok []
    else
      match _taken : token b rest with
      | .error fault => .error (fault.shift start)
      | .ok (t, length) => do
        let others ← lexFrom (start + length) ((b :: rest).drop length)
        .ok (⟨t, ⟨start, start + length⟩⟩ :: others)
termination_by bytes.length
decreasing_by
  have := length_pos_of_token _taken
  have := congrArg List.length _left
  simp only [List.length_drop, List.length_cons] at this ⊢
  omega

/-- The tokens of a text. -/
def lex (code : String) : Except Fault (List Lexeme) := lexFrom 0 (bytesOf code)

end CaseMatch.Surface
