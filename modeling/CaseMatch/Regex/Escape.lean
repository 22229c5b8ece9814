import CaseMatch.Regex.Expression
import CaseMatch.Regex.Property

/-!
The flags under which an expression is read, the blanks that may be left out, and the sequences
that begin with a backslash. A reader takes the characters that are left and gives what it read
with the characters that are left then, or nothing if the text is no expression.
-/

namespace CaseMatch.Regex

/-- How letters, points, ends of lines and blanks are understood. -/
structure Flags where
  ignoreCase : Bool
  multiLine : Bool
  dotAll : Bool
  swapGreed : Bool
  unicode : Bool
  anyLineEnd : Bool
  verbose : Bool
deriving DecidableEq

def Flags.initial : Flags := ⟨false, false, false, false, true, false, false⟩

def isBlank (c : Char) : Bool := Unicode.whiteSpace.contains c

/-- Drops blanks and comments, which run from a hash to the end of the line. -/
def dropBlanks (inComment : Bool) : List Char → List Char
  | [] => []
  | c :: rest =>
    if inComment then dropBlanks (c != '\n') rest
    else if isBlank c then dropBlanks false rest
    else if c = '#' then dropBlanks true rest
    else c :: rest

/-- Drops blanks and comments where the flags allow them. -/
def Flags.skip (f : Flags) (text : List Char) : List Char :=
  if f.verbose then dropBlanks false text else text

def isHexDigit (c : Char) : Bool :=
  c.isDigit || ('a' ≤ c && c ≤ 'f') || ('A' ≤ c && c ≤ 'F')

/-- The character with a number, unless the number is none of a character. -/
def charOfNat? (n : Nat) : Option Char :=
  if n < 0xD800 ∨ (0xDFFF < n ∧ n < 0x110000) then some (Char.ofNat n) else none

/-- Reads so many hexadecimal digits, with blanks between and behind them. -/
def readHexDigits (f : Flags) : Nat → List Char → Option (List Char × List Char)
  | 0, text => some ([], text)
  | _ + 1, [] => none
  | n + 1, c :: rest =>
    if isHexDigit c then
      (readHexDigits f n (f.skip rest)).map fun (digits, rest) => (c :: digits, rest)
    else none

/-- Reads what stands before a closing brace, without the blanks. At most `fuel` characters are
read. -/
def readBraced (f : Flags) : Nat → List Char → Option (List Char × List Char)
  | 0, _ => none
  | fuel + 1, text =>
    match f.skip text with
    | [] => none
    | '\x7d' :: rest => some ([], rest)
    | c :: rest => (readBraced f fuel rest).map fun (inner, rest) => (c :: inner, rest)

/-- Reads the number of a character: so many digits, or any number of them between braces. -/
def readHex (f : Flags) (count : Nat) (text : List Char) : Option (Char × List Char) := do
  let (digits, rest) ← match text with
    | '\x7b' :: inner =>
      (readBraced f (inner.length + 1) inner).bind fun (digits, rest) =>
        if digits.isEmpty || !digits.all isHexDigit then none else some (digits, f.skip rest)
    | _ => readHexDigits f count text
  let c ← charOfNat? (Unicode.hexValue (String.ofList digits))
  some (c, rest)

/-- The classes that have a letter of their own. -/
inductive Shorthand where
  | digit
  | space
  | word
deriving DecidableEq

/-- What a backslash and the characters behind it stand for. A literal is `raw` if it was given
by two hexadecimal digits, which name a byte where characters do not count. -/
inductive Escape where
  | literal (c : Char) (raw : Bool)
  | shorthand (s : Shorthand) (negated : Bool)
  | property (cls : CharClass) (negated : Bool)
  | look (l : Look)

/-- Splits a text at the first place where `mark` begins. -/
def splitAtMark (mark : List Char) : List Char → Option (List Char × List Char)
  | [] => none
  | c :: rest =>
    if mark.isPrefixOf (c :: rest) then some ([], (c :: rest).drop mark.length)
    else (splitAtMark mark rest).map fun (before, after) => (c :: before, after)

/-- The class that the name of a property stands for, alone or with a value, and whether the
mark between them negates it. -/
def propertyClass? (name : List Char) : Option (CharClass × Bool) :=
  let byValue (property value : List Char) :=
    CharClass.ofPropertyValue? (String.ofList property) (String.ofList value)
  match splitAtMark ['!', '='] name with
  | some (property, value) => (byValue property value).map (·, true)
  | none =>
    match (splitAtMark [':'] name).or (splitAtMark ['='] name) with
    | some (property, value) => (byValue property value).map (·, false)
    | none => (CharClass.ofName? (String.ofList name)).map (·, false)

/-- Reads the name of a property, one letter or any text between braces. -/
def readProperty (f : Flags) (negated : Bool) (text : List Char) :
    Option (Escape × List Char) := do
  let (name, rest) ← match f.skip text with
    | [] => none
    | '\x7b' :: inner => readBraced f (inner.length + 1) inner
    | '\\' :: _ => none
    | c :: rest => some ([c], f.skip rest)
  let (cls, negatedByMark) ← propertyClass? name
  if f.unicode then some (.property cls (negated != negatedByMark), rest) else none

/-- Whether a character stands for something but itself, so that a backslash takes its meaning
away. -/
def isMeta (c : Char) : Bool := "\\.+*?()|[]\x7b\x7d^$#&-~".toList.contains c

/-- Whether a backslash before a character leaves the character as it is. -/
def isEscapable (c : Char) : Bool :=
  isMeta c || (decide (c.toNat < 128) && !c.isAlphanum && c != '<' && c != '>')

/-- Reads the name of a special boundary of words behind `\b`, which stands between braces. If
what stands there is a number of repetitions, nothing is read. -/
def readBoundaryName (f : Flags) (text : List Char) : Option (Option Look × List Char) :=
  let isNamePart (c : Char) : Bool := c.isAlpha || c == '-'
  match text with
  | '\x7b' :: inner =>
    match f.skip inner with
    | [] => none
    | c :: _ =>
      if isNamePart c then
        (readBraced f (inner.length + 1) inner).bind fun (name, rest) =>
          match String.ofList name with
          | "start" => some (some (.wordStart f.unicode), rest)
          | "end" => some (some (.wordEnd f.unicode), rest)
          | "start-half" => some (some (.wordStartHalf f.unicode), rest)
          | "end-half" => some (some (.wordEndHalf f.unicode), rest)
          | _ => none
      else some (none, text)
  | _ => some (none, text)

/-- Reads what stands behind a backslash. -/
def readEscape (f : Flags) : List Char → Option (Escape × List Char)
  | [] => none
  | 'x' :: rest => nonempty rest fun text =>
    (readHex f 2 text).map fun (c, rest) => (.literal c (text.head? != some '\x7b'), rest)
  | 'u' :: rest => nonempty rest fun text =>
    (readHex f 4 text).map fun (c, rest) => (.literal c false, rest)
  | 'U' :: rest => nonempty rest fun text =>
    (readHex f 8 text).map fun (c, rest) => (.literal c false, rest)
  | 'p' :: rest => readProperty f false rest
  | 'P' :: rest => readProperty f true rest
  | 'd' :: rest => some (.shorthand .digit false, rest)
  | 'D' :: rest => some (.shorthand .digit true, rest)
  | 's' :: rest => some (.shorthand .space false, rest)
  | 'S' :: rest => some (.shorthand .space true, rest)
  | 'w' :: rest => some (.shorthand .word false, rest)
  | 'W' :: rest => some (.shorthand .word true, rest)
  | 'a' :: rest => some (.literal '\x07' false, rest)
  | 'f' :: rest => some (.literal '\x0c' false, rest)
  | 't' :: rest => some (.literal '\t' false, rest)
  | 'n' :: rest => some (.literal '\n' false, rest)
  | 'r' :: rest => some (.literal '\r' false, rest)
  | 'v' :: rest => some (.literal '\x0b' false, rest)
  | 'A' :: rest => some (.look .textStart, rest)
  | 'z' :: rest => some (.look .textEnd, rest)
  | 'b' :: rest =>
    (readBoundaryName f rest).map fun (named, rest) =>
      (.look (named.getD (.wordBoundary f.unicode false)), rest)
  | 'B' :: rest => some (.look (.wordBoundary f.unicode true), rest)
  | '<' :: rest => some (.look (.wordStart f.unicode), rest)
  | '>' :: rest => some (.look (.wordEnd f.unicode), rest)
  | c :: rest => if isEscapable c then some (.literal c false, rest) else none
where
  /-- Goes on behind the blanks, where something has to be left. -/
  nonempty (rest : List Char) (next : List Char → Option (Escape × List Char)) :
      Option (Escape × List Char) :=
    match f.skip rest with
    | [] => none
    | text => next text

/-- The class of a shorthand. Where characters do not count, it has ASCII members alone and
cannot be negated, since the bytes outside it are no characters. -/
def Flags.shorthandClass? (f : Flags) (s : Shorthand) (negated : Bool) : Option CharClass :=
  if f.unicode then
    let cls := match s with
      | .digit => CharClass.digit
      | .space => CharClass.space
      | .word => CharClass.word
    some (if negated then cls.complement else cls)
  else if negated then none
  else
    some (match s with
      | .digit => CharClass.asciiDigit
      | .space => CharClass.asciiSpace
      | .word => CharClass.asciiWord)

/-- Adds the other cases of the members if case is ignored, and then negates the class if that is
asked for. Where characters do not count a class cannot be negated. -/
def Flags.finish? (f : Flags) (negated : Bool) (cls : CharClass) : Option CharClass :=
  let folded := if f.ignoreCase then cls.foldCase f.unicode else cls
  if negated then (if f.unicode then some folded.complement else none) else some folded

/-- Whether a literal may stand for itself: a byte that is no ASCII character may not. -/
def Flags.admitsLiteral (f : Flags) (c : Char) (raw : Bool) : Bool :=
  f.unicode || !raw || decide (c.toNat < 128)

end CaseMatch.Regex
