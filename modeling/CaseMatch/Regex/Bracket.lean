import CaseMatch.Regex.Escape

/-!
Classes in square brackets: unions of characters, intervals and other classes, which may be
nested, negated and combined by intersection, difference and symmetric difference.
-/

namespace CaseMatch.Regex

/-- How two classes are combined. All operators bind alike and to the left. -/
inductive SetOperator where
  | intersection
  | difference
  | symmetricDifference
deriving DecidableEq

def SetOperator.apply : SetOperator → CharClass → CharClass → CharClass
  | .intersection => CharClass.intersection
  | .difference => CharClass.difference
  | .symmetricDifference => CharClass.symmetricDifference

/-- A class that was read, with the number of constructs nested in it. -/
structure Sized where
  cls : CharClass
  height : Nat

/-- The items read so far of a union: their number, members and greatest height. -/
structure Union where
  count : Nat
  cls : CharClass
  height : Nat

namespace Union

def empty : Union := ⟨0, .none, 0⟩

def add (u : Union) (item : Sized) : Union :=
  ⟨u.count + 1, u.cls.union item.cls, max u.height item.height⟩

/-- The union as one operand. It is a construct of its own if it has several items. -/
def toSized (u : Union) : Sized :=
  ⟨u.cls, if u.count ≤ 1 then u.height else u.height + 1⟩

end Union

/-- An open bracket: whether it is negated, the operand and operator that wait for another
operand, and the union that is being read. -/
structure OpenBracket where
  negated : Bool
  waiting : Option (Sized × SetOperator)
  union : Union

namespace OpenBracket

/-- The class of what was read between the brackets so far. -/
def operand (f : Flags) (b : OpenBracket) : Sized :=
  let right := b.union.toSized
  match b.waiting with
  | none => right
  | some (left, operator) =>
    let folded (c : CharClass) : CharClass := if f.ignoreCase then c.foldCase f.unicode else c
    ⟨operator.apply (folded left.cls) (folded right.cls), max left.height right.height + 1⟩

/-- The class of the bracket when it is closed. -/
def close? (f : Flags) (b : OpenBracket) : Option Sized :=
  let inner := b.operand f
  (f.finish? b.negated inner.cls).map fun cls => ⟨cls, inner.height + 1⟩

def addItem (b : OpenBracket) (item : Sized) : OpenBracket :=
  { b with union := b.union.add item }

/-- Takes an operator, so that what was read becomes its left operand. -/
def combine (f : Flags) (b : OpenBracket) (operator : SetOperator) : OpenBracket :=
  ⟨b.negated, some (b.operand f, operator), .empty⟩

end OpenBracket

/-- Reads hyphens at the start of a bracket, which stand for themselves. -/
def readHyphens (f : Flags) : Nat → Union → List Char → Option (Union × List Char)
  | 0, _, _ => none
  | fuel + 1, u, text =>
    match text with
    | '-' :: rest =>
      match f.skip rest with
      | [] => none
      | rest => readHyphens f fuel (u.add ⟨.singleton '-', 0⟩) rest
    | _ => some (u, text)

/-- Reads the start of a bracket, behind the bracket itself: a sign of negation, hyphens, and a
closing bracket that stands for itself because it comes first. Something has to follow. -/
def readOpening (f : Flags) (text : List Char) : Option (OpenBracket × List Char) := do
  let text := f.skip text
  let (negated, text) := match text with
    | '^' :: rest => (true, f.skip rest)
    | _ => (false, text)
  if text.isEmpty then none
  let (u, text) ← readHyphens f (text.length + 1) .empty text
  match u.count, text with
  | 0, ']' :: rest =>
    match f.skip rest with
    | [] => none
    | rest => some (⟨negated, none, u.add ⟨.singleton ']', 0⟩⟩, rest)
  | _, _ => some (⟨negated, none, u⟩, text)

/-- Reads the name of an ASCII class between colons, behind the opening bracket. Where no such
class stands nothing is read, and the bracket opens a class of another form. -/
def readAsciiClass (text : List Char) : Option (Bool × CharClass × List Char) := do
  let .cons ':' rest := text | none
  let (negated, rest) := match rest with
    | '^' :: rest => (true, rest)
    | _ => (false, rest)
  let name := rest.takeWhile (· != ':')
  let .cons ':' (.cons ']' rest) := rest.dropWhile (· != ':') | none
  let cls ← CharClass.ofAsciiName? (String.ofList name)
  some (negated, cls, rest)

/-- An end of an interval, or a class that stands by itself. -/
inductive BracketItem where
  | literal (c : Char)
  | cls (c : CharClass)

/-- Reads one character or one sequence with a backslash. Conditions have no place in a class. -/
def readBracketItem (f : Flags) : List Char → Option (BracketItem × List Char)
  | [] => none
  | '\\' :: rest =>
    (readEscape f rest).bind fun (escape, rest) =>
      match escape with
      | .literal c _ => some (.literal c, rest)
      | .shorthand s negated => (f.shorthandClass? s negated).map fun c => (.cls c, rest)
      | .property c negated => (f.finish? negated c).map fun c => (.cls c, rest)
      | .look _ => none
  | c :: rest => some (.literal c, rest)

/-- Whether a character may be an item or an end of an interval. Where characters do not count
only ASCII characters may. -/
def Flags.admitsItem (f : Flags) (c : Char) : Bool := f.unicode || decide (c.toNat < 128)

/-- What stands behind the first of some characters, once blanks are passed over. In the search
through a comment only its first character is passed. -/
def peekPastBlanks (inComment : Bool) : List Char → Option Char
  | [] => none
  | c :: rest =>
    if isBlank c then peekPastBlanks inComment rest
    else if !inComment && c == '#' then peekPastBlanks true rest
    else some c

/-- The character that decides whether a hyphen makes an interval. Where only blanks follow it is
the first of them. -/
def Flags.peekBehind (f : Flags) (rest : List Char) : Option Char :=
  if f.verbose then (peekPastBlanks false rest).or rest.head? else rest.head?

/-- Reads an item, or an interval between two literals. A hyphen before a closing bracket or
before another hyphen makes no interval. -/
def readInterval (f : Flags) (text : List Char) : Option (Sized × List Char) := do
  let (first, rest) ← readBracketItem f text
  let rest := f.skip rest
  let alone : Option (Sized × List Char) :=
    match first with
    | .literal c => if f.admitsItem c then some (⟨.singleton c, 0⟩, rest) else none
    | .cls c => some (⟨c, 0⟩, rest)
  match rest with
  | [] => none
  | '-' :: behind =>
    if f.peekBehind behind = some ']' ∨ f.peekBehind behind = some '-' then alone
    else
      match first, f.skip behind with
      | _, [] => none
      | .literal c, text =>
        let (.literal d, rest) ← readBracketItem f text | none
        if d.toNat < c.toNat ∨ !f.admitsItem c ∨ !f.admitsItem d then none
        else some (⟨.interval c d, 0⟩, rest)
      | .cls _, _ => none
  | _ => alone

/-- Reads the rest of a class from inside its innermost open bracket. At most `fuel` items are
read. -/
def readBracketFrom (f : Flags) :
    Nat → OpenBracket → List OpenBracket → List Char → Option (Sized × List Char)
  | 0, _, _, _ => none
  | fuel + 1, b, outer, text =>
    match f.skip text with
    | [] => none
    | '[' :: rest =>
      match readAsciiClass rest with
      | some (negated, cls, rest) =>
        (f.finish? negated cls).bind fun cls =>
          readBracketFrom f fuel (b.addItem ⟨cls, 0⟩) outer rest
      | none =>
        (readOpening f rest).bind fun (inner, rest) =>
          readBracketFrom f fuel inner (b :: outer) rest
    | ']' :: rest =>
      (b.close? f).bind fun item =>
        match outer with
        | [] => some (item, rest)
        | parent :: outer => readBracketFrom f fuel (parent.addItem item) outer rest
    | '&' :: '&' :: rest => readBracketFrom f fuel (b.combine f .intersection) outer rest
    | '-' :: '-' :: rest => readBracketFrom f fuel (b.combine f .difference) outer rest
    | '~' :: '~' :: rest => readBracketFrom f fuel (b.combine f .symmetricDifference) outer rest
    | text =>
      (readInterval f text).bind fun (item, rest) =>
        readBracketFrom f fuel (b.addItem item) outer rest

/-- Reads a class in brackets, behind the first bracket. -/
def readBracket (f : Flags) (text : List Char) : Option (Sized × List Char) :=
  (readOpening f text).bind fun (b, rest) => readBracketFrom f (text.length + 1) b [] rest

end CaseMatch.Regex
