import CaseMatch.Number.Decimal
import CaseMatch.Regex.Bracket
import CaseMatch.Regex.Engine
import CaseMatch.Regex.Room

/-!
Regular expressions as they are written, and an engine for them. A text is read in one pass that
keeps the open groups on a stack; what it denotes may be nested up to a limit and may take up to a
limit of room.
-/

namespace CaseMatch

namespace Regex

/-- An expression with its shape and the number of constructs nested in it. -/
structure Node where
  expr : Expr CharClass Look
  shape : Shape
  height : Nat

namespace Node

def empty : Node := ⟨.empty, .empty, 0⟩

def ofClass (c : CharClass) : Node := ⟨.one c, .ofClass c, 0⟩

def ofLook (l : Look) : Node := ⟨.look l, .look l, 0⟩

end Node

/-- A part of a sequence. Flags that hold from here on take a place in it, but cannot be
repeated. -/
inductive Item where
  | node (n : Node)
  | flags

/-- A group that is open: its finished alternatives and the parts of the one being read, both in
reverse, the flags that hold again after the group, and whether what it matches is remembered. -/
structure OpenGroup where
  alternatives : List Node
  items : List Item
  outerFlags : Flags
  remembered : Bool

/-- What has been read: the innermost group, the groups around it, the names of groups and the
characters that are left. -/
structure Reader where
  group : OpenGroup
  outer : List OpenGroup
  names : List String
  flags : Flags
  rest : List Char

/-- The sequence of some parts. It is a construct of its own if it has several parts. -/
def sequenceNode (items : List Item) : Node :=
  let nodes := items.map fun
    | .node n => n
    | .flags => .empty
  match nodes with
  | [] => .empty
  | [n] => n
  | first :: others =>
    others.foldl (fun a b => ⟨.concat a.expr b.expr, a.shape, max a.height (b.height + 1)⟩)
      ⟨first.expr, .row (nodes.map Node.shape), first.height + 1⟩

/-- The choice among alternatives. It is a construct of its own if there are several. -/
def choiceNode (nodes : List Node) : Node :=
  match nodes with
  | [] => .empty
  | [n] => n
  | first :: others =>
    others.foldl (fun a b => ⟨.either a.expr b.expr, a.shape, max a.height (b.height + 1)⟩)
      ⟨first.expr, .choice (nodes.map Node.shape), first.height + 1⟩

namespace OpenGroup

def start (flags : Flags) (remembered : Bool) : OpenGroup := ⟨[], [], flags, remembered⟩

/-- Ends the alternative that is being read. -/
def nextAlternative (g : OpenGroup) : OpenGroup :=
  { g with alternatives := sequenceNode g.items.reverse :: g.alternatives, items := [] }

def toNode (g : OpenGroup) : Node :=
  let n := choiceNode g.nextAlternative.alternatives.reverse
  if g.remembered then { n with shape := .group n.shape } else n

end OpenGroup

namespace Reader

def addItem (r : Reader) (item : Item) (rest : List Char) : Reader :=
  { r with group := { r.group with items := item :: r.group.items }, rest := rest }

def addNode (r : Reader) (n : Node) (rest : List Char) : Reader := r.addItem (.node n) rest

/-- Replaces the last part by a repetition of it. Flags cannot be repeated, and neither can what
is not there. A question mark behind the repetition makes it prefer few rounds, which has no
bearing on whether an expression occurs. -/
def repeatLast (r : Reader) (least : Nat) (most : Option Nat) (rest : List Char) :
    Option Reader :=
  let (marked, rest) := match rest with
    | '?' :: rest => (true, rest)
    | rest => (false, rest)
  match r.group.items with
  | .node n :: items =>
    let item := Item.node ⟨.repeated n.expr least most,
      .repetition n.shape least most (marked != r.flags.swapGreed), n.height + 1⟩
    some { r with group := { r.group with items := item :: items }, rest := rest }
  | _ => none

end Reader

/-- Reads a decimal number of 32 bits with blanks around it. -/
def readCount (f : Flags) (text : List Char) : Option (Nat × List Char) :=
  let text := text.dropWhile isBlank
  let rec digits : Nat → List Char → List Char × List Char
    | 0, text => ([], text)
    | _ + 1, [] => ([], [])
    | fuel + 1, c :: rest =>
      if c.isDigit then
        let (more, rest) := digits fuel (f.skip rest)
        (c :: more, rest)
      else ([], c :: rest)
  let (ds, rest) := digits (text.length + 1) text
  let n := digitsValue ds
  if ds.isEmpty ∨ UInt32.size ≤ n then none
  else some (n, f.skip (rest.dropWhile isBlank))

/-- Reads how often the last part is repeated, behind the opening brace. -/
def readCounts (r : Reader) (text : List Char) : Option Reader := do
  let f := r.flags
  let text := f.skip text
  let (least, rest) ← readCount f text
  let finish (most : Option Nat) (rest : List Char) : Option Reader :=
    r.repeatLast least most (f.skip rest)
  match rest with
  | '\x7d' :: rest => finish (some least) rest
  | ',' :: rest =>
    match f.skip rest with
    | '\x7d' :: rest => finish none rest
    | rest =>
      let (most, rest) ← readCount f rest
      let .cons '\x7d' rest := rest | none
      if most < least then none else finish (some most) rest
  | _ => none

/-- Whether a character may be part of the name of a group. -/
def isGroupNamePart (isFirst : Bool) (c : Char) : Bool :=
  c == '_' || Unicode.alphabetic.contains c || Unicode.newerLetters.contains c ||
    (!isFirst && (c == '.' || c == '[' || c == ']' ||
      ["Nd", "Nl", "No"].contains (Unicode.generalCategories.valueAt c)))

/-- Reads the name of a group, behind the opening bracket. -/
def readGroupName (text : List Char) : Option (String × List Char) := do
  let name := text.takeWhile (· != '>')
  let .cons '>' rest := text.dropWhile (· != '>') | none
  let .cons first others := name | none
  if isGroupNamePart true first && others.all (isGroupNamePart false) then
    some (String.ofList name, rest)
  else none

/-- Sets the flag that goes by a letter. -/
def Flags.set? (f : Flags) (letter : Char) (value : Bool) : Option Flags :=
  match letter with
  | 'i' => some { f with ignoreCase := value }
  | 'm' => some { f with multiLine := value }
  | 's' => some { f with dotAll := value }
  | 'U' => some { f with swapGreed := value }
  | 'u' => some { f with unicode := value }
  | 'R' => some { f with anyLineEnd := value }
  | 'x' => some { f with verbose := value }
  | _ => none

/-- Reads letters of flags up to a colon or a closing parenthesis, given those that came before.
No letter comes twice, a minus comes once at most, and it does not come last. -/
def readFlags (f : Flags) (seen : List Char) : List Char → Option (Flags × List Char × List Char)
  | [] => none
  | c :: rest =>
    if c = ':' ∨ c = ')' then
      if seen.head? = some '-' then none else some (f, seen, c :: rest)
    else if seen.contains c then none
    else if c = '-' then readFlags f (c :: seen) rest
    else
      match f.set? c (!seen.contains '-') with
      | none => none
      | some f => readFlags f (c :: seen) rest

/-- Reads the start of a group, behind its opening parenthesis: a group with or without a name, a
group with flags of its own, or flags that hold from here on. -/
def openGroup (r : Reader) (text : List Char) : Option Reader :=
  let f := r.flags
  let entered (remembered : Bool) (flags : Flags) (names : List String) (rest : List Char) :
      Reader :=
    ⟨.start f remembered, r.group :: r.outer, names, flags, rest⟩
  let named (text : List Char) : Option Reader := do
    let (name, rest) ← readGroupName text
    if r.names.contains name then none else some (entered true f (name :: r.names) rest)
  match f.skip text with
  | '?' :: 'P' :: '<' :: rest => named rest
  | '?' :: '<' :: '=' :: _ => none
  | '?' :: '<' :: '!' :: _ => none
  | '?' :: '<' :: rest => named rest
  | '?' :: rest =>
    match readFlags f [] rest with
    | some (flags, _, ':' :: rest) => some (entered false flags r.names rest)
    | some (flags, seen, ')' :: rest) =>
      if seen.isEmpty then none else some { r.addItem .flags rest with flags := flags }
    | _ => none
  | rest => some (entered true f r.names rest)

/-- Closes the innermost group. -/
def closeGroup (r : Reader) (rest : List Char) : Option Reader :=
  match r.outer with
  | [] => none
  | parent :: outer =>
    let inner := r.group.toNode
    some ({ r with
      group := parent
      outer := outer
      flags := r.group.outerFlags }.addNode { inner with height := inner.height + 1 } rest)

/-- The class of a character that stands for itself. -/
def Flags.literal (f : Flags) (c : Char) : CharClass :=
  if f.ignoreCase then (CharClass.singleton c).foldCase f.unicode else .singleton c

/-- The class of a point, which has no meaning where characters do not count. -/
def Flags.point? (f : Flags) : Option CharClass :=
  if !f.unicode then none
  else if f.dotAll then some .all
  else
    let excluded := if f.anyLineEnd then [('\n', '\n'), ('\r', '\r')] else [('\n', '\n')]
    some (CharClass.ofChars excluded).complement

def Flags.lineStart (f : Flags) : Look :=
  if !f.multiLine then .textStart else if f.anyLineEnd then .anyLineStart else .lineStart

def Flags.lineEnd (f : Flags) : Look :=
  if !f.multiLine then .textEnd else if f.anyLineEnd then .anyLineEnd else .lineEnd

/-- Reads a sequence that begins with a backslash, outside brackets. -/
def readEscaped (r : Reader) (text : List Char) : Option Reader := do
  let f := r.flags
  let (escape, rest) ← readEscape f text
  match escape with
  | .literal c raw =>
    if f.admitsLiteral c raw then some (r.addNode (.ofClass (f.literal c)) rest) else none
  | .shorthand s negated =>
    (f.shorthandClass? s negated).map fun c => r.addNode (.ofClass c) rest
  | .property c negated => (f.finish? negated c).map fun c => r.addNode (.ofClass c) rest
  | .look l => some (r.addNode (.ofLook l) rest)

/-- Reads one construct, if any is left. -/
def Reader.step (r : Reader) : Option Reader :=
  let f := r.flags
  match f.skip r.rest with
  | [] => some { r with rest := [] }
  | '(' :: rest => openGroup r rest
  | ')' :: rest => closeGroup r rest
  | '|' :: rest => some { r with group := r.group.nextAlternative, rest := rest }
  | '[' :: rest =>
    (readBracket f rest).map fun (item, rest) =>
      r.addNode { Node.ofClass item.cls with height := item.height } rest
  | '?' :: rest => r.repeatLast 0 (some 1) rest
  | '*' :: rest => r.repeatLast 0 none rest
  | '+' :: rest => r.repeatLast 1 none rest
  | '\x7b' :: rest => readCounts r rest
  | '\\' :: rest => readEscaped r rest
  | '.' :: rest => f.point?.map fun c => r.addNode (.ofClass c) rest
  | '^' :: rest => some (r.addNode (.ofLook f.lineStart) rest)
  | '$' :: rest => some (r.addNode (.ofLook f.lineEnd) rest)
  | c :: rest => some (r.addNode (.ofClass (f.literal c)) rest)

/-- Reads all constructs, of which there are at most `fuel`. -/
def Reader.run : Nat → Reader → Option Node
  | 0, _ => none
  | fuel + 1, r =>
    if r.rest.isEmpty then
      if r.outer.isEmpty then some r.group.toNode else none
    else r.step.bind (run fuel)

/-- The constructs that may be nested in one another. -/
def heightLimit : Nat := 250

/-- Reads a regular expression. There is none if the text breaks the rules of the notation, or if
it goes beyond the limits. -/
def read? (source : String) : Option (Expr CharClass Look) :=
  let text := source.toList
  let start : Reader := ⟨.start .initial false, [], [], .initial, text⟩
  match Reader.run (text.length + 1) start with
  | none => none
  | some node =>
    if node.height ≤ heightLimit ∧ node.shape.fits then some node.expr
    else none

/-- The engine that reads expressions by this notation and looks for them with sets of positions. -/
@[reducible]
def standard : RegexEngine where
  occurrence? source := (read? source).map fun e text => e.occursIn text.toList

end Regex

end CaseMatch
