import CaseMatch.Unicode.Lowercase
import CaseMatch.Value.Text

/-!
Patterns, and how they are shown. A pattern tests a subject with its matcher, then with its
guard, and then gives the subject its name. What a label says does not take part in matching.
-/

namespace CaseMatch

/-- A key of a map pattern. An optional entry is skipped where the map has no such key, or has
nil under it. -/
inductive MapKey where
  | required (key : Value)
  | optional (key : Value)

namespace MapKey

def value : MapKey → Value
  | .required key => key
  | .optional key => key

def text : MapKey → String
  | .required key => key.text
  | .optional key => "[" ++ key.text ++ "]"

end MapKey

/-- What the elements of an array behind the fixed ones have to be: each by itself, and all of
them together. The name is given to the array of them. -/
structure Tail (P : Type) where
  each : P
  guard : Option (List Value → Bool)
  name : Option String

/-- How a subject is tested. -/
inductive Matcher (P : Type) where
  | predicate (accepts : Value → Bool)
  | nested (inner : P)
  | array (elements : List P) (tail : Option (Tail P))
  | map (entries : List (MapKey × P))

/-- A pattern. Its name, if it has one, is in lower case. -/
structure Pattern where
  matcher : Matcher Pattern
  guard : Option (Value → Bool)
  name : Option String
  label : String

/-- A label with what is shown of a name and a guard. -/
def decorated (label : String) (name : Option String) (guarded : Bool) : String :=
  label ++ (match name with | some name => " @ " ++ name | none => "") ++
    (if guarded then " if <guard>" else "")

/-- A name as the fields of a structure show it. -/
def optionalNameText : Option String → String
  | some name => "Some(" ++ quoted name ++ ")"
  | none => "None"

def boolText (b : Bool) : String := if b then "true" else "false"

namespace Pattern

def text (p : Pattern) : String := decorated p.label p.name p.guard.isSome

/-- All fields of a pattern but its matcher. -/
def fieldsText (p : Pattern) : String :=
  "Pattern \x7b label: " ++ quoted p.label ++ ", variable: " ++ optionalNameText p.name ++
    ", guard: " ++ boolText p.guard.isSome ++ " \x7d"

end Pattern

/-- A tail of patterns. -/
abbrev TailPattern := Tail Pattern

namespace TailPattern

def text (t : TailPattern) : String := decorated ("*" ++ t.each.text) t.name t.guard.isSome

def fieldsText (t : TailPattern) : String :=
  "TailPattern \x7b pattern: " ++ t.each.fieldsText ++ ", variable: " ++
    optionalNameText t.name ++ ", guard: " ++ boolText t.guard.isSome ++ " \x7d"

end TailPattern

/-- How the structure that a matcher asks for is written. -/
def arrayText (elements : List Pattern) (tail : Option TailPattern) : String :=
  let parts := elements.map Pattern.text ++ (tail.map TailPattern.text).toList
  "[" ++ ", ".intercalate parts ++ "]"

def mapText (entries : List (MapKey × Pattern)) : String :=
  let parts := entries.map fun (key, p) => key.text ++ " => " ++ p.text
  "\x7b" ++ ", ".intercalate parts ++ "\x7d"

/-- Why no pattern can be built. -/
inductive PatternError where
  | variableName (name : String)
  | tailNotLast (tail : TailPattern) (position count : Nat)
  | tailOutsideArray (tail : TailPattern)
  | tailAsClause (tail : TailPattern)
  | regularExpression (source : String)
  | other (reason : String)

namespace PatternError

/-- The reason in words. -/
def reason : PatternError → String
  | .variableName name => quoted name ++ " is not a valid variable name"
  | .tailNotLast tail position count =>
    "tail pattern " ++ tail.text ++
      " is only allowed at the end of an array pattern, found at position " ++ toString position ++
      " of " ++ toString count
  | .tailOutsideArray tail =>
    "tail pattern " ++ tail.text ++ " is only allowed inside an array pattern"
  | .tailAsClause tail =>
    "tail pattern " ++ tail.text ++ " is only allowed in structural patterns, not as a clause"
  | .regularExpression source => "invalid regular expression " ++ quoted source
  | .other reason => reason

def message (e : PatternError) : String := "invalid-pattern: " ++ e.reason

end PatternError

/-- Whether a character may begin a variable's name, or stand further on in it. -/
def isNameStart (c : Char) : Bool := c.isAlpha || c == '_'

def isNamePart (c : Char) : Bool := c.isAlphanum || c == '_'

def isVariableName (name : String) : Bool :=
  match name.toList with
  | [] => false
  | first :: rest => isNameStart first && rest.all isNamePart

/-- A variable's name in lower case, in which it is bound and looked up. -/
def variableName (name : String) : Except PatternError String :=
  if isVariableName name then .ok (lowercase name) else .error (.variableName name)

namespace Pattern

/-- The pattern with this matcher and label, without a guard or a name. -/
def ofMatcher (matcher : Matcher Pattern) (label : String) : Pattern :=
  ⟨matcher, none, none, label⟩

def ofPredicate (label : String) (accepts : Value → Bool) : Pattern :=
  ofMatcher (.predicate accepts) label

/-- A pattern around another, to which a further guard and name can be given. -/
def nested (inner : Pattern) : Pattern := ofMatcher (.nested inner) inner.label

/-- The pattern with another guard in the place of its own. -/
def guarded (p : Pattern) (guard : Value → Bool) : Pattern := { p with guard := some guard }

/-- The pattern with another name in the place of its own. -/
def named (p : Pattern) (name : String) : Except PatternError Pattern :=
  (variableName name).map fun name => { p with name := some name }

def labeled (p : Pattern) (label : String) : Pattern := { p with label := label }

end Pattern

namespace TailPattern

def ofPattern (each : Pattern) : TailPattern := ⟨each, none, none⟩

def guarded (t : TailPattern) (guard : List Value → Bool) : TailPattern :=
  { t with guard := some guard }

def named (t : TailPattern) (name : String) : Except PatternError TailPattern :=
  (variableName name).map fun name => { t with name := some name }

end TailPattern

/-- An item of an array pattern. -/
inductive Element where
  | pattern (p : Pattern)
  | tail (t : TailPattern)

/-- Sorts items into the fixed ones and the tail, which has to come last. The items from
`position` on are given; there are `count` of them in all. -/
def splitTail (position count : Nat) :
    List Element → Except PatternError (List Pattern × Option TailPattern)
  | [] => .ok ([], none)
  | .pattern p :: rest =>
    (splitTail (position + 1) count rest).map fun (elements, tail) => (p :: elements, tail)
  | .tail t :: rest =>
    if rest.isEmpty then .ok ([], some t) else .error (.tailNotLast t position count)

namespace Pattern

/-- The pattern of arrays with these items. -/
def ofElements (elements : List Element) : Except PatternError Pattern :=
  (splitTail 0 elements.length elements).map fun (fixed, tail) =>
    ofMatcher (.array fixed tail) (arrayText fixed tail)

/-- The pattern of maps with these entries. Other keys of a map do not matter. -/
def ofEntries (entries : List (MapKey × Pattern)) : Pattern :=
  ofMatcher (.map entries) (mapText entries)

end Pattern

end CaseMatch
