import CaseMatch.Pattern.Basic
import CaseMatch.Regex.Engine
import CaseMatch.Value.Kind
import CaseMatch.Value.Range

/-!
Templates: whatever can stand for a pattern, from a plain value to a pattern that is built
already. `Template.toPattern` gives each the most specific pattern of its shape.
-/

namespace CaseMatch

/-- What can be made into a pattern. -/
inductive Template where
  | pattern (p : Pattern)
  | tail (t : TailPattern)
  | regex (r : Regex)
  | array (items : List Template)
  | range (r : NumberRange)
  | set (members : List Int64)
  | map (entries : List (MapKey × Template))
  | kind (k : Kind)
  | literal (v : Value)

namespace Pattern

/-- The pattern of the subjects equal to a value. -/
def literal (v : Value) : Pattern := ofPredicate v.text (fun subject => subject.eq v)

def ofKind (k : Kind) : Pattern := ofPredicate k.text k.admits

def ofRange (r : NumberRange) : Pattern := ofPredicate ("Integer(" ++ r.text ++ ")") r.contains

/-- The members of a set, in order and each once. -/
def distinct (members : List Int64) : List Int64 :=
  members.foldr (fun n sorted => insertOnce n sorted) []
where
  insertOnce (n : Int64) : List Int64 → List Int64
    | [] => [n]
    | m :: rest =>
      if n.toInt < m.toInt then n :: m :: rest
      else if n = m then m :: rest
      else m :: insertOnce n rest

/-- The pattern of the integers in a set. -/
def ofSet (members : List Int64) : Pattern :=
  let shown := (distinct members).map fun n => toString n.toInt
  ofPredicate ("Integer\x7b" ++ ", ".intercalate shown ++ "\x7d") fun subject =>
    match subject with
    | .integer n => members.contains n
    | _ => false

/-- The pattern of the strings in which an expression occurs. -/
def ofRegex (r : Regex) : Pattern :=
  ofPredicate ("/" ++ r.source ++ "/") fun subject =>
    match subject with
    | .string text => r.isMatch text
    | _ => false

/-- The pattern of the symbols in whose name an expression occurs. -/
def ofSymbolRegex (r : Regex) : Pattern :=
  ofPredicate ("Symbol(/" ++ r.source ++ "/)") fun subject =>
    match subject with
    | .symbol name => r.isMatch name
    | _ => false

/-- Reads a regular expression for use in a pattern. -/
def regex [RegexEngine] (source : String) : Except PatternError Regex :=
  match Regex.compile? source with
  | some r => .ok r
  | none => .error (.regularExpression source)

def stringMatching [RegexEngine] (source : String) : Except PatternError Pattern :=
  (regex source).map ofRegex

def symbolMatching [RegexEngine] (source : String) : Except PatternError Pattern :=
  (regex source).map ofSymbolRegex

/-- The pattern of every subject. -/
def wildcard : Pattern := ofPredicate "_" fun _ => true

/-- The pattern that gives a name to any subject. -/
def var (name : String) : Except PatternError Pattern := wildcard.named name

/-- The pattern of the subjects equal to one of some values. -/
def oneOf (values : List Value) (name : String) : Except PatternError Pattern :=
  (ofPredicate ("one_of(" ++ ", ".intercalate (values.map Value.text) ++ ")")
    fun subject => values.any fun v => v.eq subject).named name

end Pattern

namespace Template

mutual

/-- The pattern that a template stands for. A tail stands for none by itself. -/
def toPattern : Template → Except PatternError Pattern
  | .pattern p => .ok p
  | .tail t => .error (.tailOutsideArray t)
  | .regex r => .ok (.ofRegex r)
  | .array items => do Pattern.ofElements (← toElements items)
  | .range r => .ok (.ofRange r)
  | .set members => .ok (.ofSet members)
  | .map entries => do .ok (Pattern.ofEntries (← toEntries entries))
  | .kind k => .ok (.ofKind k)
  | .literal v => .ok (.literal v)

/-- The items of an array pattern, among which tails are allowed. -/
def toElements : List Template → Except PatternError (List Element)
  | [] => .ok []
  | .tail t :: rest => do .ok (.tail t :: (← toElements rest))
  | item :: rest => do
    let p ← toPattern item
    .ok (.pattern p :: (← toElements rest))

/-- The entries of a map pattern. -/
def toEntries : List (MapKey × Template) → Except PatternError (List (MapKey × Pattern))
  | [] => .ok []
  | (key, item) :: rest => do
    let p ← toPattern item
    .ok ((key, p) :: (← toEntries rest))

end

/-- The key that a value stands for: an array of one element is an optional key. -/
def keyOfValue : Value → MapKey
  | .array [inner] => .optional inner
  | key => .required key

mutual

/-- A value as a template. Arrays and maps become templates element by element. -/
def ofValue : Value → Template
  | .array items => .array (ofItems items)
  | .map entries => .map (ofEntries entries)
  | v => .literal v

def ofItems : List Value → List Template
  | [] => []
  | item :: rest => ofValue item :: ofItems rest

def ofEntries : List (Value × Value) → List (MapKey × Template)
  | [] => []
  | (key, value) :: rest => (keyOfValue key, ofValue value) :: ofEntries rest

end

/-- The pattern of what a template stands for, around which a name is put. -/
def bind (t : Template) (name : String) : Except PatternError Pattern := do
  (Pattern.nested (← t.toPattern)).named name

/-- The tail whose elements are what a template stands for. -/
def toTail (t : Template) : Except PatternError TailPattern := do
  .ok (.ofPattern (← t.toPattern))

end Template

end CaseMatch
