import CaseMatch.Regex.Expression

/-!
The shape of a regular expression, on which the room depends that it takes. Shapes are kept
simple: what stands in a row or to choose from is never nested in its like, neighbouring texts are
one text, and a choice among characters is a class.
-/

namespace CaseMatch.Regex

/-- What an expression is made of. A class comes with its spellings. -/
inductive Shape where
  | empty
  | literal (text : List Char)
  | one (c : CharClass) (spellings : List Spelling)
  | look (l : Look)
  | repeated (body : Shape) (least : Nat) (most : Option Nat) (reluctant : Bool)
  | group (body : Shape)
  | concat (parts : List Shape)
  | either (choices : List Shape)
deriving Inhabited

namespace Shape

mutual

/-- Whether two shapes are the same. No two groups are, since each remembers a text of its own. -/
def same : Shape → Shape → Bool
  | .empty, .empty => true
  | .literal s, .literal t => s == t
  | .one c _, .one d _ => c == d
  | .look l, .look m => l == m
  | .repeated a least most reluctant, .repeated b least' most' reluctant' =>
    least == least' && most == most' && reluctant == reluctant' && same a b
  | .concat as, .concat bs => sameAll as bs
  | .either as, .either bs => sameAll as bs
  | _, _ => false

def sameAll : List Shape → List Shape → Bool
  | [], [] => true
  | a :: as, b :: bs => same a b && sameAll as bs
  | _, _ => false

end

mutual

/-- The fewest characters that a shape takes, if it can take any at all. -/
def minLength : Shape → Option Nat
  | .empty => some 0
  | .literal s => some s.length
  | .one c _ => if c.intervals.isEmpty then none else some 1
  | .look _ => some 0
  | .repeated a least _ _ => (minLength a).map (· * least)
  | .group a => minLength a
  | .concat as => minLengthOfRow as
  | .either as => minLengthOfChoice as

def minLengthOfRow : List Shape → Option Nat
  | [] => some 0
  | a :: as => (minLength a).bind fun m => (minLengthOfRow as).map (m + ·)

def minLengthOfChoice : List Shape → Option Nat
  | [] => none
  | [a] => minLength a
  | a :: as => (minLength a).bind fun m => (minLengthOfChoice as).map (min m)

end

mutual

/-- The most characters that a shape takes, if there is a limit. -/
def maxLength : Shape → Option Nat
  | .empty => some 0
  | .literal s => some s.length
  | .one c _ => if c.intervals.isEmpty then none else some 1
  | .look _ => some 0
  | .repeated a _ most _ => (maxLength a).bind fun m => most.map (m * ·)
  | .group a => maxLength a
  | .concat as => maxLengthOfRow as
  | .either as => maxLengthOfChoice as

def maxLengthOfRow : List Shape → Option Nat
  | [] => some 0
  | a :: as => (maxLength a).bind fun m => (maxLengthOfRow as).map (m + ·)

def maxLengthOfChoice : List Shape → Option Nat
  | [] => none
  | [a] => maxLength a
  | a :: as => (maxLength a).bind fun m => (maxLengthOfChoice as).map (max m)

end

/-- The shape of a class. A class of one character is a text. -/
def ofClass (c : CharClass) : Shape :=
  match c.intervals with
  | [(a, b)] => if a = b then .literal [Char.ofNat a] else .one c c.spellings
  | _ => .one c c.spellings

/-- A shape repeated. What takes no character is repeated at most once. -/
def repetition (body : Shape) (least : Nat) (most : Option Nat) (reluctant : Bool) : Shape :=
  let once : Bool := maxLength body == some 0
  let least := if once then min least 1 else least
  let most := if once then some (min (most.getD 1) 1) else most
  if least = 0 ∧ most = some 0 then .empty
  else if least = 1 ∧ most = some 1 then body
  else .repeated body least most reluctant

/-- Joins neighbouring texts and leaves out what is empty. -/
def joinTexts : List Shape → List Shape
  | [] => []
  | .empty :: rest => joinTexts rest
  | .literal s :: rest =>
    match joinTexts rest with
    | .literal t :: others => .literal (s ++ t) :: others
    | others => .literal s :: others
  | a :: rest => a :: joinTexts rest

/-- The shape of some shapes in a row. -/
def row (parts : List Shape) : Shape :=
  let flat := parts.flatMap fun (part : Shape) =>
    match part with
    | .concat inner => inner
    | part => [part]
  match joinTexts flat with
  | [] => .empty
  | [part] => part
  | parts => .concat parts

/-- The characters of a choice among texts of one character. -/
def choiceOfChars? (choices : List Shape) : Option CharClass :=
  let intervals? : Option (List (Nat × Nat)) := choices.mapM fun (choice : Shape) =>
    match choice with
    | .literal [c] => some (c.toNat, c.toNat)
    | _ => none
  intervals?.map CharClass.ofIntervals

/-- The union of the classes of a choice among classes. -/
def choiceOfClasses? (choices : List Shape) : Option CharClass :=
  let intervals? : Option (List (List (Nat × Nat))) := choices.mapM fun (choice : Shape) =>
    match choice with
    | .one c _ => some c.intervals
    | _ => none
  intervals?.map fun intervals => CharClass.ofIntervals intervals.flatten

/-- Flattens a choice and joins its characters or its classes, if it has nothing else. -/
def joinChoices (choices : List Shape) : Shape ⊕ List Shape :=
  let flat := choices.flatMap fun (choice : Shape) =>
    match choice with
    | .either inner => inner
    | choice => [choice]
  match flat with
  | [choice] => .inl choice
  | _ =>
    match (choiceOfChars? flat).or (choiceOfClasses? flat) with
    | some c => .inl (ofClass c)
    | none => .inr flat

/-- How many parts two rows have in common at their starts. -/
def commonParts : List Shape → List Shape → Nat
  | a :: as, b :: bs => if same a b then commonParts as bs + 1 else 0
  | _, _ => 0

/-- The rows of a choice among rows. -/
def rows? (choices : List Shape) : Option (List (List Shape)) :=
  choices.mapM fun (choice : Shape) =>
    match choice with
    | .concat parts => some parts
    | _ => none

/-- The shape of some shapes to choose from. What all of them start with stands before the
choice. -/
def choice (choices : List Shape) : Shape :=
  match joinChoices choices with
  | .inl joined => joined
  | .inr flat =>
    match rows? flat with
    | some (first :: others) =>
      match (others.map (commonParts first)).min? with
      | some (n + 1) =>
        let rests := (first :: others).map fun parts => row (parts.drop (n + 1))
        let inner := match joinChoices rests with
          | .inl joined => joined
          | .inr flat => .either flat
        row (first.take (n + 1) ++ [inner])
      | _ => .either flat
    | _ => .either flat

mutual

/-- Whether a shape fits at the start of a text alone. -/
def startsText : Shape → Bool
  | .look l => l == .textStart
  | .repeated a least _ _ => decide (0 < least) && startsText a
  | .group a => startsText a
  | .concat as => rowStartsText as
  | .either as => choiceStartsText as
  | _ => false

def rowStartsText : List Shape → Bool
  | [] => false
  | a :: as => startsText a || (maxLength a == some 0 && rowStartsText as)

def choiceStartsText : List Shape → Bool
  | [] => true
  | a :: as => startsText a && choiceStartsText as

end

mutual

/-- Whether a shape fits at the end of a text alone. -/
def endsText : Shape → Bool
  | .look l => l == .textEnd
  | .repeated a least _ _ => decide (0 < least) && endsText a
  | .group a => endsText a
  | .concat as => rowEndsText as
  | .either as => choiceEndsText as
  | _ => false

def rowEndsText : List Shape → Bool
  | [] => false
  | a :: as => rowEndsText as || (as.all (maxLength · == some 0) && endsText a)

def choiceEndsText : List Shape → Bool
  | [] => true
  | a :: as => endsText a && choiceEndsText as

end

end Shape

end CaseMatch.Regex
