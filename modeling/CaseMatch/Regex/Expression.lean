import CaseMatch.Regex.CharClass

/-!
Regular expressions and the question whether one occurs in a text. The answer is found with sets
of positions: an expression takes the set of positions where it may begin to the set of those
where it may end. A set of positions is a natural number, whose bit `i` tells of the place before
the character number `i`.
-/

namespace CaseMatch.Regex

/-- A condition on a place between two characters. -/
inductive Look where
  | textStart
  | textEnd
  | lineStart
  | lineEnd
  /-- The start of a line, where lines may also end in a return or in a return with a feed. -/
  | anyLineStart
  | anyLineEnd
  | wordBoundary (unicode negated : Bool)
  | wordStart (unicode : Bool)
  | wordEnd (unicode : Bool)
  | wordStartHalf (unicode : Bool)
  | wordEndHalf (unicode : Bool)
deriving DecidableEq

namespace Look

/-- Whether a neighbour exists and is part of a word. -/
def isWord (unicode : Bool) : Option Char → Bool
  | none => false
  | some c => (if unicode then CharClass.word else CharClass.asciiWord).contains c

/-- Whether the condition holds between two neighbours, either of which may be missing. -/
def holds (before after : Option Char) : Look → Bool
  | .textStart => before.isNone
  | .textEnd => after.isNone
  | .lineStart => before.isNone || before == some '\n'
  | .lineEnd => after.isNone || after == some '\n'
  | .anyLineStart =>
    before.isNone || before == some '\n' || (before == some '\r' && after != some '\n')
  | .anyLineEnd =>
    after.isNone || after == some '\r' || (after == some '\n' && before != some '\r')
  | .wordBoundary unicode negated => (isWord unicode before != isWord unicode after) != negated
  | .wordStart unicode => !isWord unicode before && isWord unicode after
  | .wordEnd unicode => isWord unicode before && !isWord unicode after
  | .wordStartHalf unicode => !isWord unicode before
  | .wordEndHalf unicode => !isWord unicode after

end Look

/-- A regular expression over classes and conditions of any form. -/
inductive Expr (Class Condition : Type) where
  | empty
  | one (c : Class)
  | look (l : Condition)
  | concat (first second : Expr Class Condition)
  | either (first second : Expr Class Condition)
  | repeated (body : Expr Class Condition) (least : Nat) (most : Option Nat)

namespace Expr

variable {Class Condition Class' Condition' : Type}

/-- Replaces each class and each condition. -/
def map (f : Class → Class') (g : Condition → Condition') :
    Expr Class Condition → Expr Class' Condition'
  | .empty => .empty
  | .one c => .one (f c)
  | .look l => .look (g l)
  | .concat a b => .concat (a.map f g) (b.map f g)
  | .either a b => .either (a.map f g) (b.map f g)
  | .repeated a least most => .repeated (a.map f g) least most

/-- Applies a function to a set so many times, or fewer if it no longer changes the set. -/
def times (step : Nat → Nat) : Nat → Nat → Nat
  | 0, s => s
  | n + 1, s =>
    let t := step s
    if t = s then s else times step n t

/-- Adds to a set what a function reaches from it in so many rounds. -/
def grow (step : Nat → Nat) : Nat → Nat → Nat
  | 0, s => s
  | n + 1, s =>
    let t := s ||| step s
    if t = s then s else grow step n t

/-- The places where an expression can end that begins in one of the places `s`. Each class is
given by the characters of the text that belong to it and each condition by the places where it
holds. A repetition without a limit reaches no new place after `rounds` rounds, if `rounds` is at
least the number of places. -/
def ends (rounds : Nat) : Expr Nat Nat → Nat → Nat
  | .empty, s => s
  | .one members, s => (s &&& members) <<< 1
  | .look places, s => s &&& places
  | .concat a b, s => ends rounds b (ends rounds a s)
  | .either a b, s => ends rounds a s ||| ends rounds b s
  | .repeated a least none, s => grow (ends rounds a) rounds (times (ends rounds a) least s)
  | .repeated a least (some most), s =>
    grow (ends rounds a) (min (most - least) rounds) (times (ends rounds a) least s)

end Expr

/-- The set of the characters of a text that pass a test. -/
def memberSet (test : Char → Bool) (text : List Char) : Nat :=
  text.foldr (fun c s => 2 * s + if test c then 1 else 0) 0

/-- The set of the places of a text that pass a test on their neighbours, given the neighbour
before the first. -/
def placeSet (test : Option Char → Option Char → Bool) : Option Char → List Char → Nat
  | before, [] => if test before none then 1 else 0
  | before, c :: rest =>
    2 * placeSet test (some c) rest + if test before (some c) then 1 else 0

/-- Whether the expression occurs anywhere in a text. -/
def Expr.occursIn (e : Expr CharClass Look) (text : List Char) : Bool :=
  let resolved := e.map (fun c => memberSet c.contains text)
    (fun l => placeSet (fun before after => l.holds before after) none text)
  let places := text.length + 1
  resolved.ends places (1 <<< places - 1) != 0

end CaseMatch.Regex
