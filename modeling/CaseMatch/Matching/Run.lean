import CaseMatch.Matching.Context

/-!
Matching a subject against a pattern. The parts of a pattern are tried from left to right, and
the first check that fails ends the match.
-/

namespace CaseMatch

open Matching (context check assign within)

/-- The guard of a pattern holds of a subject, if there is one. -/
def guardHolds {α : Type} (guard : Option (α → Bool)) (subject : α) : Bool :=
  match guard with
  | some holds => holds subject
  | none => true

/-- Gives a value the name of a pattern, if there is one. -/
def assignName (name : Option String) (value : Value) : Matching Unit :=
  match name with
  | some name => assign name value
  | none => pure ()

namespace Pattern

mutual

/-- Matches the innermost subject of a context: first by the matcher, then by the guard, and then
the name is given. -/
def run : Pattern → Matching Unit
  | ⟨matcher, guard, name, _⟩ => do
    let subject := (← context).current
    runMatcher matcher subject
    check (guardHolds guard subject) .guardRejected
    assignName name subject

def runMatcher : Matcher Pattern → Value → Matching Unit
  | .predicate accepts, subject => check (accepts subject) .notMatched
  | .nested inner, _ => run inner
  | .array elements tail, .array items => do
    let fixed := elements.length
    match tail with
    | none => check (items.length == fixed) (.elementCount fixed items.length)
    | some _ => check (decide (fixed ≤ items.length)) (.tooFewElements fixed items.length)
    runElements elements items
    runTail tail (items.drop fixed)
  | .array _ _, _ => Matching.fail .notArray
  | .map entries, .map pairs => runEntries entries pairs
  | .map _, _ => Matching.fail .notMap

/-- Matches as many items as there are patterns, one by one. -/
def runElements : List Pattern → List Value → Matching Unit
  | p :: ps, item :: items => do
    within ⟨item, some p⟩ (run p)
    runElements ps items
  | _, _ => pure ()

/-- Matches the items behind the fixed ones, if there is a tail. -/
def runTail : Option (Tail Pattern) → List Value → Matching Unit
  | none, _ => pure ()
  | some ⟨each, guard, name⟩, rest => do
    rest.forM fun item => within ⟨item, some each⟩ (run each)
    check (guardHolds guard rest) .tailRejected
    assignName name (.array rest)

/-- Matches the values under the keys that the entries name. -/
def runEntries : List (MapKey × Pattern) → Dict → Matching Unit
  | [], _ => pure ()
  | (.required key, p) :: rest, pairs => do
    match pairs.get? key with
    | some value => within ⟨value, some p⟩ (run p)
    | none => Matching.fail (.missingKey key)
    runEntries rest pairs
  | (.optional key, p) :: rest, pairs => do
    match pairs.get? key with
    | some value => if value.isNil then pure () else within ⟨value, some p⟩ (run p)
    | none => pure ()
    runEntries rest pairs

end

/-- Matches a subject by itself, and gives the names that the match has bound. -/
def test (p : Pattern) (subject : Value) : Except NoMatch Bindings :=
  match p.run (.start subject p) with
  | (.ok (), c) => .ok c.bindings
  | (.error e, _) => .error e

end Pattern

end CaseMatch
