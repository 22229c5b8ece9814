import CaseMatch.Pattern.Basic

/-!
Why a subject does not match, and where in the subject the match failed.
-/

namespace CaseMatch

/-- A subject with the pattern that it is matched against. Where other rules than those of a
pattern are applied there is no pattern. -/
structure Frame where
  subject : Value
  pattern : Option Pattern

namespace Frame

def patternText (f : Frame) : String :=
  match f.pattern with
  | some p => p.text
  | none => "<custom>"

def text (f : Frame) : String := f.subject.text ++ " ~ " ++ f.patternText

end Frame

/-- The check that failed. -/
inductive Rejection where
  | notMatched
  | guardRejected
  | notArray
  | elementCount (expected actual : Nat)
  | tooFewElements (expected actual : Nat)
  | tailRejected
  | notMap
  | missingKey (key : Value)
  | alreadyBound (name : String) (bound value : Value)
  | custom (message : String)

namespace Rejection

def message : Rejection → String
  | .notMatched => "pattern did not match"
  | .guardRejected => "guard rejected the subject"
  | .notArray => "expected an array"
  | .elementCount expected actual =>
    "expected exactly " ++ toString expected ++ " elements, got " ++ toString actual
  | .tooFewElements expected actual =>
    "not enough elements, expected at least " ++ toString expected ++ ", got " ++ toString actual
  | .tailRejected => "tail guard rejected the tail"
  | .notMap => "expected a map"
  | .missingKey key => "no required key: " ++ key.text
  | .alreadyBound name bound value =>
    "variable " ++ quoted name ++ " is already bound to " ++ bound.text ++
      ", cannot rebind it to " ++ value.text
  | .custom message => message

end Rejection

/-- The frames from the whole subject to the part that was rejected. -/
abbrev Trace := List Frame

/-- One line for each frame, each two blanks further to the right than the one before. -/
def Trace.text (t : Trace) : String :=
  let lines := t.zipIdx.map fun (frame, depth) =>
    String.ofList (List.replicate (2 * depth) ' ') ++ frame.text
  "\n".intercalate lines

/-- A match that failed, with the clause it was tried for, if it was tried for one. -/
structure NoMatch where
  rejection : Rejection
  trace : Trace
  clause : Option Nat

namespace NoMatch

def inClause (f : NoMatch) (clause : Nat) : NoMatch := { f with clause := some clause }

/-- The part of the subject that was rejected, and by what. -/
def innermost? (f : NoMatch) : Option Frame := f.trace.getLast?

end NoMatch

end CaseMatch
